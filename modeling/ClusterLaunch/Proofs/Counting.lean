import ClusterLaunch.Proofs.Launch.Outcome
import ClusterLaunch.Session

/-!
What the counters say after any errands in any order. Each is the number of the deeds
that it is of, as far as 64 bits go. Every launch that was started is counted once more,
by its mode or by its stage, and a rejected one never is.
-/

namespace ClusterLaunch

inductive Tally
  | rejected
  | started
  | submitted (mode : Mode)
  | failed (stage : Stage)
  deriving DecidableEq, Repr

/-- The tally of launches, of the operation that is carried out or of others. -/
def Tally.launches : Bool → Tally
  | true => .started
  | false => .rejected

def Counters.get (c : Counters) : Tally → UInt64
  | .rejected => c.rejected
  | .started => c.started
  | .submitted mode => c.submitted mode
  | .failed stage => c.failuresAt stage

def Errand.launches (run : Bool) : Errand → Bool
  | .launch _ r => Operation.isRun r.operation == run
  | .preview .. | .flush => false

def Deed.counts : Tally → Deed → Bool
  | .rejected, .launched r _ _ => !Operation.isRun r.operation
  | .started, .launched r _ _ => Operation.isRun r.operation
  | .submitted mode, .launched r (.ok _) _ => mode == r.order.mode
  | .failed stage, .launched r (.error failure) _ =>
      Operation.isRun r.operation && stage == failure.stage
  | _, _ => false

def Deed.tallied (deeds : List Deed) (t : Tally) : Nat :=
  deeds.countP (Deed.counts t)

def Deed.failures (deeds : List Deed) : Nat :=
  (Stage.all.map fun stage => Deed.tallied deeds (.failed stage)).foldr (· + ·) 0

namespace Deed

theorem tallied_cons (deed : Deed) (deeds : List Deed) (t : Tally) :
    tallied (deed :: deeds) t = tallied [deed] t + tallied deeds t := by
  rw [tallied, ← List.singleton_append, List.countP_append]
  rfl

theorem failures_cons (deed : Deed) (deeds : List Deed) :
    failures (deed :: deeds) = failures [deed] + failures deeds := by
  unfold failures
  induction Stage.all with
  | nil => rfl
  | cons stage stages ih =>
      have hstage := tallied_cons deed deeds (.failed stage)
      simp only [List.map_cons, List.foldr_cons]
      omega

end Deed

namespace Counters

theorem get_recordRejected (c : Counters) (t : Tally) :
    c.recordRejected.get t = c.get t + if t = .rejected then 1 else 0 := by
  cases t <;> simp [get, recordRejected, submitted]

theorem get_recordStarted (c : Counters) (t : Tally) :
    c.recordStarted.get t = c.get t + if t = .started then 1 else 0 := by
  cases t <;> simp [get, recordStarted, submitted]

theorem get_recordSubmitted (c : Counters) (mode : Mode) (t : Tally) :
    (c.recordSubmitted mode).get t = c.get t + if t = .submitted mode then 1 else 0 := by
  cases t with
  | submitted other => cases mode <;> cases other <;> simp [get, recordSubmitted, submitted]
  | _ => cases mode <;> simp [get, recordSubmitted]

theorem get_recordFailure (c : Counters) (stage : Stage) (t : Tally) :
    (c.recordFailure stage).get t = c.get t + if t = .failed stage then 1 else 0 := by
  cases t with
  | failed other => by_cases h : other = stage <;> simp [get, recordFailure, h]
  | submitted mode => cases mode <;> simp [get, recordFailure, submitted]
  | _ => simp [get, recordFailure]

/-- The sum of the counters of failures is that of what they count. -/
theorem failures_eq {c : Counters} {f : Stage → Nat}
    (h : ∀ stage, c.failuresAt stage = UInt64.ofNat (f stage)) :
    c.failures = UInt64.ofNat ((Stage.all.map f).foldr (· + ·) 0) := by
  unfold failures
  induction Stage.all with
  | nil => rfl
  | cons stage stages ih => simp [h, ih, UInt64.ofNat_add]

end Counters

namespace Session

variable {σ : Type} {l : Launcher σ} {r : Request} {deed : Deed}

theorem run_cons (l : Launcher σ) (s : Session σ) (errand : Errand) (errands : List Errand) :
    s.run l (errand :: errands) =
      (((s.serve l errand).1.run l errands).1,
        (s.serve l errand).2 :: ((s.serve l errand).1.run l errands).2) := rfl

/-! One errand. -/

/-- A preview changes nothing. -/
theorem serve_preview (l : Launcher σ) (s : Session σ) (draws : Draws) (r : Request) :
    (s.serve l (.preview draws r)).1 = s := rfl

/-- A report changes nothing. -/
theorem serve_flush (l : Launcher σ) (s : Session σ) : (s.serve l .flush).1 = s := rfl

theorem counters_serve_of_not_isRun (s : Session σ) (draws : Draws)
    (h : Operation.isRun r.operation = false) :
    (s.serve l (.launch draws r)).1.counters = s.counters.recordRejected := by
  simp [serve, Launcher.launch_of_not_isRun l draws s.counters s.state h]

theorem counters_serve_of_isRun (s : Session σ) (draws : Draws)
    (h : Operation.isRun r.operation = true) :
    (s.serve l (.launch draws r)).1.counters = Launcher.tally s.counters.recordStarted r
      (l.launch draws r s.counters s.state).1.answer := by
  simp [serve, Launcher.launch_of_isRun l draws s.counters s.state h]

theorem answer_of_not_isRun (s : Session σ) (draws : Draws)
    (h : Operation.isRun r.operation = false) :
    (l.launch draws r s.counters s.state).1.answer =
      .error ⟨.validateOperation, .unsupportedOperation r.operation⟩ :=
  (Launcher.Ends.rejected h).answer_eq s.counters

/-- A counter goes up by one with a deed that it is of, and stays with any other. -/
theorem get_serve (l : Launcher σ) (s : Session σ) (errand : Errand) (t : Tally) :
    (s.serve l errand).1.counters.get t =
      s.counters.get t + if (s.serve l errand).2.counts t then 1 else 0 := by
  cases errand with
  | preview draws r => simp [serve, Deed.counts]
  | flush => simp [serve, Deed.counts]
  | launch draws r =>
      cases hrun : Operation.isRun r.operation with
      | false =>
          rw [counters_serve_of_not_isRun s draws hrun, Counters.get_recordRejected]
          cases t <;> simp [serve, Deed.counts, answer_of_not_isRun s draws hrun, hrun]
      | true =>
          rw [counters_serve_of_isRun s draws hrun]
          cases hanswer : (l.launch draws r s.counters s.state).1.answer with
          | ok watch =>
              rw [Launcher.tally, Counters.get_recordSubmitted, Counters.get_recordStarted]
              cases t <;> simp [serve, Deed.counts, hanswer, hrun]
          | error failure =>
              rw [Launcher.tally, Counters.get_recordFailure, Counters.get_recordStarted]
              cases t <;> simp [serve, Deed.counts, hanswer, hrun]

theorem counts_launches_serve (l : Launcher σ) (s : Session σ) (errand : Errand) (run : Bool) :
    (s.serve l errand).2.counts (Tally.launches run) = errand.launches run := by
  cases errand with
  | launch draws r => cases run <;> simp [serve, Deed.counts, Errand.launches, Tally.launches]
  | _ => cases run <;> rfl

/-- A launch that was started does not fail at the check of its operation. -/
theorem counts_validate_serve (l : Launcher σ) (s : Session σ) (errand : Errand) :
    (s.serve l errand).2.counts (.failed .validateOperation) = false := by
  cases errand with
  | launch draws r =>
      obtain ⟨ending, answer, hends⟩ := l.exists_ends draws r s.state
      have hanswer := hends.answer_eq s.counters
      cases answer with
      | ok watch => simp [serve, Deed.counts, hanswer]
      | error failure =>
          cases hrun : Operation.isRun r.operation with
          | false => simp [serve, Deed.counts, hanswer, hrun]
          | true =>
              have hstage := hends.stage_ne_of_isRun hrun
              simp [serve, Deed.counts, hanswer, hstage.symm]
  | _ => rfl

/-- A launch that was started is counted once more, and no other errand is. -/
theorem balance_serve (l : Launcher σ) (s : Session σ) (errand : Errand) :
    Deed.tallied [(s.serve l errand).2] .started =
      Deed.tallied [(s.serve l errand).2] (.submitted .batch) +
        Deed.tallied [(s.serve l errand).2] (.submitted .interactive) +
        Deed.failures [(s.serve l errand).2] := by
  cases errand with
  | preview draws r => rfl
  | flush => rfl
  | launch draws r =>
      cases hrun : Operation.isRun r.operation with
      | false =>
          simp [serve, Deed.tallied, Deed.failures, Deed.counts, answer_of_not_isRun s draws hrun,
            hrun, Stage.all]
      | true =>
          cases hanswer : (l.launch draws r s.counters s.state).1.answer with
          | ok watch =>
              cases hmode : r.order.mode <;>
                simp [serve, Deed.tallied, Deed.failures, Deed.counts, hanswer, hrun, hmode,
                  Stage.all]
          | error failure =>
              cases hstage : failure.stage <;>
                simp [serve, Deed.tallied, Deed.failures, Deed.counts, hanswer, hrun, hstage,
                  Stage.all]

/-! Any number of errands. -/

/-- Every deed of a run is what came of one errand. -/
theorem exists_serve_of_mem_run {s : Session σ} {errands : List Errand}
    (h : deed ∈ (s.run l errands).2) :
    ∃ (earlier : Session σ) (errand : Errand), deed = (earlier.serve l errand).2 := by
  induction errands generalizing s with
  | nil => cases h
  | cons errand errands ih =>
      rw [run_cons] at h
      rcases List.mem_cons.mp h with rfl | hlater
      · exact ⟨s, errand, rfl⟩
      · exact ih hlater

/-- A counter goes up by the number of the deeds that it is of. -/
theorem get_run (l : Launcher σ) (s : Session σ) (errands : List Errand) (t : Tally) :
    (s.run l errands).1.counters.get t =
      s.counters.get t + UInt64.ofNat (Deed.tallied (s.run l errands).2 t) := by
  induction errands generalizing s with
  | nil => simp [run, Deed.tallied]
  | cons errand errands ih =>
      rw [run_cons, ih, get_serve, Deed.tallied, Deed.tallied, List.countP_cons, Nat.add_comm]
      rw [UInt64.ofNat_add, UInt64.add_assoc]
      congr 2
      split <;> rfl

/-- Which launches are started is settled by what is asked for. -/
theorem tallied_launches_run (l : Launcher σ) (s : Session σ) (errands : List Errand)
    (run : Bool) :
    Deed.tallied (s.run l errands).2 (Tally.launches run) =
      errands.countP (Errand.launches run) := by
  induction errands generalizing s with
  | nil => rfl
  | cons errand errands ih =>
      have hlater := ih (s.serve l errand).1
      rw [Deed.tallied] at hlater ⊢
      rw [run_cons, List.countP_cons, List.countP_cons, hlater, counts_launches_serve]

theorem tallied_validate_run (l : Launcher σ) (s : Session σ) (errands : List Errand) :
    Deed.tallied (s.run l errands).2 (.failed .validateOperation) = 0 := by
  rw [Deed.tallied, List.countP_eq_zero]
  intro deed hdeed
  obtain ⟨earlier, errand, rfl⟩ := exists_serve_of_mem_run hdeed
  simp [counts_validate_serve]

theorem balance_run (l : Launcher σ) (s : Session σ) (errands : List Errand) :
    Deed.tallied (s.run l errands).2 .started =
      Deed.tallied (s.run l errands).2 (.submitted .batch) +
        Deed.tallied (s.run l errands).2 (.submitted .interactive) +
        Deed.failures (s.run l errands).2 := by
  induction errands generalizing s with
  | nil => rfl
  | cons errand errands ih =>
      have hfirst := balance_serve l s errand
      have hlater := ih (s.serve l errand).1
      rw [run_cons, Deed.failures_cons, Deed.tallied_cons _ _ .started,
        Deed.tallied_cons _ _ (.submitted .batch), Deed.tallied_cons _ _ (.submitted .interactive)]
      omega

/-- From counters at zero, each counter is the number of the deeds that it is of, as far as
64 bits go. The launches that were started are those submitted in a mode and those failed at
a stage, and none fails at the check of its operation. Previews and reports change nothing. -/
theorem counters_run (l : Launcher σ) (state : σ) (errands : List Errand) :
    let s := (Session.run l ⟨state, {}⟩ errands).1
    let deeds := (Session.run l ⟨state, {}⟩ errands).2
    (∀ t, (s.counters.get t).toNat = Deed.tallied deeds t % UInt64.size) ∧
      (∀ t, Deed.tallied deeds t < UInt64.size →
        (s.counters.get t).toNat = Deed.tallied deeds t) ∧
      Deed.tallied deeds .rejected = errands.countP (Errand.launches false) ∧
      Deed.tallied deeds .started = errands.countP (Errand.launches true) ∧
      s.counters.started = s.counters.batch + s.counters.interactive + s.counters.failures ∧
      (Deed.tallied deeds .started < UInt64.size →
        s.counters.started.toNat =
          s.counters.batch.toNat + s.counters.interactive.toNat + s.counters.failures.toNat) ∧
      s.counters.failuresAt .validateOperation = 0 ∧
      (∀ draws r, (s.serve l (.preview draws r)).1 = s) ∧ (s.serve l .flush).1 = s := by
  intro s deeds
  have hget : ∀ t, s.counters.get t = UInt64.ofNat (Deed.tallied deeds t) := by
    intro t
    have hrun := get_run l ⟨state, {}⟩ errands t
    have hzero : ({} : Counters).get t = 0 := by
      cases t with
      | submitted mode => cases mode <;> rfl
      | _ => rfl
    rwa [hzero, UInt64.zero_add] at hrun
  have hfailures : s.counters.failures = UInt64.ofNat (Deed.failures deeds) :=
    Counters.failures_eq fun stage => hget (.failed stage)
  have hstarted : s.counters.started = _ := hget .started
  have hbatch : s.counters.batch = _ := hget (.submitted .batch)
  have hinteractive : s.counters.interactive = _ := hget (.submitted .interactive)
  have hbalance : Deed.tallied deeds .started = Deed.tallied deeds (.submitted .batch) +
      Deed.tallied deeds (.submitted .interactive) + Deed.failures deeds :=
    balance_run l ⟨state, {}⟩ errands
  have hsize : ∀ n, n < UInt64.size → (UInt64.ofNat n).toNat = n :=
    fun n hn => UInt64.toNat_ofNat_of_lt' hn
  refine ⟨?_, ?_, tallied_launches_run l _ errands false, tallied_launches_run l _ errands true,
    ?_, ?_, ?_, serve_preview l s, serve_flush l s⟩
  · intro t
    rw [hget t]
    exact UInt64.toNat_ofNat'
  · intro t ht
    rw [hget t, hsize _ ht]
  · rw [hstarted, hbatch, hinteractive, hfailures, hbalance, UInt64.ofNat_add, UInt64.ofNat_add]
  · intro hlt
    rw [hstarted, hbatch, hinteractive, hfailures, hsize _ hlt, hsize _ (by omega),
      hsize _ (by omega), hsize _ (by omega)]
    exact hbalance
  · have hvalidate := hget (.failed .validateOperation)
    rw [tallied_validate_run] at hvalidate
    exact hvalidate

end Session

end ClusterLaunch
