import ClusterLaunch.Proofs.Counting
import ClusterLaunch.Proofs.Failure
import Mathlib.Algebra.BigOperators.Ring.Finset
import Mathlib.Data.Fin.VecNotation
import Mathlib.Data.Fintype.BigOperators

/-!
Counters that several launches share. Each launch makes its calls in their order; between
them the others may make any of theirs, and the counters may be reported. At every point the
launches that were started are those that were submitted, those that failed and those that
are still under way. Where everything ends depends only on the calls.
-/

namespace ClusterLaunch

namespace Counters

inductive Call
  | rejected
  | started
  | submitted (mode : Mode)
  | failed (failure : StageFailure)
  deriving DecidableEq, Repr

namespace Call

def tally : Call → Tally
  | .rejected => .rejected
  | .started => .started
  | .submitted mode => .submitted mode
  | .failed failure => .failed failure.stage

def notices : Call → List Notice
  | .failed failure => [failureNotice failure]
  | _ => []

def isFailure : Call → Bool
  | .failed _ => true
  | _ => false

def counts (t : Tally) (call : Call) : Bool :=
  call.tally == t

end Call

def call (c : Counters) : Call → Counters
  | .rejected => c.recordRejected
  | .started => c.recordStarted
  | .submitted mode => c.recordSubmitted mode
  | .failed failure => c.recordFailure failure.stage

/-- What becomes of a launch: it is rejected, or it is started and later submitted or failed. -/
inductive Course
  | rejected
  | submitted (mode : Mode)
  | failed (failure : StageFailure)
  deriving DecidableEq, Repr

def Course.calls : Course → List Call
  | .rejected => [.rejected]
  | .submitted mode => [.started, .submitted mode]
  | .failed failure => [.started, .failed failure]

/-- What happens to counters that `n` launches share: one of them makes a call, or the
counters are reported. -/
inductive Act (n : Nat)
  | call (launch : Fin n) (call : Call)
  | flush
  deriving DecidableEq, Repr

variable {n : Nat}

def Act.call? : Act n → Option Call
  | .call _ made => some made
  | .flush => none

def Act.callOf? (launch : Fin n) : Act n → Option Call
  | .call caller made => if caller = launch then some made else none
  | .flush => none

def act (c : Counters) : Act n → Counters × List Notice
  | .call _ made => (c.call made, made.notices)
  | .flush => (c, c.report)

def after (c : Counters) (acts : List (Act n)) : Counters :=
  acts.foldl (fun c act => (c.act act).1) c

def calls (acts : List (Act n)) : List Call :=
  acts.filterMap Act.call?

def callsOf (launch : Fin n) (acts : List (Act n)) : List Call :=
  acts.filterMap (Act.callOf? launch)

/-- Each launch makes the calls of its course, in their order; all else about the acts is open. -/
def Interleaves (courses : Fin n → Course) (acts : List (Act n)) : Prop :=
  ∀ launch, callsOf launch acts = (courses launch).calls

instance (courses : Fin n → Course) (acts : List (Act n)) : Decidable (Interleaves courses acts) :=
  inferInstanceAs (Decidable (∀ _, _))

/-- The launches that were started among the acts and have not yet made all of their calls. -/
def underWay (courses : Fin n → Course) (acts : List (Act n)) : Finset (Fin n) :=
  {launch | .started ∈ callsOf launch acts ∧ callsOf launch acts ≠ (courses launch).calls}

/-! Counting. -/

theorem get_call (c : Counters) (made : Call) (t : Tally) :
    (c.call made).get t = c.get t + if made.counts t then 1 else 0 := by
  simp only [Call.counts, beq_iff_eq, eq_comm (b := t)]
  cases made with
  | rejected => exact get_recordRejected c t
  | started => exact get_recordStarted c t
  | submitted mode => exact get_recordSubmitted c mode t
  | failed failure => exact get_recordFailure c failure.stage t

theorem after_append (c : Counters) (before acts : List (Act n)) :
    c.after (before ++ acts) = (c.after before).after acts :=
  List.foldl_append

/-- The counters go up by the calls that are made, as far as 64 bits go. -/
theorem get_after (c : Counters) (acts : List (Act n)) (t : Tally) :
    (c.after acts).get t = c.get t + UInt64.ofNat ((calls acts).countP (Call.counts t)) := by
  induction acts generalizing c with
  | nil => simp [after, calls]
  | cons first acts ih =>
      have hrest := ih (c.act first).1
      cases first with
      | flush => exact hrest
      | call launch made =>
          have hcalls : calls (.call launch made :: acts) = made :: calls acts := rfl
          rw [hcalls, List.countP_cons, Nat.add_comm, UInt64.ofNat_add, ← UInt64.add_assoc]
          refine hrest.trans (congrArg (· + _) ((get_call c made t).trans ?_))
          congr 1
          split <;> rfl

theorem ext_get {a b : Counters} (h : ∀ t, a.get t = b.get t) : a = b := by
  have hrejected := h .rejected
  have hstarted := h .started
  have hbatch := h (.submitted .batch)
  have hinteractive := h (.submitted .interactive)
  have hfailures : a.failuresAt = b.failuresAt := funext fun stage => h (.failed stage)
  cases a
  cases b
  cases hrejected
  cases hstarted
  cases hbatch
  cases hinteractive
  cases hfailures
  rfl

/-! The calls of each launch. -/

/-- All calls are those of one launch or another. -/
theorem countP_calls (p : Call → Bool) (acts : List (Act n)) :
    (calls acts).countP p = ∑ launch, (callsOf launch acts).countP p := by
  induction acts with
  | nil => simp [calls, callsOf]
  | cons first acts ih =>
      cases first with
      | flush => exact ih
      | call caller made =>
          have hcalls : calls (.call caller made :: acts) = made :: calls acts := rfl
          -- of the sum over all launches, only the caller's term goes up
          have hcallsOf (launch : Fin n) :
              (callsOf launch (.call caller made :: acts)).countP p =
                (callsOf launch acts).countP p +
                  if caller = launch then (if p made then 1 else 0) else 0 := by
            by_cases hlaunch : caller = launch
            · simp [callsOf, Act.callOf?, hlaunch, List.countP_cons]
            · simp [callsOf, Act.callOf?, hlaunch]
          simp only [hcalls, List.countP_cons, hcallsOf, Finset.sum_add_distrib, ih,
            Finset.sum_ite_eq, Finset.mem_univ, if_true]

/-- The failures are counted by their stages. -/
theorem sum_countP_failed (made : List Call) :
    (Stage.all.map fun stage => made.countP (Call.counts (.failed stage))).sum =
      made.countP Call.isFailure := by
  induction made with
  | nil => simp
  | cons first made ih =>
      have hfirst : (Stage.all.map fun stage =>
          if first.counts (.failed stage) then 1 else 0).sum =
            if first.isFailure then 1 else 0 := by
        cases first with
        | failed failure => cases hstage : failure.stage <;>
            simp [Call.counts, Call.tally, Call.isFailure, hstage, Stage.all]
        | _ => simp [Call.counts, Call.tally, Call.isFailure, Stage.all]
      simp only [List.countP_cons, List.sum_map_add, ih, hfirst]

/-- A launch that was started was submitted, or failed, or is still under way, and just one
of these. -/
theorem balance_course {course : Course} {made : List Call} (h : made <+: course.calls) :
    made.countP (Call.counts .started) =
      made.countP (Call.counts (.submitted .batch)) +
        made.countP (Call.counts (.submitted .interactive)) + made.countP Call.isFailure +
        if .started ∈ made ∧ made ≠ course.calls then 1 else 0 := by
  -- a prefix of a course is empty, one call or two calls, and each is counted out
  cases course with
  | rejected =>
      simp only [Course.calls, List.prefix_cons_iff, List.prefix_nil] at h
      obtain rfl | ⟨_, rfl, rfl⟩ := h <;> simp [Course.calls, Call.counts, Call.tally, Call.isFailure]
  | submitted mode =>
      simp only [Course.calls, List.prefix_cons_iff, List.prefix_nil] at h
      obtain rfl | ⟨_, rfl, rfl | ⟨_, rfl, rfl⟩⟩ := h <;> cases mode <;>
        simp [Course.calls, Call.counts, Call.tally, Call.isFailure]
  | failed failure =>
      simp only [Course.calls, List.prefix_cons_iff, List.prefix_nil] at h
      obtain rfl | ⟨_, rfl, rfl | ⟨_, rfl, rfl⟩⟩ := h <;>
        simp [Course.calls, Call.counts, Call.tally, Call.isFailure]

theorem Interleaves.callsOf_prefix {courses : Fin n → Course} {past future : List (Act n)}
    (h : Interleaves courses (past ++ future)) (launch : Fin n) :
    callsOf launch past <+: (courses launch).calls := by
  rw [← h launch, callsOf, callsOf, List.filterMap_append]
  exact List.prefix_append _ _

def tallied (acts : List (Act n)) (t : Tally) : Nat :=
  (calls acts).countP (Call.counts t)

def failed (acts : List (Act n)) : Nat :=
  (Stage.all.map fun stage => tallied acts (.failed stage)).sum

theorem tallied_failed_le (acts : List (Act n)) (stage : Stage) :
    tallied acts (.failed stage) ≤ failed acts := by
  refine (List.countP_mono_left fun made _ hmade => ?_).trans_eq (sum_countP_failed _).symm
  cases made <;> simp_all [Call.counts, Call.tally, Call.isFailure]

/-- At any point the balance of all launches is that of each of them, added up. -/
theorem balance_calls {courses : Fin n → Course} {past : List (Act n)}
    (h : ∀ launch, callsOf launch past <+: (courses launch).calls) :
    tallied past .started = tallied past (.submitted .batch) +
      tallied past (.submitted .interactive) + failed past + (underWay courses past).card := by
  have hfailed : failed past = (calls past).countP Call.isFailure := sum_countP_failed _
  simp only [hfailed, tallied, countP_calls, underWay, Finset.card_filter,
    ← Finset.sum_add_distrib]
  exact Finset.sum_congr rfl fun launch _ => balance_course (h launch)

/-- What was counted does not depend on how the calls of the launches were interleaved. -/
theorem Interleaves.tallied_eq {courses : Fin n → Course} {acts : List (Act n)}
    (h : Interleaves courses acts) (t : Tally) :
    tallied acts t = ∑ launch, (courses launch).calls.countP (Call.counts t) := by
  rw [tallied, countP_calls]
  exact Finset.sum_congr rfl fun launch _ => by rw [h launch]

/-! From counters at zero. -/

@[simp] theorem get_zero (t : Tally) : ({} : Counters).get t = 0 := by
  cases t with
  | submitted mode => cases mode <;> rfl
  | _ => rfl

theorem get_after_zero (acts : List (Act n)) (t : Tally) :
    (after {} acts).get t = UInt64.ofNat (tallied acts t) := by
  rw [get_after, get_zero, UInt64.zero_add, tallied]

theorem failures_after_zero (acts : List (Act n)) :
    (after {} acts).failures = UInt64.ofNat (failed acts) :=
  failures_eq fun stage => get_after_zero acts (.failed stage)

/-- Every launch makes the calls of one of the courses. -/
theorem exists_course {σ : Type} (l : Launcher σ) (draws : Draws) (r : Request) (state : σ) :
    ∃ course : Course, ∀ c, (l.launch draws r c state).2 = course.calls.foldl call c := by
  cases hrun : Operation.isRun r.operation with
  | false =>
      refine ⟨.rejected, fun c => ?_⟩
      rw [Launcher.launch_of_not_isRun l draws c state hrun]
      rfl
  | true =>
      cases hanswer : (l.stages draws r state).answer with
      | ok watch =>
          refine ⟨.submitted r.order.mode, fun c => ?_⟩
          simp only [Launcher.launch_of_isRun l draws c state hrun, hanswer]
          rfl
      | error failure =>
          refine ⟨.failed failure, fun c => ?_⟩
          simp only [Launcher.launch_of_isRun l draws c state hrun, hanswer]
          rfl

/-! Reports. -/

/-- The stages with failures, in their order and in the words of events. -/
def failedStages (c : Counters) : List (Stage × String) :=
  Stage.words.filter fun (stage, _) => 0 < c.failuresAt stage

theorem mem_failedStages (c : Counters) (stage : Stage) (name : String) :
    (stage, name) ∈ c.failedStages ↔ (stage, name) ∈ Stage.words ∧ c.failuresAt stage ≠ 0 := by
  simp [failedStages, UInt64.pos_iff_ne_zero]

theorem report_eq (c : Counters) :
    c.report = c.summary :: c.failedStages.map fun (stage, name) =>
      ⟨.info, .counters, [("metric", .text "dispatch_failures"), ("stage", .text name),
        ("failures", .number (c.failuresAt stage).toNat)]⟩ := by
  rw [report, failedStages, Stage.words_eq, List.filter_map, List.map_map]
  rfl

/-- Stages without failures add nothing. -/
theorem sum_failedStages (c : Counters) :
    (c.failedStages.map fun (stage, _) => (c.failuresAt stage).toNat).sum =
      (Stage.all.map fun stage => (c.failuresAt stage).toNat).sum := by
  rw [failedStages, Stage.words_eq]
  induction Stage.all with
  | nil => rfl
  | cons stage stages ih =>
      by_cases hstage : 0 < c.failuresAt stage
      · simp_all
      · have hnone : c.failuresAt stage = 0 := by simpa [UInt64.pos_iff_ne_zero] using hstage
        simp_all

/-- The failures at the stages add up to all failures, as long as no count has come to
its end. -/
theorem sum_failedStages_eq {c : Counters} {acts : List (Act n)} (hc : c = after {} acts)
    (hfailed : failed acts < UInt64.size) :
    (c.failedStages.map fun (stage, _) => (c.failuresAt stage).toNat).sum = c.failures.toNat := by
  have hstage : ∀ stage ∈ Stage.all, (c.failuresAt stage).toNat = tallied acts (.failed stage) := by
    intro stage _
    have hle : tallied acts (.failed stage) ≤ failed acts := tallied_failed_le acts stage
    have hget : c.failuresAt stage = UInt64.ofNat (tallied acts (.failed stage)) :=
      hc ▸ get_after_zero acts (.failed stage)
    rw [hget, UInt64.toNat_ofNat_of_lt' (hle.trans_lt hfailed)]
  calc
    (c.failedStages.map fun (stage, _) => (c.failuresAt stage).toNat).sum = failed acts := by
      rw [sum_failedStages, failed, List.map_congr_left hstage]
    _ = c.failures.toNat := by
      rw [hc, failures_after_zero, UInt64.toNat_ofNat_of_lt' hfailed]

/-- The counters after the calls of launches that go on at once, in whatever order these are
made, at every point of it. The launches that were started are those that were submitted in
a mode, those that failed at a stage and those still under way. A report may come anywhere:
it leaves the counters as they are, it sums them up, and it tells the failures at each stage
that has any, in the order of the stages. All orders of the same calls end alike; the calls of
a launch are those of one of the courses. -/
theorem balance_interleaved {courses : Fin n → Course} {acts : List (Act n)}
    (h : Interleaves courses acts) :
    (∀ past future, acts = past ++ future →
      let c := after {} past
      (∀ t, c.get t = .ofNat (tallied past t)) ∧
        c.started = c.batch + c.interactive + c.failures + .ofNat (underWay courses past).card ∧
        (tallied past .started < UInt64.size →
          c.started.toNat = c.batch.toNat + c.interactive.toNat + c.failures.toNat +
            (underWay courses past).card) ∧
        (c.act (.flush : Act n)).1 = c ∧ after {} (past ++ .flush :: future) = after {} acts ∧
        ∃ stages : List (Stage × String),
          (c.act (.flush : Act n)).2 =
            ⟨.info, .counters, [("metric", .text "dispatch"),
              ("operations_rejected", .number c.rejected.toNat),
              ("dispatches_started", .number c.started.toNat),
              ("batch_jobs_submitted", .number c.batch.toNat),
              ("interactive_jobs_submitted", .number c.interactive.toNat),
              ("failures", .number c.failures.toNat)]⟩ ::
            (stages.map fun (stage, name) =>
              ⟨.info, .counters, [("metric", .text "dispatch_failures"), ("stage", .text name),
                ("failures", .number (c.failuresAt stage).toNat)]⟩) ∧
          stages.Sublist Stage.words ∧
          (∀ stage name, (stage, name) ∈ stages ↔
            (stage, name) ∈ Stage.words ∧ c.failuresAt stage ≠ 0) ∧
          (tallied past .started < UInt64.size →
            (stages.map fun (stage, _) => (c.failuresAt stage).toNat).sum = c.failures.toNat)) ∧
      (∀ others, Interleaves courses others → after {} others = after {} acts) ∧
      ∀ (σ : Type) (l : Launcher σ) (draws : Draws) (r : Request) (state : σ),
        ∃ course : Course, ∀ c, (l.launch draws r c state).2 = course.calls.foldl call c := by
  refine ⟨?_, fun others hothers => ext_get fun t => ?_, fun σ l draws r state => ?_⟩
  · rintro past future rfl c
    -- the balance holds of the tallies as numbers; the counters are these up to 64 bits
    have hbalance := balance_calls h.callsOf_prefix
    have hfailed : failed past ≤ tallied past .started := by omega
    have hget : ∀ t, c.get t = UInt64.ofNat (tallied past t) := get_after_zero past
    have hstarted : c.started = _ := hget .started
    have hbatch : c.batch = _ := hget (.submitted .batch)
    have hinteractive : c.interactive = _ := hget (.submitted .interactive)
    have hfailures : c.failures = _ := failures_after_zero past
    refine ⟨hget, ?_, fun hlt => ?_, rfl, ?_, c.failedStages, c.report_eq, List.filter_sublist,
      c.mem_failedStages, fun hlt => sum_failedStages_eq rfl (hfailed.trans_lt hlt)⟩
    · simp only [hstarted, hbatch, hinteractive, hfailures, hbalance, UInt64.ofNat_add]
    · rw [hstarted, hbatch, hinteractive, hfailures, UInt64.toNat_ofNat_of_lt' hlt,
        UInt64.toNat_ofNat_of_lt' (by omega), UInt64.toNat_ofNat_of_lt' (by omega),
        UInt64.toNat_ofNat_of_lt' (by omega)]
      exact hbalance
    · rw [after_append, after_append]
      rfl
  · rw [get_after_zero, get_after_zero, hothers.tallied_eq, h.tallied_eq]
  · exact exists_course l draws r state

/-- One launch is rejected, one is submitted and one fails. Two of them are under way when the
counters are reported. -/
theorem balance_interleaved_of_three :
    let courses : Fin 3 → Course :=
      ![.rejected, .submitted .interactive, .failed ⟨.interpretOutput, .missingJobId⟩]
    let past : List (Act 3) := [.call 1 .started, .call 2 .started]
    let future : List (Act 3) := [.call 0 .rejected, .flush,
      .call 2 (.failed ⟨.interpretOutput, .missingJobId⟩), .call 1 (.submitted .interactive)]
    let others : List (Act 3) := [.call 2 .started,
      .call 2 (.failed ⟨.interpretOutput, .missingJobId⟩), .call 1 .started, .call 0 .rejected,
      .call 1 (.submitted .interactive)]
    Interleaves courses (past ++ future) ∧ Interleaves courses others ∧
      underWay courses past = {1, 2} ∧ (after {} past).started.toNat = 2 ∧
      after {} others = after {} (past ++ future) := by
  intro courses past future others
  have hacts : Interleaves courses (past ++ future) := by decide
  have hothers : Interleaves courses others := by decide
  have hcard : underWay courses past = {1, 2} := by decide
  obtain ⟨hpoints, hends, -⟩ := balance_interleaved hacts
  obtain ⟨-, -, hbalance, -⟩ := hpoints past future rfl
  have hstarted := hbalance (by decide)
  rw [hcard] at hstarted
  exact ⟨hacts, hothers, hcard, hstarted, hends others hothers⟩

end Counters

end ClusterLaunch
