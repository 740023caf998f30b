import ClusterLaunch.Proofs.Lines
import ClusterLaunch.QueueSearch

/-!
What a search for an id comes to. The transport is any that carries a state from
one command to the next; the replies that it would give to one command asked again
and again say everything about the search. It ends with the first reply that lists
the job, and gives up when none of as many replies as there are attempts does.
-/

namespace ClusterLaunch

namespace Transport

variable {σ : Type}

def after (t : Transport σ) (command : String) : Nat → σ → σ
  | 0, state => state
  | n + 1, state => t.after command n (t.run command state).2

/-- What a command gives when it has been run `n` times before. -/
def reply (t : Transport σ) (command : String) (n : Nat) (state : σ) : Except Refusal String :=
  (t.run command (t.after command n state)).1

def afterAll (t : Transport σ) (commands : List String) (state : σ) : σ :=
  commands.foldl (fun state command => (t.run command state).2) state

def replies (t : Transport σ) : List String → σ → List (Except Refusal String)
  | [], _ => []
  | command :: commands, state =>
      (t.run command state).1 :: t.replies commands (t.run command state).2

theorem afterAll_replicate (t : Transport σ) (command : String) (n : Nat) (state : σ) :
    t.afterAll (List.replicate n command) state = t.after command n state := by
  induction n generalizing state with
  | zero => rfl
  | succ n ih => exact ih (t.run command state).2

theorem after_succ (t : Transport σ) (command : String) (n : Nat) (state : σ) :
    t.after command (n + 1) state = t.after command n (t.run command state).2 := rfl

theorem scripted_run (command : String) (answers : List (Except Refusal String)) :
    scripted.run command answers = (answers.headD (.ok ""), answers.drop 1) := by
  cases answers <;> rfl

/-- Listed answers are used up one by one. -/
theorem scripted_after (command : String) (n : Nat) (answers : List (Except Refusal String)) :
    scripted.after command n answers = answers.drop n := by
  induction n generalizing answers with
  | zero => rfl
  | succ n ih => rw [after_succ, scripted_run, ih, List.drop_drop, Nat.add_comm]

/-- The replies of listed answers are the answers, and then nothing. -/
theorem scripted_reply (command : String) (n : Nat) (answers : List (Except Refusal String)) :
    scripted.reply command n answers = answers.getD n (.ok "") := by
  rw [reply, scripted_after, scripted_run]
  simp [List.headD_eq_head?_getD, List.head?_drop]

end Transport

namespace QueueSearch

variable {σ : Type} {t : Transport σ} {deployment job id id' reason : String} {state : σ}
  {k k' n attempt more : Nat}

/-- An id that the queue lists is not blank. -/
theorem not_isBlankText_of_read {answer : Except Refusal String} (h : read answer = .ok id) :
    Text.isBlankText id.toList = false := by
  cases answer with
  | error r => cases h
  | ok output =>
      simp only [read] at h
      split at h
      · next listed hlisted =>
          cases h
          obtain ⟨line, hline, rfl⟩ := Option.map_eq_some_iff.mp hlisted
          rw [String.toList_ofList]
          exact Text.not_isBlankText_of_mem_filledLines (List.mem_of_mem_head? hline)
      · cases h

/-- None of the first `n` replies lists the job. -/
def Missed (t : Transport σ) (job : String) (state : σ) (n : Nat) : Prop :=
  ∀ j < n, ∃ reason, read (t.reply (command job) j state) = .error reason

/-- The reply after `k` others is the first that lists the job, and gives its id. -/
structure ListedAt (t : Transport σ) (job : String) (state : σ) (k : Nat) (id : String) : Prop where
  missed : Missed t job state k
  listed : read (t.reply (command job) k state) = .ok id

/-- Of any number of replies one is the first to list the job, or none does. -/
theorem listedAt_or_missed (t : Transport σ) (job : String) (state : σ) (n : Nat) :
    (∃ k < n, ∃ id, ListedAt t job state k id) ∨ Missed t job state n := by
  induction n with
  | zero => exact .inr fun j hj => absurd hj (Nat.not_lt_zero j)
  | succ n ih =>
      rcases ih with ⟨k, hk, id, h⟩ | hmissed
      · exact .inl ⟨k, by omega, id, h⟩
      · cases hread : read (t.reply (command job) n state) with
        | ok id => exact .inl ⟨n, by omega, id, hmissed, hread⟩
        | error reason =>
            refine .inr fun j hj => ?_
            rcases Nat.lt_succ_iff_lt_or_eq.mp hj with hlt | rfl
            · exact hmissed j hlt
            · exact ⟨reason, hread⟩

theorem ListedAt.not_missed (h : ListedAt t job state k id) (hk : k < n) :
    ¬ Missed t job state n := by
  intro hmissed
  obtain ⟨reason, hreason⟩ := hmissed k hk
  rw [h.listed] at hreason
  cases hreason

/-- There is one first reply that lists the job, and it gives one id. -/
theorem ListedAt.unique (h : ListedAt t job state k id) (h' : ListedAt t job state k' id') :
    k = k' ∧ id = id' := by
  have hle : k' ≤ k := Nat.le_of_not_lt fun hlt => h.not_missed hlt h'.missed
  have hge : k ≤ k' := Nat.le_of_not_lt fun hlt => h'.not_missed hlt h.missed
  obtain rfl : k = k' := Nat.le_antisymm hge hle
  have hid : (.ok id : Except String String) = .ok id' := h.listed.symm.trans h'.listed
  exact ⟨rfl, Except.ok.inj hid⟩

/-! What one attempt can do: find the job, be the last, or be followed by another. -/

theorem seek_listed (q : QueueSearch) (attempt more : Nat)
    (h : read (t.run (command job) state).1 = .ok id) :
    q.seek t deployment job attempt more state =
      ⟨.ok id, (t.run (command job) state).2, t.trail (command job) ++
        Trail.ofNotices (notes deployment job attempt (t.run (command job) state).1)⟩ := by
  rw [seek]
  simp only [h]

theorem seek_last (q : QueueSearch) (attempt : Nat)
    (h : read (t.run (command job) state).1 = .error reason) :
    q.seek t deployment job attempt 0 state =
      ⟨.error (.jobNotFound job q.attempts reason), (t.run (command job) state).2,
        t.trail (command job) ++
          Trail.ofNotices (notes deployment job attempt (t.run (command job) state).1)⟩ := by
  rw [seek]
  simp only [h]

theorem seek_again (q : QueueSearch) (attempt more : Nat)
    (h : read (t.run (command job) state).1 = .error reason) :
    q.seek t deployment job attempt (more + 1) state =
      let later := q.seek t deployment job (attempt + 1) more (t.run (command job) state).2
      { later with
        trail := t.trail (command job) ++
          Trail.ofNotices (notes deployment job attempt (t.run (command job) state).1) ++
          .paused q.pause :: later.trail } := by
  rw [seek]
  simp only [h]

/-! The search from one attempt on, and as a whole. -/

/-- The reply that lists the job ends the search: a command was sent for it and for
every reply before it, and there was a pause after each of those. -/
theorem seek_of_listedAt (q : QueueSearch) (deployment : String) (attempt : Nat)
    (h : ListedAt t job state k id) (hk : k ≤ more) :
    let done := q.seek t deployment job attempt more state
    done.answer = .ok id ∧ done.state = t.after (command job) (k + 1) state ∧
      done.trail.commands = List.replicate (k + 1) (command job) ∧
      done.trail.pauses = List.replicate k q.pause := by
  induction more generalizing attempt state k with
  | zero =>
      obtain rfl : k = 0 := by omega
      have hread : read (t.run (command job) state).1 = .ok id := h.listed
      rw [seek_listed q attempt 0 hread]
      simp [Transport.after]
  | succ more ih =>
      cases k with
      | zero =>
          have hread : read (t.run (command job) state).1 = .ok id := h.listed
          rw [seek_listed q attempt (more + 1) hread]
          simp [Transport.after]
      | succ k =>
          obtain ⟨reason, hreason⟩ := h.missed 0 (by omega)
          have hrest : ListedAt t job (t.run (command job) state).2 k id :=
            ⟨fun j hj => h.missed (j + 1) (by omega), h.listed⟩
          obtain ⟨hanswer, hstate, hcommands, hpauses⟩ :=
            ih (attempt + 1) hrest (by omega)
          have hread : read (t.run (command job) state).1 = .error reason := hreason
          rw [seek_again q attempt more hread]
          refine ⟨hanswer, hstate, ?_, ?_⟩
          · simp [hcommands, List.replicate_succ]
          · simp [hpauses, List.replicate_succ]

/-- The search gives up after the last attempt, for the reason that its reply gives. -/
theorem seek_of_missed (q : QueueSearch) (deployment : String) (attempt : Nat)
    (h : Missed t job state more)
    (hlast : read (t.reply (command job) more state) = .error reason) :
    let done := q.seek t deployment job attempt more state
    done.answer = .error (.jobNotFound job q.attempts reason) ∧
      done.state = t.after (command job) (more + 1) state ∧
      done.trail.commands = List.replicate (more + 1) (command job) ∧
      done.trail.pauses = List.replicate more q.pause := by
  induction more generalizing attempt state with
  | zero =>
      have hread : read (t.run (command job) state).1 = .error reason := hlast
      rw [seek_last q attempt hread]
      simp [Transport.after]
  | succ more ih =>
      obtain ⟨first, hfirst⟩ := h 0 (by omega)
      obtain ⟨hanswer, hstate, hcommands, hpauses⟩ :=
        ih (attempt + 1) (fun j hj => h (j + 1) (by omega)) hlast
      have hread : read (t.run (command job) state).1 = .error first := hfirst
      rw [seek_again q attempt more hread]
      refine ⟨hanswer, hstate, ?_, ?_⟩
      · simp [hcommands, List.replicate_succ]
      · simp [hpauses, List.replicate_succ]

theorem find_of_listedAt (q : QueueSearch) (deployment : String) (h : ListedAt t job state k id)
    (hk : k < q.attempts) :
    let done := q.find t deployment job state
    done.answer = .ok id ∧ done.state = t.after (command job) (k + 1) state ∧
      done.trail.commands = List.replicate (k + 1) (command job) ∧
      done.trail.pauses = List.replicate k q.pause :=
  seek_of_listedAt q deployment 1 h (by omega)

theorem find_of_missed (q : QueueSearch) (deployment : String) (h : Missed t job state q.attempts) :
    let done := q.find t deployment job state
    (∃ reason, read (t.reply (command job) (q.attempts - 1) state) = .error reason ∧
      done.answer = .error (.jobNotFound job q.attempts reason)) ∧
      done.state = t.after (command job) q.attempts state ∧
      done.trail.commands = List.replicate q.attempts (command job) ∧
      done.trail.pauses = List.replicate (q.attempts - 1) q.pause := by
  have hpos := q.attempts_pos
  obtain ⟨reason, hreason⟩ := h (q.attempts - 1) (by omega)
  obtain ⟨hanswer, hstate, hcommands, hpauses⟩ :=
    seek_of_missed q deployment 1 (fun j hj => h j (by omega)) hreason
  rw [Nat.sub_add_cancel hpos] at hstate hcommands
  exact ⟨⟨reason, hreason, hanswer⟩, hstate, hcommands, hpauses⟩

/-- An id that a search comes back with is not blank. -/
theorem not_isBlankText_of_find {q : QueueSearch}
    (h : (q.find t deployment job state).answer = .ok id) :
    Text.isBlankText id.toList = false := by
  rcases listedAt_or_missed t job state q.attempts with ⟨k, hk, other, hlisted⟩ | hmissed
  · have hanswer := (find_of_listedAt q deployment hlisted hk).1
    rw [h] at hanswer
    cases hanswer
    exact not_isBlankText_of_read hlisted.listed
  · obtain ⟨reason, -, hanswer⟩ := (find_of_missed q deployment hmissed).1
    rw [h] at hanswer
    cases hanswer

/-- A search sends one command at least, never more than it has attempts, and always
the same; nothing else reaches the transport. -/
theorem find_commands (q : QueueSearch) (t : Transport σ) (deployment job : String) (state : σ) :
    let done := q.find t deployment job state
    ∃ n, 1 ≤ n ∧ n ≤ q.attempts ∧ done.trail.commands = List.replicate n (command job) ∧
      done.state = t.afterAll done.trail.commands state := by
  rcases listedAt_or_missed t job state q.attempts with ⟨k, hk, id, h⟩ | h
  · obtain ⟨-, hstate, hcommands, -⟩ := find_of_listedAt q deployment h hk
    refine ⟨k + 1, by omega, by omega, hcommands, ?_⟩
    rw [hcommands, Transport.afterAll_replicate]
    exact hstate
  · obtain ⟨-, hstate, hcommands, -⟩ := find_of_missed q deployment h
    refine ⟨q.attempts, q.attempts_pos, Nat.le_refl _, hcommands, ?_⟩
    rw [hcommands, Transport.afterAll_replicate]
    exact hstate

/-- A search asks nothing of the declarations. -/
@[simp] theorem seek_queries (q : QueueSearch) (t : Transport σ) (deployment job : String)
    (attempt more : Nat) (state : σ) :
    (q.seek t deployment job attempt more state).trail.queries = [] := by
  induction more generalizing attempt state with
  | zero =>
      cases h : read (t.run (command job) state).1 with
      | ok id => simp [seek_listed q attempt 0 h]
      | error reason => simp [seek_last q attempt h]
  | succ more ih =>
      cases h : read (t.run (command job) state).1 with
      | ok id => simp [seek_listed q attempt (more + 1) h]
      | error reason => simp [seek_again q attempt more h, ih]

end QueueSearch

end ClusterLaunch
