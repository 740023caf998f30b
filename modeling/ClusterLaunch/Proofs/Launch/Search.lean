import ClusterLaunch.Proofs.Launch.Record
import Mathlib.Order.Bounds.Basic

/-!
A search for an id over listed answers. Everything about it is settled by the first of the
answers that lists the job, or by the last one that there are attempts for if none does:
the id or the reason, how many queries are made, the pauses between them, the warnings, and
the answers that are left.
-/

namespace ClusterLaunch

namespace Trail

def acts (trail : Trail) : List Step :=
  trail.filter fun step => step.command?.isSome || step.pause?.isSome

@[simp] theorem acts_append (a b : Trail) : acts (a ++ b) = acts a ++ acts b :=
  List.filter_append ..

@[simp] theorem acts_ofNotices (notices : List Notice) : acts (ofNotices notices) = [] := by
  simp [acts, ofNotices]

end Trail

namespace Transport

variable {σ : Type} {t : Transport σ}

@[simp] theorem acts_trail (command : String) : (t.trail command).acts = [.sent command] := by
  simp [trail, Trail.acts, Trail.ofNotices]

/-- The replies to a command that is run again and again over listed answers. -/
theorem scripted_replies_replicate (command : String) (n : Nat)
    (answers : List (Except Refusal String)) :
    scripted.replies (List.replicate n command) answers =
      (List.range n).map fun j => answers.getD j (.ok "") := by
  induction n generalizing answers with
  | zero => rfl
  | succ n ih =>
      rw [List.replicate_succ, replies, scripted_run, ih, List.range_succ_eq_map, List.map_cons,
        List.map_map]
      cases answers <;> rfl

end Transport

namespace QueueSearch

variable {σ : Type} {t : Transport σ}

/-- What an output lists first: the first of its lines that is not blank, trimmed. -/
def FirstLine (output id : String) : Prop :=
  ∃ before line after, Text.lines output.toList = before ++ line :: after ∧
    (∀ earlier ∈ before, Text.isBlankText earlier = true) ∧
    Text.isBlankText line = false ∧ id = String.ofList (Text.trim line)

/-- An answer that lists a job under an id: it is no refusal, and the id comes first in it. -/
def Lists (answer : Except Refusal String) (id : String) : Prop :=
  ∃ output, answer = .ok output ∧ FirstLine output id

/-- The answer to an attempt, the first being number one. Once the listed answers are used
up, nothing is printed. -/
def answerTo (answers : List (Except Refusal String)) (attempt : Nat) : Except Refusal String :=
  answers.getD (attempt - 1) (.ok "")

theorem listed?_eq_some_iff (output id : String) :
    listed? output = some id ↔ FirstLine output id := by
  unfold listed? FirstLine
  rw [Text.filledLines_eq, List.head?_map, List.head?_filter, Option.map_map,
    Option.map_eq_some_iff]
  constructor
  · rintro ⟨line, hfind, rfl⟩
    obtain ⟨hfilled, before, after, hlines, hbefore⟩ := List.find?_eq_some_iff_append.mp hfind
    refine ⟨before, line, after, hlines, fun earlier hearlier => ?_, ?_, rfl⟩
    · simpa using hbefore earlier hearlier
    · simpa using hfilled
  · rintro ⟨before, line, after, hlines, hbefore, hfilled, rfl⟩
    refine ⟨line, List.find?_eq_some_iff_append.mpr ⟨?_, before, after, hlines, ?_⟩, rfl⟩
    · simpa using hfilled
    · intro earlier hearlier
      simpa using hbefore earlier hearlier

/-- An answer amounts to an id just if it lists the job under it. -/
theorem read_eq_ok_iff (answer : Except Refusal String) (id : String) :
    read answer = .ok id ↔ Lists answer id := by
  cases answer with
  | error refusal => simp [read, Lists]
  | ok output =>
      simp only [Lists, Except.ok.injEq, exists_eq_left', ← listed?_eq_some_iff, read]
      cases listed? output <;> simp

/-- Why an answer that does not list the job leaves it unfound. -/
def reasonOf : Except Refusal String → String
  | .ok _ => notListed
  | .error refusal => refused refusal

theorem read_eq_error_of_not_lists {answer : Except Refusal String}
    (h : ∀ id, ¬ Lists answer id) : read answer = .error (reasonOf answer) := by
  cases answer with
  | error refusal => rfl
  | ok output =>
      cases hlisted : listed? output with
      | none => simp [read, hlisted, reasonOf]
      | some id => exact absurd ((read_eq_ok_iff _ _).mp (by simp [read, hlisted])) (h id)

/-- A search sends its queries one by one, with a pause between two of them. -/
theorem acts_seek (q : QueueSearch) (t : Transport σ) (deployment job : String)
    (attempt more : Nat) (state : σ) :
    let done := q.seek t deployment job attempt more state
    ∃ n, done.trail.commands = List.replicate (n + 1) (command job) ∧
      done.trail.acts =
        (List.replicate (n + 1) (.sent (command job))).intersperse (.paused q.pause) := by
  induction more generalizing attempt state with
  | zero =>
      cases h : read (t.run (command job) state).1 with
      | ok id => exact ⟨0, by simp [seek_listed q attempt 0 h], by simp [seek_listed q attempt 0 h]⟩
      | error reason => exact ⟨0, by simp [seek_last q attempt h], by simp [seek_last q attempt h]⟩
  | succ more ih =>
      cases h : read (t.run (command job) state).1 with
      | ok id =>
          refine ⟨0, ?_, ?_⟩
          · simp [seek_listed q attempt (more + 1) h]
          · simp [seek_listed q attempt (more + 1) h]
      | error reason =>
          obtain ⟨n, hcommands, hacts⟩ := ih (attempt + 1) (t.run (command job) state).2
          have hpaused (trail : Trail) :
              Trail.acts (.paused q.pause :: trail) = .paused q.pause :: trail.acts := rfl
          refine ⟨n + 1, ?_, ?_⟩
          · simp [seek_again q attempt more h, hcommands, List.replicate_succ]
          · simp [seek_again q attempt more h, hpaused, hacts, List.replicate_succ]

/-- The replies to the attempts from number `first` on are warned of one by one. -/
theorem warnings_range' (job : String) (answers : List (Except Refusal String)) (first n : Nat) :
    warnings job first ((List.range' first n).map (answerTo answers)) =
      (List.range' first n).filterMap fun attempt =>
        (warnings job attempt [answerTo answers attempt]).head? := by
  induction n generalizing first with
  | zero => rfl
  | succ n ih =>
      rw [List.range'_succ, List.map_cons, warnings_cons, ih, List.filterMap_cons]
      cases answerTo answers first <;> rfl

/-- What a search over listed answers has spent after `n` attempts: that many queries, with a
pause between two of them and none after the last, and that many answers. The refusals among
these are warned of, each under the number of its attempt. -/
structure Spends (job : String) (pause : Duration) (answers : List (Except Refusal String))
    (n : Nat) (done : Done (List (Except Refusal String)) Failure String) : Prop where
  commands : done.trail.commands =
    List.replicate n ("squeue --noheader --name=" ++ job ++ " -o %A")
  pauses : done.trail.pauses = List.replicate (n - 1) pause
  acts : done.trail.acts = (done.trail.commands.map .sent).intersperse (.paused pause)
  warnings : done.trail.record = (List.range' 1 n).filterMap fun attempt =>
    match answerTo answers attempt with
    | .ok _ => none
    | .error refusal =>
        some (.notice ⟨.warn, .queue, [("job_name", .text job), ("attempt", .number attempt),
          ("error", .text refusal.message), ("message", .text "squeue failed")]⟩)
  left : done.state = answers.drop n

section

variable {job id : String} {answers : List (Except Refusal String)} {n : Nat}

theorem spends_find (q : QueueSearch) (deployment : String)
    (hcommands : (q.find .scripted deployment job answers).trail.commands =
      List.replicate n (command job))
    (hpauses : (q.find .scripted deployment job answers).trail.pauses =
      List.replicate (n - 1) q.pause)
    (hstate : (q.find .scripted deployment job answers).state =
      Transport.scripted.after (command job) n answers) :
    Spends job q.pause answers n (q.find .scripted deployment job answers) where
  commands := hcommands
  pauses := hpauses
  acts := by
    obtain ⟨m, hm, hacts⟩ := acts_seek q .scripted deployment job 1 (q.attempts - 1) answers
    refine hacts.trans ?_
    rw [QueueSearch.find, hm, List.map_replicate]
  warnings := by
    have hrecord : (q.find .scripted deployment job answers).trail.record =
        (warnings job 1 (Transport.scripted.replies
          (q.find .scripted deployment job answers).trail.commands answers)).map .notice :=
      q.record_seek deployment job 1 (q.attempts - 1) answers Transport.quiet_scripted
    have hreplies : (List.range n).map (fun j => answers.getD j (.ok "")) =
        (List.range' 1 n).map (answerTo answers) := by
      rw [List.range'_eq_map_range, List.map_map]
      exact List.map_congr_left fun j _ => by simp [answerTo]
    rw [hrecord, hcommands, Transport.scripted_replies_replicate, hreplies, warnings_range',
      List.map_filterMap]
    congr 1
    funext attempt
    cases answerTo answers attempt <;> rfl
  left := by rw [hstate, Transport.scripted_after]

/-- The least attempt whose answer lists the job is the one that the search ends with. -/
theorem listedAt_of_isLeast {attempts : Nat}
    (h : IsLeast {k | 1 ≤ k ∧ k ≤ attempts ∧ ∃ id, Lists (answerTo answers k) id} n)
    (hlists : Lists (answerTo answers n) id) :
    ListedAt .scripted job answers (n - 1) id where
  missed := by
    obtain ⟨-, hle, -⟩ := h.1
    intro j hj
    rw [Transport.scripted_reply]
    refine ⟨_, read_eq_error_of_not_lists fun other hother => ?_⟩
    have hleast : n ≤ j + 1 := h.2 ⟨by omega, by omega, other, hother⟩
    omega
  listed := by
    rw [Transport.scripted_reply]
    exact (read_eq_ok_iff _ _).mpr hlists

theorem find_of_isLeast (q : QueueSearch) (deployment : String)
    (h : IsLeast {k | 1 ≤ k ∧ k ≤ q.attempts ∧ ∃ id, Lists (answerTo answers k) id} n) :
    let done := q.find .scripted deployment job answers
    ∃ id, Lists (answerTo answers n) id ∧ Text.isBlankText id.toList = false ∧
      done.answer = .ok id ∧ Spends job q.pause answers n done := by
  obtain ⟨hpos, hle, id, hlists⟩ := h.1
  have hlisted : ListedAt .scripted job answers (n - 1) id := listedAt_of_isLeast h hlists
  obtain ⟨hanswer, hstate, hcommands, hpauses⟩ :=
    q.find_of_listedAt deployment hlisted (by omega)
  rw [Nat.sub_add_cancel hpos] at hstate hcommands
  exact ⟨id, hlists, not_isBlankText_of_read hlisted.listed, hanswer,
    q.spends_find deployment hcommands hpauses hstate⟩

theorem find_of_not_lists (q : QueueSearch) (deployment : String)
    (h : ∀ k, 1 ≤ k → k ≤ q.attempts → ∀ id, ¬ Lists (answerTo answers k) id) :
    let done := q.find .scripted deployment job answers
    done.answer =
        .error (.jobNotFound job q.attempts (reasonOf (answerTo answers q.attempts))) ∧
      Spends job q.pause answers q.attempts done := by
  have hmissed : Missed .scripted job answers q.attempts := by
    intro j hj
    rw [Transport.scripted_reply]
    exact ⟨_, read_eq_error_of_not_lists (h (j + 1) (by omega) (by omega))⟩
  obtain ⟨⟨reason, hreason, hanswer⟩, hstate, hcommands, hpauses⟩ :=
    q.find_of_missed deployment hmissed
  rw [Transport.scripted_reply] at hreason
  have hlast := read_eq_error_of_not_lists (h q.attempts q.attempts_pos (Nat.le_refl _))
  obtain rfl := Except.error.inj (hreason.symm.trans hlast)
  exact ⟨hanswer, q.spends_find deployment hcommands hpauses hstate⟩

end

/-- A search with any number of attempts, of which none counts as one, and any pause. The
first of its answers that lists the job ends it, with the id that comes first in that answer.
If none does, it gives up after the last attempt, for a reason that the answer to that one
gives. Either way it has spent no more than the attempts it made. -/
theorem find_answers (other : QueueSearch) (s : Settings) (a : UInt32) (pause : Duration)
    (deployment job : String) (answers : List (Except Refusal String)) :
    let attempts := if a = 0 then 1 else a.toNat
    ∀ q ∈ [(other.withAttempts a.toNat).withPause pause,
        ofSettings { s with attempts := a, pause }],
      let done := q.find .scripted deployment job answers
      (∀ k, IsLeast {k | 1 ≤ k ∧ k ≤ attempts ∧ ∃ id, Lists (answerTo answers k) id} k →
        ∃ id, Lists (answerTo answers k) id ∧ Text.isBlankText id.toList = false ∧
          done.answer = .ok id ∧ Spends job pause answers k done) ∧
      ((∀ k, 1 ≤ k → k ≤ attempts → ∀ id, ¬ Lists (answerTo answers k) id) →
        (∀ output, answerTo answers attempts = .ok output →
          done.answer = .error (.jobNotFound job attempts "job not listed by squeue")) ∧
        (∀ refusal, answerTo answers attempts = .error refusal →
          done.answer = .error (.jobNotFound job attempts
            (refusal.message ++ ": " ++ Text.trimmed refusal.output))) ∧
        Spends job pause answers attempts done) := by
  intro attempts q hq done
  have hattempts : max a.toNat 1 = attempts := by
    by_cases ha : a = 0
    · simp [attempts, ha]
    · have hpos : 0 < a.toNat := UInt32.pos_iff_ne_zero.mpr ha
      simp only [attempts, if_neg ha]
      omega
  have hmade : q.attempts = attempts ∧ q.pause = pause := by
    rcases List.mem_cons.mp hq with rfl | hq
    · exact ⟨hattempts, rfl⟩
    · obtain rfl := List.mem_singleton.mp hq
      exact ⟨hattempts, rfl⟩
  obtain ⟨hcount, rfl⟩ := hmade
  rw [← hcount]
  refine ⟨fun k hk => q.find_of_isLeast deployment hk, fun hnone => ?_⟩
  have hfound : done.answer =
        .error (.jobNotFound job q.attempts (reasonOf (answerTo answers q.attempts))) ∧
      Spends job q.pause answers q.attempts done := q.find_of_not_lists deployment hnone
  obtain ⟨hanswer, hspends⟩ := hfound
  refine ⟨fun output houtput => ?_, fun refusal hrefusal => ?_, hspends⟩
  · rwa [houtput] at hanswer
  · rwa [hrefusal] at hanswer

/-- A blank answer and a refusal do not end a search; the third answer does, by its second
line, and the fourth is left. -/
theorem find_answers_third :
    let answers : List (Except Refusal String) :=
      [.ok " \n\t\n", .error ⟨"exit status 1", "busy"⟩, .ok "\n  9001 \r\n9002\n", .ok "7"]
    let other : QueueSearch := ofSettings {}
    let pause : Duration := .ofMillis 250
    let q := (other.withAttempts 5).withPause pause
    let done := q.find .scripted "dep" "night" answers
    q ∈ [(other.withAttempts 5).withPause pause, ofSettings { attempts := 5, pause }] ∧
      IsLeast {k | 1 ≤ k ∧ k ≤ 5 ∧ ∃ id, Lists (answerTo answers k) id} 3 ∧
      done.answer = .ok "9001" ∧ done.trail.pauses = [pause, pause] ∧
      done.trail.record = [.notice ⟨.warn, .queue, [("job_name", .text "night"),
        ("attempt", .number 2), ("error", .text "exit status 1"),
        ("message", .text "squeue failed")]⟩] ∧
      done.state = [.ok "7"] := by
  intro answers other pause q done
  have hread : read (answerTo answers 3) = .ok "9001" := by decide +kernel
  have hleast : IsLeast {k | 1 ≤ k ∧ k ≤ 5 ∧ ∃ id, Lists (answerTo answers k) id} 3 := by
    refine ⟨⟨by decide, by decide, "9001", (read_eq_ok_iff _ _).mp hread⟩, ?_⟩
    rintro k ⟨hpos, -, id, hlists⟩
    have hfirst : ∀ j ∈ [1, 2], (read (answerTo answers j)).isOk = false := by decide +kernel
    by_contra hlt
    have hmem : k ∈ [1, 2] := by
      rw [List.mem_cons, List.mem_singleton]
      omega
    have hfailed := hfirst k hmem
    rw [(read_eq_ok_iff _ _).mpr hlists] at hfailed
    cases hfailed
  have hmem : q ∈ [(other.withAttempts 5).withPause pause, ofSettings { attempts := 5, pause }] :=
    List.mem_cons_self
  obtain ⟨hlisted, -⟩ := find_answers other {} 5 pause "dep" "night" answers q hmem
  obtain ⟨id, hlists, -, hanswer, hspends⟩ := hlisted 3 hleast
  obtain rfl : "9001" = id :=
    Except.ok.inj (hread.symm.trans ((read_eq_ok_iff _ _).mpr hlists))
  exact ⟨hmem, hleast, hanswer, hspends.pauses, hspends.warnings, hspends.left⟩

end QueueSearch

end ClusterLaunch
