import ClusterLaunch.Proofs.Shell.Octets
import ClusterLaunch.Proofs.Shell.Storage
import ClusterLaunch.Shell.Route

/-!
What is answered to a command, told from how the program ran that it was given to. A limit
does not change what a program does: it only makes a command late, so a command that is
done within a limit is answered alike under a longer one.
-/

namespace ClusterLaunch.Shell

namespace Machine

/-- On a machine with its programs, every name stands for an entry. -/
theorem sound_usual : usual.storage.Sound := by
  have hplace {s : Storage} {node : Node} (hnode : ∀ above names, node ≠ .directory above names)
      (path : List Char) (mode : Nat) (h : s.Sound) : (s.place path { node, mode }).Sound :=
    h.place path fun above names heq => absurd heq (hnode above names)
  simp only [usual]
  refine .foldl (fun name h => hplace (by simp) _ _ h) ?_ _
  refine hplace (by simp) _ _ (hplace (by simp) _ _ ?_)
  refine .foldl (fun number h => hplace (by simp) _ _ h) ?_ _
  refine .foldl (fun own h => hplace (by simp) _ _ h) ?_ _
  refine .foldl (fun device h => hplace (by simp) _ _ h) ?_ _
  refine .foldl (fun link h => hplace (by simp) _ _ h) ?_ _
  exact .foldl (fun directory h => h.ensureWay _) Storage.sound_empty _

theorem sound_withFile {m : Machine} (h : m.storage.Sound) (path text : List Char)
    (runnable : Bool) : (m.withFile path text runnable).storage.Sound :=
  h.place path fun _ _ hnode => (nomatch hnode)

theorem sound_withDirectory {m : Machine} (h : m.storage.Sound) (path : List Char) :
    (m.withDirectory path).storage.Sound :=
  h.ensureWay _

end Machine

namespace Route

/-- The program that a command is given to along a route, and its arguments. -/
inductive Runs (command : String) : Route → String → List String → Prop
  | here : Runs command .here "sh" ["-c", command]
  | through (destination : String) :
      Runs command (.through destination) "ssh" ["-o", "BatchMode=yes", destination, command]

/-- A program was done before the limit, if there is one. -/
def InTime (limit : Option Duration) (o : Outcome) : Prop :=
  ∀ d ∈ limit, o.ending ≠ none ∧ o.millis < d.millis

/-- What is answered to a command, by how its program could be started, when it was done and
how it ended. -/
inductive Replies (limit : Option Duration) (program : String) :
    Except String Outcome → Except Refusal String → Prop
  | unstarted (reason : String) :
      Replies limit program (.error reason)
        (.error ⟨"failed to spawn " ++ program ++ ": " ++ reason, ""⟩)
  | late {o : Outcome} {d : Duration} (hlimit : limit = some d)
      (h : o.ending = none ∨ d.millis ≤ o.millis) :
      Replies limit program (.ok o)
        (.error ⟨"command timed out after " ++ Text.decimal d.millis ++ "ms", ""⟩)
  | done {o : Outcome} (h : InTime limit o) (hending : o.ending = some (.done 0)) :
      Replies limit program (.ok o) (.ok (shown o.output))
  | failed {o : Outcome} {status : Nat} (h : InTime limit o)
      (hending : o.ending = some (.done status)) (hstatus : status ≠ 0) :
      Replies limit program (.ok o) (.error ⟨"command exited with status " ++ Text.decimal status,
        shown o.output ++ shown o.errors⟩)
  | stopped {o : Outcome} (h : InTime limit o) (hending : ∀ status, o.ending ≠ some (.done status)) :
      Replies limit program (.ok o) (.error ⟨"command exited with status signal",
        shown o.output ++ shown o.errors⟩)

variable {limit : Option Duration} {route : Route} {o : Outcome}

theorem isLate_eq_false_iff : isLate limit o = false ↔ InTime limit o := by
  cases limit with
  | none => simp [isLate, InTime]
  | some d => cases hending : o.ending <;> simp [isLate, InTime, hending]

theorem replies_answer (limit : Option Duration) (program : String) (o : Outcome) :
    Replies limit program (.ok o) (answer limit o) := by
  cases hlate : isLate limit o with
  | true =>
      cases limit with
      | none => cases hlate
      | some d =>
          rw [answer, if_pos hlate]
          refine .late rfl ?_
          cases hending : o.ending with
          | none => exact .inl rfl
          | some ending => exact .inr (by simpa [isLate, hending] using hlate)
  | false =>
      have htime := isLate_eq_false_iff.mp hlate
      rw [answer, if_neg (by simp [hlate])]
      simp only
      split
      · next hending => exact .done htime hending
      · next status hne hending => exact .failed htime hending hne
      · next hending => exact .stopped htime fun status h => hending status h

/-- The answer to a command whose program was run, or could not be. -/
def reply (limit : Option Duration) (program : String) : Except String Outcome →
    Except Refusal String
  | .error reason => .error ⟨"failed to spawn " ++ program ++ ": " ++ reason, ""⟩
  | .ok o => answer limit o

theorem replies_reply (limit : Option Duration) (program : String)
    (run : Except String Outcome) : Replies limit program run (reply limit program run) := by
  cases run with
  | error reason => exact .unstarted reason
  | ok o => exact replies_answer limit program o

theorem run_eq (s : Surroundings) (limit : Option Duration) (route : Route) (command : String)
    (m : Machine) :
    (route.transport s limit).run command m =
      (reply limit route.program (s.execute route.program (route.arguments command) m).1,
        (s.execute route.program (route.arguments command) m).2) := by
  simp only [transport]
  split <;> next heq => rw [heq]; rfl

/-- Along a route, a command is given to the shell of the machine or of the destination, and
answered by what comes of it there. -/
theorem run_replies (s : Surroundings) (limit : Option Duration) (route : Route) (command : String)
    (m : Machine) :
    ∃ program arguments, Runs command route program arguments ∧
      Replies limit program (s.execute program arguments m).1
        ((route.transport s limit).run command m).1 ∧
      ((route.transport s limit).run command m).2 = (s.execute program arguments m).2 := by
  have hruns : Runs command route route.program (route.arguments command) := by
    cases route with
    | here => exact .here
    | through destination => exact .through destination
  rw [run_eq]
  exact ⟨_, _, hruns, replies_reply .., rfl⟩

/-- A command is answered with a text just if its program was done in time, with a status of
zero, and wrote what is read as this text. -/
theorem replies_ok_iff {program : String} {run : Except String Outcome} {text : String} :
    Replies limit program run (.ok text) ↔
      ∃ o, run = .ok o ∧ InTime limit o ∧ o.ending = some (.done 0) ∧ text = shown o.output := by
  constructor
  · rintro (_ | _ | ⟨htime, hending⟩)
    exact ⟨_, rfl, htime, hending, rfl⟩
  · rintro ⟨o, rfl, htime, hending, rfl⟩
    exact .done htime hending

/-- A longer limit is a limit of more milliseconds, or none at all. -/
def Extends (longer limit : Option Duration) : Prop :=
  ∀ d ∈ longer, ∃ e ∈ limit, e.millis ≤ d.millis

theorem InTime.extends {longer : Option Duration} (h : InTime limit o)
    (hlonger : Extends longer limit) : InTime longer o := by
  intro d hd
  obtain ⟨e, he, hle⟩ := hlonger d hd
  obtain ⟨hending, hmillis⟩ := h e he
  exact ⟨hending, Nat.lt_of_lt_of_le hmillis hle⟩

theorem answer_of_inTime (h : InTime limit o) : answer limit o = answer none o := by
  have hnone : isLate none o = false := rfl
  simp only [answer, isLate_eq_false_iff.mpr h, hnone, Bool.false_eq_true, if_false]

/-- A command that is answered with a text is answered alike under a longer limit, and leaves
the machine alike. -/
theorem run_eq_of_extends {longer : Option Duration} (hlonger : Extends longer limit)
    {s : Surroundings} {command text : String} {m : Machine}
    (h : ((route.transport s limit).run command m).1 = .ok text) :
    (route.transport s longer).run command m = (route.transport s limit).run command m := by
  simp only [run_eq] at h ⊢
  have hreplies := replies_reply limit route.program
    (s.execute route.program (route.arguments command) m).1
  rw [h] at hreplies
  obtain ⟨o, hrun, htime, -⟩ := replies_ok_iff.mp hreplies
  simp only [hrun, reply, answer_of_inTime htime, answer_of_inTime (htime.extends hlonger)]

/-- No program is started with a text that has a zero in it. -/
theorem execute_of_zero (s : Surroundings) (name : String) {arguments : List String}
    (h : ∃ a ∈ arguments, '\x00' ∈ a.toList) (m : Machine) :
    (s.execute name arguments m).1 = .error "nul byte found in provided data" := by
  have hany : (arguments.any fun a => a.contains '\x00') = true := by
    obtain ⟨a, ha, hzero⟩ := h
    refine List.any_eq_true.mpr ⟨a, ha, ?_⟩
    rw [String.contains_char_eq]
    exact decide_eq_true hzero
  simp only [Surroundings.execute, hany, if_true]

/-- A command with a zero in it reaches no shell, whatever the machine and the limit. -/
theorem run_of_zero (s : Surroundings) (limit : Option Duration) (route : Route) {command : String}
    (h : '\x00' ∈ command.toList) (m : Machine) :
    ((route.transport s limit).run command m).1 =
      .error ⟨"failed to spawn " ++ route.program ++ ": " ++ "nul byte found in provided data",
        ""⟩ := by
  have hargument : command ∈ route.arguments command := by
    cases route <;> simp [arguments]
  rw [run_eq, execute_of_zero s route.program ⟨command, hargument, h⟩ m]
  rfl

end Route

end ClusterLaunch.Shell
