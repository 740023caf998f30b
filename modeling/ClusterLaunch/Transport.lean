import ClusterLaunch.Trail

/-!
How commands reach the cluster. A transport runs one command after the other and
carries a state from each to the next; what it does not report it does not decide.
-/

namespace ClusterLaunch

structure Transport (σ : Type) where
  /-- Runs a command: what it printed, or why it failed. -/
  run : String → σ → Except Refusal String × σ
  /-- What is reported before a command is run. -/
  notes : String → List Notice

namespace Transport

def trail {σ : Type} (t : Transport σ) (command : String) : Trail :=
  Trail.ofNotices (t.notes command) ++ [.sent command]

/-- A transport that gives the listed answers in order, and prints nothing once
there are none left. -/
def scripted : Transport (List (Except Refusal String)) where
  run _ answers := match answers with
    | [] => (.ok "", [])
    | answer :: rest => (answer, rest)
  notes _ := []

section

variable {σ : Type} (t : Transport σ) (command : String)

@[simp] theorem commands_trail : (t.trail command).commands = [command] := by
  simp [trail]

@[simp] theorem queries_trail : (t.trail command).queries = [] := by
  simp [trail]

@[simp] theorem pauses_trail : (t.trail command).pauses = [] := by
  simp [trail]

end

end Transport

end ClusterLaunch
