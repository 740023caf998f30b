import ClusterLaunch.Job
import ClusterLaunch.Settings
import ClusterLaunch.Transport

/-!
The search for the id of an interactive job. The scheduler's queue is asked for
the jobs of its name, again and again until one is listed or the attempts are
used up; between two attempts there is a pause.
-/

namespace ClusterLaunch

structure QueueSearch where
  attempts : Nat
  pause : Duration
  attempts_pos : 0 < attempts

namespace QueueSearch

def ofSettings (s : Settings) : QueueSearch :=
  ⟨max s.attempts.toNat 1, s.pause, by omega⟩

/-- The search with another number of attempts; it is made at least once. -/
def withAttempts (q : QueueSearch) (attempts : Nat) : QueueSearch :=
  ⟨max attempts 1, q.pause, by omega⟩

def withPause (q : QueueSearch) (pause : Duration) : QueueSearch :=
  { q with pause }

def command (job : String) : String :=
  "squeue --noheader --name=" ++ job ++ " -o %A"

/-- The id in what the queue printed: its first line that is not blank. -/
def listed? (output : String) : Option String :=
  (Text.filledLines output.toList).head?.map String.ofList

def notListed : String := "job not listed by squeue"

def refused (r : Refusal) : String :=
  r.message ++ ": " ++ Text.trimmed r.output

def foundNotice (deployment job id : String) (attempt : Nat) : Notice where
  level := .debug
  reporter := .queue
  fields := [("deployment_id", .text deployment), ("job_name", .text job), ("job_id", .text id),
    ("attempt", .number attempt), ("message", .text "Retrieved interactive job ID")]

def refusedNotice (job : String) (r : Refusal) (attempt : Nat) : Notice where
  level := .warn
  reporter := .queue
  fields := [("job_name", .text job), ("attempt", .number attempt), ("error", .text r.message),
    ("message", .text "squeue failed")]

/-- What an answer of the queue amounts to: an id or the reason why there is none. -/
def read : Except Refusal String → Except String String
  | .ok output =>
      match listed? output with
      | some id => .ok id
      | none => .error notListed
  | .error r => .error (refused r)

def notes (deployment job : String) (attempt : Nat) : Except Refusal String → List Notice
  | .ok output =>
      match listed? output with
      | some id => [foundNotice deployment job id attempt]
      | none => []
  | .error r => [refusedNotice job r attempt]

/-- Asks the queue as attempt number `attempt`, and `more` times after that unless
the job is listed. -/
def seek {σ : Type} (q : QueueSearch) (t : Transport σ) (deployment job : String) :
    (attempt more : Nat) → σ → Done σ Failure String
  | attempt, more, state =>
      let (answer, after) := t.run (command job) state
      let trail := t.trail (command job) ++ Trail.ofNotices (notes deployment job attempt answer)
      match read answer, more with
      | .ok id, _ => ⟨.ok id, after, trail⟩
      | .error reason, 0 => ⟨.error (.jobNotFound job q.attempts reason), after, trail⟩
      | .error _, more + 1 =>
          let later := q.seek t deployment job (attempt + 1) more after
          { later with trail := trail ++ .paused q.pause :: later.trail }

def find {σ : Type} (q : QueueSearch) (t : Transport σ) (deployment job : String) (state : σ) :
    Done σ Failure String :=
  q.seek t deployment job 1 (q.attempts - 1) state

end QueueSearch

end ClusterLaunch
