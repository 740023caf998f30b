import ClusterLaunch.Duration
import ClusterLaunch.Failure
import ClusterLaunch.Submission
import ClusterLaunch.Text.Blank

/-!
Settings that hold for all launches. Each is read from a variable of its own and
keeps its default when that is not set; the first variable that cannot be read is
the one that is reported.
-/

namespace ClusterLaunch

structure Settings where
  /-- How often to look at a job. -/
  poll : Duration := .ofSeconds 5
  /-- What the names of captured outputs begin with. -/
  lead : String := Submission.defaultLead
  /-- How often the queue is asked for an id. -/
  attempts : UInt32 := 5
  /-- How long to wait before the queue is asked again. -/
  pause : Duration := .ofMillis 1000
  /-- How long a command may take. -/
  timeout : Option Duration := none
  deriving DecidableEq, Repr

namespace Settings

/-- Why a text is not a count. -/
inductive CountFault
  | empty
  | invalidDigit
  | tooLarge
  deriving DecidableEq, Repr

def CountFault.message : CountFault → String
  | .empty => "cannot parse integer from empty string"
  | .invalidDigit => "invalid digit found in string"
  | .tooLarge => "number too large to fit in target type"

/-- Reads digits on from `value`; what is wrong at the first place counts. -/
def countOn (bound value : Nat) : List Char → Except CountFault Nat
  | [] => .ok value
  | c :: rest =>
      if Text.isDigit c then
        let more := value * 10 + (c.toNat - 48)
        if more < bound then countOn bound more rest else .error .tooLarge
      else .error .invalidDigit

/-- The digits of a count; a plus sign may stand before them. -/
def unsigned : List Char → List Char
  | '+' :: c :: rest => c :: rest
  | text => text

/-- Reads a count below `bound`. -/
def count (bound : Nat) (text : List Char) : Except CountFault Nat :=
  match text with
  | [] => .error .empty
  | _ => countOn bound 0 (unsigned text)

/-! The variables. -/

def pollVariable : String := "SLURMEXEC_MONITORING_INTERVAL_SECS"
def leadVariable : String := "SLURMEXEC_REDIRECT_PREFIX"
def attemptsVariable : String := "SLURMEXEC_JOBID_ATTEMPTS"
def pauseVariable : String := "SLURMEXEC_JOBID_DELAY_MS"
def timeoutVariable : String := "SLURMEXEC_TRANSPORT_TIMEOUT_SECS"

def countIn (env : String → Option String) (bound : Nat) (name : String) :
    Except Failure (Option Nat) :=
  match env name with
  | none => .ok none
  | some text =>
      match count bound (Text.trim text.toList) with
      | .ok n => .ok (some n)
      | .error fault =>
          .error (.invalidSettings (name ++ "=" ++ Text.quoted text ++ ": " ++ fault.message))

/-- The number of attempts, which is never zero. -/
def attemptsIn (env : String → Option String) : Except Failure (Option Nat) := do
  match ← countIn env UInt32.size attemptsVariable with
  | some 0 => .error (.invalidSettings (attemptsVariable ++ " must be at least 1"))
  | n => .ok n

/-- The lead in its variable, unless that is blank. -/
def leadIn (env : String → Option String) : Option String :=
  (env leadVariable).filter fun lead => !Text.isBlankText lead.toList

def ofVariables (env : String → Option String) : Except Failure Settings := do
  let poll ← countIn env UInt64.size pollVariable
  let attempts ← attemptsIn env
  let pause ← countIn env UInt64.size pauseVariable
  let timeout ← countIn env UInt64.size timeoutVariable
  let standard : Settings := {}
  return {
    poll := (poll.map fun n => .ofSeconds (.ofNat n)).getD standard.poll
    lead := (leadIn env).getD standard.lead
    attempts := (attempts.map .ofNat).getD standard.attempts
    pause := (pause.map fun n => .ofMillis (.ofNat n)).getD standard.pause
    timeout := timeout.map fun n => .ofSeconds (.ofNat n) }

end Settings

end ClusterLaunch
