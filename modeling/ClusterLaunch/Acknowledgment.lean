import ClusterLaunch.Failure
import ClusterLaunch.Text.Blank

/-!
What the scheduler prints when it takes a job over. The id stands at the end of
the last line that is not blank, and a semicolon cuts off the name of the cluster.
-/

namespace ClusterLaunch.Acknowledgment

open Text

/-- The last word of the last line that is not blank, up to a semicolon. -/
def lastWord? (output : List Char) : Option (List Char) := do
  let line ← (filledLines output).getLast?
  let word ← (words line).getLast?
  return before (· == ';') word

/-- The id in what the scheduler printed; one without a digit is none. -/
def jobId? (output : String) : Option String := do
  let id ← lastWord? output.toList
  if id.any isDigit then some (String.ofList id) else none

def jobId (output : String) : Except Failure String :=
  match jobId? output with
  | some id => .ok id
  | none => .error (.unreadableAcknowledgment output)

end ClusterLaunch.Acknowledgment
