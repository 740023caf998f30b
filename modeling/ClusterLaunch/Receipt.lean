import ClusterLaunch.Acknowledgment
import ClusterLaunch.Outputs
import ClusterLaunch.Submission

/-!
What is known of a job once its command has run: the id, for a batch job, and the
files that its output goes to.
-/

namespace ClusterLaunch

structure Receipt where
  jobId : Option String
  outputs : List String
  deriving DecidableEq, Repr

namespace Receipt

/-- The file that the scheduler writes when no other is declared. -/
def defaultOutput (id : String) : String :=
  "slurm-" ++ id ++ ".out"

def batchOutputs (id : String) (options : Options) : List String :=
  match Outputs.declared options with
  | [] => [defaultOutput id]
  | files => files

/-- What a command printed, without the line feeds around it. -/
def bare (output : String) : String :=
  String.ofList (Text.strip (· == '\n') output.toList)

/-- Reads what a command printed. Line feeds around it do not count. -/
def interpret (mode : Mode) (capture : Option String) (output : String) (options : Options) :
    Except Failure Receipt :=
  match mode with
  | .batch =>
      match Acknowledgment.jobId (bare output) with
      | .error failure => .error failure
      | .ok id => .ok ⟨some id, batchOutputs id options⟩
  | .interactive => .ok ⟨none, capture.toList⟩

def notes (receipt : Receipt) : List Notice :=
  match receipt.jobId with
  | none => []
  | some id => [{
      level := .debug
      reporter := .acknowledgment
      fields := [("job_id", .text id), ("outputs", .text (Text.quotedList receipt.outputs)),
        ("message", .text "Parsed batch submission")] }]

end Receipt

end ClusterLaunch
