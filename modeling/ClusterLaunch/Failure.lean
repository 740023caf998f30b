import ClusterLaunch.Json.Fault
import ClusterLaunch.Text.Digits

/-!
What can keep a request from being carried out. A failure carries its cause; its
message is computed from that, and so is the kind that callers branch on. A
failed launch also names the stage that it failed in.
-/

namespace ClusterLaunch

/-- Why declarations cannot be consulted. -/
inductive SourceFault
  | unreadable (reason : String)
  | undecodable (fault : Json.Fault)
  | backend (reason : String)
  deriving DecidableEq, Repr

def SourceFault.message : SourceFault → String
  | .unreadable reason => "IO error: " ++ reason
  | .undecodable fault => "Failed to parse repository store: " ++ fault.message
  | .backend reason => "Repository store backend error: " ++ reason

def SourceFault.messages (fault : SourceFault) : List String :=
  fault.message :: match fault with
    | .unreadable reason => [reason]
    | .undecodable cause => [cause.message]
    | .backend _ => []

/-- A command that failed, with whatever it printed. -/
structure Refusal where
  message : String
  output : String
  deriving DecidableEq, Repr

inductive Failure
  | unsupportedOperation (operation : String)
  | missingImage
  | unresolvableImage (image : String)
  | invalidAddress (url reason : String)
  | sourceFailed (context : String) (fault : SourceFault)
  | commandFailed (command : String) (refusal : Refusal)
  | unreadableAcknowledgment (output : String)
  | missingJobId
  | jobNotFound (job : String) (attempts : Nat) (reason : String)
  | invalidSettings (reason : String)
  deriving DecidableEq, Repr

namespace Failure

/-- The coarse classes of failures. -/
inductive Kind
  | unsupportedOperation
  | missingImage
  | unresolvableImage
  | invalidAddress
  | sourceFailed
  | commandFailed
  | unreadableAcknowledgment
  | missingJobId
  | jobNotFound
  | invalidSettings
  deriving DecidableEq, Repr

namespace Kind

/-- The kinds in order, with their names in documents and in events. -/
def table : List (Kind × String × String) :=
  [(.unsupportedOperation, "unsupported_operation", "UnsupportedOperation"),
   (.missingImage, "missing_image_name", "MissingImageName"),
   (.unresolvableImage, "unresolvable_image", "UnresolvableImage"),
   (.invalidAddress, "invalid_repository_url", "InvalidRepositoryUrl"),
   (.sourceFailed, "repository_lookup_failure", "RepositoryLookupFailure"),
   (.commandFailed, "command_execution_failure", "CommandExecutionFailure"),
   (.unreadableAcknowledgment, "job_id_parse_failure", "JobIdParseFailure"),
   (.missingJobId, "missing_job_id", "MissingJobId"),
   (.jobNotFound, "job_id_lookup_failure", "JobIdLookupFailure"),
   (.invalidSettings, "configuration", "Configuration")]

def name (kind : Kind) : String :=
  ((table.lookup kind).map Prod.fst).getD ""

def label (kind : Kind) : String :=
  ((table.lookup kind).map Prod.snd).getD ""

end Kind

def kind : Failure → Kind
  | .unsupportedOperation _ => .unsupportedOperation
  | .missingImage => .missingImage
  | .unresolvableImage _ => .unresolvableImage
  | .invalidAddress .. => .invalidAddress
  | .sourceFailed .. => .sourceFailed
  | .commandFailed .. => .commandFailed
  | .unreadableAcknowledgment _ => .unreadableAcknowledgment
  | .missingJobId => .missingJobId
  | .jobNotFound .. => .jobNotFound
  | .invalidSettings _ => .invalidSettings

def message : Failure → String
  | .unsupportedOperation operation => "unsupported operation " ++ Text.quoted operation
  | .missingImage =>
      "the image name is mandatory and must be set on the operation implementation artifact"
  | .unresolvableImage image =>
      "unable to resolve container image URI from image name " ++ Text.quoted image
  | .invalidAddress url reason =>
      "invalid repository URL " ++ Text.quoted url ++ ": " ++ reason
  | .sourceFailed context fault =>
      "repository lookup failed for " ++ context ++ ": " ++ fault.message
  | .commandFailed command refusal =>
      "command " ++ Text.quoted command ++ " failed: " ++ refusal.message ++
        " (output: " ++ Text.quoted refusal.output ++ ")"
  | .unreadableAcknowledgment output =>
      "unable to parse job ID from output " ++ Text.quoted output
  | .missingJobId => "a job ID is required to build a monitoring handle"
  | .jobNotFound job attempts reason =>
      "unable to retrieve job ID for job " ++ Text.quoted job ++ " after " ++
        Text.decimal attempts ++ " attempt(s): " ++ reason
  | .invalidSettings reason => "invalid configuration: " ++ reason

/-- The messages of what caused a failure, outermost first. -/
def causes : Failure → List String
  | .sourceFailed _ fault => fault.messages
  | .commandFailed _ refusal => [refusal.message]
  | _ => []

end Failure

/-- The stages of a launch, in the order in which they run. -/
inductive Stage
  | validateOperation
  | buildContainer
  | submitCommand
  | interpretOutput
  | retrieveJobId
  | buildWatch
  deriving DecidableEq, Repr

namespace Stage

def all : List Stage :=
  [.validateOperation, .buildContainer, .submitCommand, .interpretOutput, .retrieveJobId,
   .buildWatch]

def name : Stage → String
  | .validateOperation => "validate_operation"
  | .buildContainer => "build_container_info"
  | .submitCommand => "submit_command"
  | .interpretOutput => "interpret_output"
  | .retrieveJobId => "retrieve_job_id"
  | .buildWatch => "build_monitoring_handle"

def label : Stage → String
  | .validateOperation => "validate operation"
  | .buildContainer => "build container information"
  | .submitCommand => "run command"
  | .interpretOutput => "interpret command output"
  | .retrieveJobId => "retrieve job ID"
  | .buildWatch => "build job monitoring handle"

theorem mem_all (stage : Stage) : stage ∈ all := by
  cases stage <;> simp [all]

end Stage

/-- A failed launch. -/
structure StageFailure where
  stage : Stage
  failure : Failure
  deriving DecidableEq, Repr

namespace StageFailure

def message (f : StageFailure) : String :=
  "failed to " ++ f.stage.label ++ ": " ++ f.failure.message

def causes (f : StageFailure) : List String :=
  f.failure.message :: f.failure.causes

end StageFailure

end ClusterLaunch
