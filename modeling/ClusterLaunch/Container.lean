import ClusterLaunch.Failure
import ClusterLaunch.Request

/-!
What runs in the container: its own program, or a command that the request gives
in place of it.
-/

namespace ClusterLaunch

/-- The word by which the container runtime is told what to run. -/
inductive Verb
  | run
  | exec
  deriving DecidableEq, Repr

def Verb.name : Verb → String
  | .run => "run"
  | .exec => "exec"

structure Container where
  verb : Verb
  /-- The command inside the container; empty when its own program runs. -/
  exec : String
  /-- The image as the request names it. -/
  image : String
  /-- The image that is pulled. -/
  uri : String
  deriving DecidableEq, Repr

namespace Container

/-- The command that the inputs give: the last one that is not empty. -/
def commandOf (inputs : List Assignment) : String :=
  match inputs.reverse.find? fun a => a.name = Assignment.commandName && !a.value.isEmpty with
  | some a => a.value
  | none => ""

/-- The container of a request, once it is known which image is pulled. -/
def ofRequest (r : Request) (uri : String) : Except Failure Container :=
  if r.image.isEmpty then .error .missingImage
  else
    let exec := commandOf r.inputs
    .ok ⟨if exec.isEmpty then .run else .exec, exec, r.image, uri⟩

end Container

end ClusterLaunch
