import ClusterLaunch.Duration
import ClusterLaunch.Request
import ClusterLaunch.Tag

/-!
A job as the scheduler is to know it. Every job has a name: the one that is asked
for, else one made of the deployment and the node. An interactive job is looked
up by its name afterwards, so a name that is made for it ends in a tag, and the
scheduler is told the name in any case.
-/

namespace ClusterLaunch

structure Job where
  mode : Mode
  /-- The scheduler's id, once it is known. -/
  id : Option String
  name : String
  poll : Duration
  /-- The values that are exported to the job. -/
  inputs : List Assignment
  outputs : List String
  arguments : List String
  options : Options
  directory : String
  deriving DecidableEq, Repr

namespace Job

def givenName? (r : Request) : Option String :=
  r.order.options.name.filter fun name => !name.isEmpty

def madeName (r : Request) (tag : Tag) : String :=
  match r.order.mode with
  | .batch => r.deployment ++ "-" ++ r.template
  | .interactive => r.deployment ++ "-" ++ r.template ++ "-" ++ String.ofList tag.digits

def nameOf (r : Request) (tag : Tag) : String :=
  (givenName? r).getD (madeName r tag)

/-- The options of a request's job: an interactive one always has its name among them. -/
def optionsOf (r : Request) (tag : Tag) : Options :=
  match r.order.mode with
  | .batch => r.order.options
  | .interactive => { r.order.options with name := some (nameOf r tag) }

/-- The job of a request; `poll` is how often to look at it unless the request says so. -/
def build (r : Request) (poll : Duration) (tag : Tag) : Job where
  mode := r.order.mode
  id := none
  name := nameOf r tag
  poll := match r.order.pollSeconds with
    | some seconds => .ofSeconds seconds
    | none => poll
  inputs := r.inputs.filter fun a => a.name ≠ Assignment.commandName
  outputs := []
  arguments := r.arguments
  options := optionsOf r tag
  directory := r.directory

end Job

end ClusterLaunch
