import ClusterLaunch.Text.Digits

/-!
What a workflow asks for: one operation of a node, the image that implements it,
the values handed to it, and how the scheduler is to run it. A request stays as
it is while it is carried out.
-/

namespace ClusterLaunch

/-- How a job reaches the scheduler. -/
inductive Mode
  /-- Handed over in a wrapping script; the scheduler answers with an id. -/
  | batch
  /-- Run at once and detached, with its output captured in a file. -/
  | interactive
  deriving DecidableEq, Repr

def Mode.name : Mode → String
  | .batch => "batch"
  | .interactive => "interactive"

/-- A named value handed to the job. -/
structure Assignment where
  name : String
  value : String
  deriving DecidableEq, Repr

/-- The name of the value that is the command to run inside the container; it is
never exported. -/
def Assignment.commandName : String := "exec_command"

/-- What the scheduler is asked to provide. -/
structure Options where
  name : Option String := none
  nodes : Option UInt32 := none
  tasks : Option UInt32 := none
  cpusPerTask : Option UInt32 := none
  memory : Option String := none
  maxTime : Option String := none
  partition : Option String := none
  reservation : Option String := none
  account : Option String := none
  /-- Further flags, passed on as they are. -/
  extra : List String := []
  deriving DecidableEq, Repr

namespace Options

/-- A flag with a text; an empty text counts as unset. -/
def textFlag (flag : String) : Option String → List String
  | none => []
  | some value => if value.isEmpty then [] else ["--" ++ flag ++ "=" ++ value]

def numberFlag (flag : String) : Option UInt32 → List String
  | none => []
  | some value => ["--" ++ flag ++ "=" ++ Text.decimal value.toNat]

/-- The flags of the fields that are set, in their fixed order. -/
def flags (o : Options) : List String :=
  textFlag "job-name" o.name ++ numberFlag "nodes" o.nodes ++ numberFlag "ntasks" o.tasks ++
    numberFlag "cpus-per-task" o.cpusPerTask ++ textFlag "mem" o.memory ++
    textFlag "time" o.maxTime ++ textFlag "partition" o.partition ++
    textFlag "reservation" o.reservation ++ textFlag "account" o.account

/-- The flags and the further flags that are not empty, one blank between two. -/
def render (o : Options) : String :=
  " ".intercalate (o.flags ++ o.extra.filter fun flag => !flag.isEmpty)

end Options

/-- How a job is to be run and watched. -/
structure Order where
  mode : Mode := .batch
  options : Options := {}
  /-- Seconds between two looks at the job, when the settings are not to decide. -/
  pollSeconds : Option UInt64 := none
  deriving DecidableEq, Repr

/-- The operation of a node whose implementation an image is. -/
structure ArtifactKey where
  deployment : String
  template : String
  nodeType : String
  operation : String
  deriving DecidableEq, Repr

def ArtifactKey.display (key : ArtifactKey) : String :=
  key.deployment ++ "/" ++ key.template ++ "(" ++ key.nodeType ++ ")/" ++ key.operation

structure Request where
  operation : String
  deployment : String
  nodeType : String
  template : String
  /-- The image that implements the operation. -/
  image : String
  inputs : List Assignment := []
  arguments : List String := []
  /-- The directory on the cluster that a batch job is submitted from. -/
  directory : String
  order : Order := {}
  deriving DecidableEq, Repr

/-- The key under which the request's image is declared. -/
def Request.artifact (r : Request) : ArtifactKey :=
  ⟨r.deployment, r.template, r.nodeType, r.operation⟩

end ClusterLaunch
