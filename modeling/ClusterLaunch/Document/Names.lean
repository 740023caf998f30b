import ClusterLaunch.Container
import ClusterLaunch.Failure
import ClusterLaunch.Image

/-!
The names that documents use for the cases of a type. Each table lists the cases
in order, so it also says which names a reader knows.
-/

namespace ClusterLaunch.Document

def modes : List (String × Mode) :=
  [Mode.batch, .interactive].map fun mode => (mode.name, mode)

def verbs : List (String × Verb) :=
  [Verb.run, .exec].map fun verb => (verb.name, verb)

def imageKinds : List (String × Image.Kind) :=
  [Image.Kind.docker, .singularityHub, .file, .unknown].map fun kind => (kind.name, kind)

def failureKinds : List (String × Failure.Kind) :=
  Failure.Kind.table.map fun (kind, name, _) => (name, kind)

def stages : List (String × Stage) :=
  Stage.all.map fun stage => (stage.name, stage)

end ClusterLaunch.Document
