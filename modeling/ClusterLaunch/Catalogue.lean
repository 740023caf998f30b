import ClusterLaunch.Failure
import ClusterLaunch.Request
import ClusterLaunch.Text.Lowercase

/-!
Declarations: which registry an operation's image comes from, and what address a
registry has in a deployment. The latest declaration counts. Operations are told
apart by the lower-case form of their names; everything else must be the same.
-/

namespace ClusterLaunch

/-- A declared registry of an operation's image. -/
structure ArtifactEntry where
  key : ArtifactKey
  registry : String
  deriving DecidableEq, Repr

/-- A declared address of a registry. -/
structure RegistryEntry where
  deployment : String
  name : String
  url : String
  deriving DecidableEq, Repr

/-- The declarations of a file, in the order in which they stand. -/
structure Declarations where
  artifacts : List ArtifactEntry := []
  registries : List RegistryEntry := []
  deriving DecidableEq, Repr

/-- What can be declared. -/
inductive Declaration
  | artifact (entry : ArtifactEntry)
  | registry (entry : RegistryEntry)
  deriving DecidableEq, Repr

namespace Declaration

@[simp] def artifact? : Declaration → Option ArtifactEntry
  | .artifact entry => some entry
  | .registry _ => none

@[simp] def address? : Declaration → Option RegistryEntry
  | .artifact _ => none
  | .registry entry => some entry

end Declaration

/-- A key as declarations are filed under it. -/
def ArtifactKey.folded (key : ArtifactKey) : ArtifactKey :=
  { key with operation := Text.lowercase key.operation }

/-- The declarations made so far, the latest first. -/
structure Catalogue where
  artifacts : List (ArtifactKey × String) := []
  registries : List ((String × String) × String) := []
  deriving DecidableEq, Repr

namespace Catalogue

def declareArtifact (c : Catalogue) (key : ArtifactKey) (registry : String) : Catalogue :=
  { c with artifacts := (key.folded, registry) :: c.artifacts }

def declareRegistry (c : Catalogue) (deployment name url : String) : Catalogue :=
  { c with registries := ((deployment, name), url) :: c.registries }

def declare (c : Catalogue) : Declaration → Catalogue
  | .artifact entry => c.declareArtifact entry.key entry.registry
  | .registry entry => c.declareRegistry entry.deployment entry.name entry.url

def ofDeclarations (d : Declarations) : Catalogue :=
  let named := d.artifacts.foldl (fun c entry => c.declareArtifact entry.key entry.registry) {}
  d.registries.foldl (fun c entry => c.declareRegistry entry.deployment entry.name entry.url) named

/-- The registry declared last for an operation's image. -/
def registryOf? (c : Catalogue) (key : ArtifactKey) : Option String :=
  c.artifacts.lookup key.folded

/-- The address declared last for a registry of a deployment. -/
def addressOf? (c : Catalogue) (deployment name : String) : Option String :=
  c.registries.lookup (deployment, name)

end Catalogue

/-- Where declarations are looked up. Nothing declared is an answer; a fault is
one of the place itself. -/
structure Source where
  registry : ArtifactKey → Except SourceFault (Option String)
  address : String → String → Except SourceFault (Option String)

namespace Source

/-- Looks up in a catalogue, which never fails. -/
def ofCatalogue (c : Catalogue) : Source where
  registry key := .ok (c.registryOf? key)
  address deployment name := .ok (c.addressOf? deployment name)

def failing (source : Source) (registry address : Option String) : Source where
  registry key := match registry with
    | some reason => .error (.backend reason)
    | none => source.registry key
  address deployment name := match address with
    | some reason => .error (.backend reason)
    | none => source.address deployment name

end Source

end ClusterLaunch
