import ClusterLaunch.Catalogue
import ClusterLaunch.Json.Record
import ClusterLaunch.Json.Value
import ClusterLaunch.Trail

/-!
Declarations as documents. In the declaration of an image's registry the members
of the key stand beside that of the registry, so all other members are kept until
the object has been read, and the key is then taken from them.
-/

namespace ClusterLaunch

open Json

namespace ArtifactKey

def record : Record ArtifactKey where
  types := [String, String, String, String]
  fields :=
    .cons (.required "deployment_id" readText) <| .cons (.required "node_template" readText) <|
    .cons (.required "node_type" readText) <| .cons (.required "operation" readText) .nil
  name := "OperationKey"
  build := fun (deployment, template, nodeType, operation, _) =>
    .ok ⟨deployment, template, nodeType, operation⟩

def members (key : ArtifactKey) : List (String × Json) :=
  [("deployment_id", .text key.deployment), ("node_template", .text key.template),
   ("node_type", .text key.nodeType), ("operation", .text key.operation)]

end ArtifactKey

namespace ArtifactEntry

/-- How deep the values may nest that are kept: three levels of the document's
hundred and twenty-eight are around them. -/
def room : Nat := 125

/-- The registry, once it is read, and the members that are kept. -/
def collect (registry : Option String) : Members → Except Fault (Option String × Members)
  | .closed => .ok (registry, .closed)
  | .stopped fault => .error fault
  | .cons key value tail => do
      let name ← key.key
      if name = "repository" then
        if registry.isSome then throw (.mismatch (.duplicateField name))
        collect (some (← readText value)) tail
      else
        value.wellFormed room
        let (registry, kept) ← collect registry tail
        return (registry, .cons key value kept)

/-- Reads the declaration of an image's registry. -/
def read : Tree → Except Fault ArtifactEntry
  | .object members => do
      let (registry, kept) ← collect none members
      let some registry := registry | throw (.mismatch (.missingField "repository"))
      return ⟨← ArtifactKey.record.read (.object kept), registry⟩
  | tree => refuse "struct OperationRepository" tree

def toJson (entry : ArtifactEntry) : Json :=
  .object (entry.key.members ++ [("repository", .text entry.registry)])

end ArtifactEntry

namespace RegistryEntry

def record : Record RegistryEntry where
  types := [String, String, String]
  fields :=
    .cons (.required "deployment_id" readText) <| .cons (.required "name" readText) <|
    .cons (.required "url" readText) .nil
  name := "RepositoryDeclaration"
  build := fun (deployment, name, url, _) => .ok ⟨deployment, name, url⟩

def toJson (entry : RegistryEntry) : Json :=
  .object [("deployment_id", .text entry.deployment), ("name", .text entry.name),
    ("url", .text entry.url)]

end RegistryEntry

namespace Declarations

def record : Record Declarations where
  types := [List ArtifactEntry, List RegistryEntry]
  fields :=
    .cons (.defaulted "operations" [] (readList ArtifactEntry.read)) <|
    .cons (.defaulted "repositories" [] (readList RegistryEntry.record.read)) .nil
  name := "StoreDocument"
  build := fun (artifacts, registries, _) => .ok ⟨artifacts, registries⟩

def ofText (text : String) : Except Fault Declarations :=
  readDocument record.read text

def toJson (d : Declarations) : Json :=
  .object [("operations", .array (d.artifacts.map ArtifactEntry.toJson)),
    ("repositories", .array (d.registries.map RegistryEntry.toJson))]

def notice (d : Declarations) (path : String) : Notice where
  level := .debug
  reporter := .catalogue
  fields := [("operations", .number d.artifacts.length),
    ("repositories", .number d.registries.length),
    ("message", .text ("Loaded repository store from " ++ Text.quoted path))]

end Declarations

end ClusterLaunch
