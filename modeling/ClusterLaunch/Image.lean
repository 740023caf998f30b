import ClusterLaunch.Catalogue
import ClusterLaunch.Registry
import ClusterLaunch.Trail
import ClusterLaunch.Url.Authority

/-!
Which image a cluster is to pull. The name of an image in a public registry says
so by its scheme; when a registry of one's own is declared for it, its address
takes the place of the public one and the rest of the name stays as it is. A file
on the cluster is never looked for in a registry.
-/

namespace ClusterLaunch.Image

open Text

/-- How an image name is written. -/
inductive Kind
  | docker
  | singularityHub
  | file
  | unknown
  deriving DecidableEq, Repr

namespace Kind

def name : Kind → String
  | .docker => "docker"
  | .singularityHub => "singularity_hub"
  | .file => "file"
  | .unknown => "unknown"

/-- What the names of images in a registry begin with. -/
def scheme? : Kind → Option String
  | .docker => some "docker://"
  | .singularityHub => some "shub://"
  | .file | .unknown => none

end Kind

def fileEndings : List String := [".simg", ".img"]

def hasScheme (scheme image : String) : Bool :=
  (afterLead? scheme.toList image.toList).isSome

def isFile (image : String) : Bool :=
  fileEndings.any fun ending => (afterLead? ending.toList.reverse image.toList.reverse).isSome

/-- The kind of an image name. A scheme counts more than an ending. -/
def kind (image : String) : Kind :=
  if hasScheme "docker://" image then .docker
  else if hasScheme "shub://" image then .singularityHub
  else if isFile image then .file
  else .unknown

/-- The registry that is declared for an image: its name and its address. -/
structure Origin where
  name : Option String := none
  url : Option String := none
  deriving DecidableEq, Repr

/-- The address that takes the place of the public registry, if any does: that of
a named registry, unless it is blank or itself a public one. -/
def Origin.address? (origin : Origin) : Option String :=
  match origin.name, origin.url with
  | some name, some url =>
      let address := trimmed url
      if name.isEmpty || address.isEmpty || Registry.isPublic address then none
      else some address
  | _, _ => none

/-- What follows the scheme of an image name, without slashes in front. -/
def path (scheme image : String) : List Char :=
  stripStart (· == '/') (image.toList.drop scheme.length)

/-- The image name as another registry knows it. -/
def rehost (scheme image : String) (authority : Url.Authority) : String :=
  scheme ++ String.ofList (authority.write ++ '/' :: path scheme image)

/-- The image name with the address of its declared registry, or none if the name
is to stay as it is. -/
def rehosted? (image : String) (origin : Origin) : Except Failure (Option String) :=
  if image.isEmpty then .error .missingImage
  else match kind image, (kind image).scheme?, origin.address? with
    | .unknown, _, _ => .error (.unresolvableImage image)
    | _, some scheme, some address =>
        match Url.authority address.toList with
        | .ok authority => .ok (some (rehost scheme image authority))
        | .error fault => .error (.invalidAddress address fault.message)
    | _, _, _ => .ok none

def resolve (image : String) (origin : Origin) : Except Failure String :=
  (rehosted? image origin).map fun other => other.getD image

/-! An image whose registry is looked up in the declarations. -/

def rehostNotice (image : String) (origin : Origin) : Notice where
  level := .debug
  reporter := .image
  fields :=
    [("image_uri", .text image),
     ("message", .text ("Resolved image against repository " ++ match origin.name with
       | some name => "Some(" ++ quoted name ++ ")"
       | none => "None"))]

/-- What resolving reports: the new name, if there is one. -/
def notes (image : String) (origin : Origin) : List Notice :=
  match rehosted? image origin with
  | .ok (some other) => [rehostNotice other origin]
  | _ => []

/-- What a look-up that failed is called in a message. -/
def registryContext (deployment name : String) : String :=
  "repository " ++ quoted name ++ " of deployment " ++ deployment

def lookUp (source : Source) (key : ArtifactKey) : Except Failure Origin × Trail :=
  match source.registry key with
  | .error fault => (.error (.sourceFailed key.display fault), [.asked (.artifact key)])
  | .ok none => (.ok {}, [.asked (.artifact key)])
  | .ok (some name) =>
      if name.isEmpty then (.ok {}, [.asked (.artifact key)])
      else
        let asked := [.asked (.artifact key), .asked (.registry key.deployment name)]
        match source.address key.deployment name with
        | .error fault =>
            (.error (.sourceFailed (registryContext key.deployment name) fault), asked)
        | .ok url => (.ok ⟨some name, url⟩, asked)

/-- The image that the cluster is to pull, by the declarations. Those are asked
only about images in a registry. -/
def resolveFrom (source : Source) (key : ArtifactKey) (image : String) :
    Except Failure String × Trail :=
  match (kind image).scheme? with
  | none => (resolve image {}, [])
  | some _ =>
      match lookUp source key with
      | (.error failure, asked) => (.error failure, asked)
      | (.ok origin, asked) => (resolve image origin, asked ++ Trail.ofNotices (notes image origin))

end ClusterLaunch.Image
