import ClusterLaunch.Files

/-!
A catalogue in use. It is loaded from files, made anew of documents, added to and consulted,
in any order. A load that fails leaves it as it is. What came of every use is kept.
-/

namespace ClusterLaunch.Catalogue

/-- What is done with a catalogue. A declaration is made where the catalogue stands, or the
catalogue is handed on with it. -/
inductive Use
  | load (files : Files) (path : String)
  | replace (d : Declarations)
  | declare (made : Declaration)
  | handOn (made : Declaration)
  | registryOf (key : ArtifactKey)
  | addressOf (deployment name : String)

/-- What comes of a use. -/
inductive Outcome
  | loaded (answer : Except SourceFault Unit)
  | done
  | found (answer : Except SourceFault (Option String))

def handedOn (c : Catalogue) (made : Declaration) : Catalogue :=
  c.declare made

def serve (c : Catalogue) : Use → Catalogue × Outcome
  | .load files path =>
      match files.declarations path with
      | .ok d => (ofDeclarations d, .loaded (.ok ()))
      | .error fault => (c, .loaded (.error fault))
  | .replace d => (ofDeclarations d, .done)
  | .declare made => (c.declare made, .done)
  | .handOn made => (c.handedOn made, .done)
  | .registryOf key => (c, .found ((Source.ofCatalogue c).registry key))
  | .addressOf deployment name => (c, .found ((Source.ofCatalogue c).address deployment name))

def run (c : Catalogue) : List Use → Catalogue × List Outcome
  | [] => (c, [])
  | use :: uses =>
      let (next, outcome) := c.serve use
      let (last, outcomes) := run next uses
      (last, outcome :: outcomes)

end ClusterLaunch.Catalogue
