import ClusterLaunch.Curation
import ClusterLaunch.Proofs.Catalogue
import ClusterLaunch.Proofs.Files
import Mathlib.Data.List.DropRight
import Mathlib.Data.List.Induction

/-!
What a catalogue in use answers. Its whole history comes down to the declarations that are
in force: those of the document that was last put in place, and those made since. A look-up
is answered by the latest of them that is meant, and neither look-ups nor loads that fail
leave a trace.
-/

namespace ClusterLaunch

def Declarations.all (d : Declarations) : List Declaration :=
  d.artifacts.map .artifact ++ d.registries.map .registry

namespace Catalogue

namespace Use

/-- The use with its declaration made where the catalogue stands. -/
def inPlace : Use → Use
  | .handOn made => .declare made
  | use => use

end Use

end Catalogue

end ClusterLaunch
