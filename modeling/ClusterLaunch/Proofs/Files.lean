import ClusterLaunch.Files
import ClusterLaunch.Proofs.Fallible
import ClusterLaunch.Proofs.Octets

/-!
What the files around the program hold. A file is read when its octets are those of a text;
declarations are read when that text is a document of them. Everything that can keep either
from being read has a fault of its own.
-/

namespace ClusterLaunch.Files

/-- What a path leads to are the octets of a text. -/
def Holds (files : Files) (path text : String) : Prop :=
  files path = .ok (Text.Octets.encode text)

/-- What a path leads to is a document of declarations. -/
def Declares (files : Files) (path : String) (d : Declarations) : Prop :=
  ∃ text, files.Holds path text ∧ Declarations.ofText text = .ok d

variable {files : Files} {path : String}

theorem text_eq_ok_iff {text : String} : files.text path = .ok text ↔ files.Holds path text := by
  unfold Files.text Holds
  cases hfile : files path with
  | error fault => simp
  | ok octets =>
      rw [Except.ok.injEq, ← Text.Octets.decode?_eq_some_iff]
      cases hdecode : Text.Octets.decode? octets <;> simp [hdecode]

theorem declarations_eq_ok_iff {d : Declarations} :
    files.declarations path = .ok d ↔ files.Declares path d := by
  unfold declarations Declares
  simp only [← text_eq_ok_iff]
  cases files.text path with
  | error fault => simp
  | ok text => cases hread : Declarations.ofText text <;> simp [hread]

end ClusterLaunch.Files
