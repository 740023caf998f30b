import ClusterLaunch.Document.Declarations
import ClusterLaunch.Document.Request
import ClusterLaunch.Text.Octets

/-!
Documents in files. What keeps a file from being read is told apart from what is
wrong with the document in it.
-/

namespace ClusterLaunch

/-- Why a file cannot be read as a text. -/
inductive FileFault
  | missing
  | denied
  | notDirectory
  | isDirectory
  | nameTooLong
  | notText
  deriving DecidableEq, Repr

def FileFault.message : FileFault → String
  | .missing => "No such file or directory (os error 2)"
  | .denied => "Permission denied (os error 13)"
  | .notDirectory => "Not a directory (os error 20)"
  | .isDirectory => "Is a directory (os error 21)"
  | .nameTooLong => "File name too long (os error 36)"
  | .notText => "stream did not contain valid UTF-8"

/-- The octets that a path leads to. -/
abbrev Files := String → Except FileFault (List UInt8)

namespace Files

def text (files : Files) (path : String) : Except FileFault String :=
  match files path with
  | .error fault => .error fault
  | .ok octets =>
      match Text.Octets.decode? octets with
      | some text => .ok text
      | none => .error .notText

def declarations (files : Files) (path : String) : Except SourceFault Declarations :=
  match files.text path with
  | .error fault => .error (.unreadable fault.message)
  | .ok text => (Declarations.ofText text).mapError .undecodable

end Files

end ClusterLaunch
