import ClusterLaunch.Files
import ClusterLaunch.Shell.Machine

/-!
The files of a machine as a program sees them from its directory.
-/

namespace ClusterLaunch.Shell.Machine

/-- Why a file cannot be read, as the program sees it. -/
def faultOf : Trouble → FileFault
  | .notDirectory => .notDirectory
  | .isDirectory => .isDirectory
  | .tooLong => .nameTooLong
  | .denied => .denied
  | _ => .missing

def files (m : Machine) (directory : List Char) : Files := fun path =>
  let s := m.storage
  match s.find Storage.root directory with
  | .error t => .error (faultOf t)
  | .ok place =>
      match s.find place (octets path) with
      | .error t => .error (faultOf t)
      | .ok id =>
          match (s.at? id).map Entry.node with
          | some (.file content) => .ok (rawOctets content.text)
          | some (.directory _ _) => .error .isDirectory
          | some (.device .void) => .ok []
          | some (.program _) => .error .denied
          | _ => .error .missing

end ClusterLaunch.Shell.Machine
