import ClusterLaunch.Shell.Octets

/-!
Reasons why something cannot be done with a file or a channel, in the words of the
system.
-/

namespace ClusterLaunch.Shell

inductive Trouble
  | missing
  | notDirectory
  | isDirectory
  | exists
  | notEmpty
  | denied
  | looped
  | tooLong
  | noChannel
  | full
  | invalid
  | notPermitted
  | brokenPipe
  | busy
  | notExecutable
  deriving DecidableEq, Repr

namespace Trouble

def message : Trouble → String
  | .missing => "No such file or directory"
  | .notDirectory => "Not a directory"
  | .isDirectory => "Is a directory"
  | .exists => "File exists"
  | .notEmpty => "Directory not empty"
  | .denied => "Permission denied"
  | .looped => "Too many levels of symbolic links"
  | .tooLong => "File name too long"
  | .noChannel => "Bad file descriptor"
  | .full => "No space left on device"
  | .invalid => "Invalid argument"
  | .notPermitted => "Operation not permitted"
  | .brokenPipe => "Broken pipe"
  | .busy => "Device or resource busy"
  | .notExecutable => "Exec format error"

def text (t : Trouble) : List Char := octets t.message

def isMissing : Trouble → Bool
  | .missing | .notDirectory => true
  | _ => false

end Trouble

end ClusterLaunch.Shell
