import ClusterLaunch.CommandLine.Program
import ClusterLaunch.Shell.Route
import Std.Time.DateTime.Timestamp

/-!
The program at the command line. It hands the variables, the files that the
arguments name, the time and chance to the pure program, and writes what that
leaves. Commands run on a machine that is held in memory; its tools are the
scripts in the directories that are searched for programs.
-/

namespace ClusterLaunch.Main

open CommandLine

/-- Why a file could not be read. What stands in the way of a
directory is named, a directory in the place of a file is not. -/
def faultOf : IO.Error → FileFault
  | .permissionDenied .. => .denied
  | .inappropriateType (some _) _ _ => .notDirectory
  | .inappropriateType none _ _ => .isDirectory
  | .invalidArgument .. => .nameTooLong
  | _ => .missing

def readFile (path : String) : IO (Except FileFault (List UInt8)) := do
  try
    return .ok (← IO.FS.readBinFile path).toList
  catch fault => return .error (faultOf fault)

def readVariables (names : List String) : IO (List (String × String)) := do
  let found ← names.mapM fun name => return (← IO.getEnv name).map fun value => (name, value)
  return found.filterMap id

/-- The scripts in a directory, by name: files that begin with `#!`. -/
def readScripts (place : String) : IO (List (String × List Char)) := do
  try
    let entries ← ((← IO.currentDir) / place).readDir
    let found ← entries.toList.mapM fun entry => do
      match ← readFile entry.path.toString with
      | .ok (0x23 :: 0x21 :: rest) =>
          let text : List UInt8 := 0x23 :: 0x21 :: rest
          return some (entry.fileName, text.map fun b => Char.ofNat b.toNat)
      | _ => return none
    return found.filterMap id
  catch _ => return []

/-- The machine with the scripts of some directories as tools. -/
def readMachine (directory : List Char) (places : List String) : IO Shell.Machine :=
  places.foldlM (fun m place => do
    let path := Shell.Builtin.plainPath directory (Shell.octets place)
    return (← readScripts place).foldl (fun m (name, text) =>
      m.withFile (path ++ '/' :: Shell.octets name) text true) m)
    (Shell.Machine.usual.withDirectory directory)

def readDraws : IO Draws := do
  let word : IO Tag := do
    let octets ← IO.getRandomBytes 4
    return ⟨octets.toList.foldl (fun n b => n * 256 + b.toUInt32) 0⟩
  let now ← Std.Time.Timestamp.now
  return ⟨← word, .sinceEpoch (now.toNanosecondsSinceUnixEpoch.toInt.toNat / 1000), ← word⟩

def runWith (arguments : List String) : IO UInt32 := do
  let known ← readVariables (variableNames ++ ["PATH", "HOME"])
  let paths := match Invocation.ofArguments (known.lookup destinationVariable) arguments with
    | .ok invocation => invocation.task.paths
    | .error _ => []
  let files ← paths.mapM fun path => return (path, ← readFile path)
  let directory := Shell.octets (← IO.currentDir).toString
  let around : Shell.Surroundings := ⟨directory, known⟩
  let own := (around.places.splitOn ":").filter fun place => !Shell.usualPlaces.contains place
  let draws ← readDraws
  let world : World Shell.Machine :=
    { environment := fun name => known.lookup name
      files := fun path => (files.lookup path).getD (.error .missing)
      transport := fun destination limit =>
        (Shell.Route.ofDestination destination).transport around limit
      draws }
  let done := run world arguments (← readMachine directory own)
  (← IO.getStdout).putStr (done.text draws.moment)
  (← IO.getStderr).putStr done.errors
  return UInt32.ofNat done.status

end ClusterLaunch.Main

def main (arguments : List String) : IO UInt32 :=
  ClusterLaunch.Main.runWith arguments
