import ClusterLaunch.Shell.Machine

/-!
Finding the file that is run for the name of a command. A name with a slash is a
path; any other one is looked for in the directories that a variable lists.
-/

namespace ClusterLaunch.Shell

def Storage.runnable (s : Storage) (place : Nat) (path : List Char) : Except Trouble Entry := do
  let id ← s.find place path
  match s.at? id with
  | some entry =>
      if entry.isRegular && entry.isRunnable then return entry else throw .denied
  | none => throw .missing

/-- The path of a name in a directory; no directory at all is the present one. -/
def joined (directory name : List Char) : List Char :=
  if directory.isEmpty then name
  else if directory.getLast? == some '/' then directory ++ name
  else directory ++ '/' :: name

/-- Looks for a program in directories that are separated by colons. A file that cannot be run
is passed over, but gives the reason in the end. -/
def Storage.search (s : Storage) (place : Nat) (directories name : List Char) :
    Except Trouble (List Char) :=
  let paths := (Text.pieces (· == ':') directories).map fun d => joined d name
  let outcome (path : List Char) : Except Trouble (List Char) :=
    (s.runnable place path).map fun _ => path
  match paths.findSome? fun path => (outcome path).toOption with
  | some path => .ok path
  | none =>
      .error ((paths.foldl (fun found path => match outcome path with
        | .error t => if t.isMissing then found else some t
        | .ok _ => found) none).getD .missing)

/-- The first words of a script say which program reads it, and with which argument. -/
def interpreter? (content : List Char) : Option (List Char × Option (List Char)) :=
  match content with
  | '#' :: '!' :: rest =>
      let isBlank (c : Char) : Bool := c == ' ' || c == '\t'
      let line := (rest.take 254).takeWhile (· != '\n')
      let line := (line.dropWhile isBlank).reverse.dropWhile isBlank |>.reverse
      let program := line.takeWhile fun c => !isBlank c
      let argument := (line.drop program.length).dropWhile isBlank
      if program.isEmpty then none
      else some (program, if argument.isEmpty then none else some argument)
  | _ => none

namespace Act

def search (name : List Char) (directories : Option (List Char) := none) :
    Act (Except Trouble (List Char)) := do
  let s ← get
  let p := s.process
  if name.contains '/' then
    return (s.machine.storage.runnable p.place name).map fun _ => name
  return s.machine.storage.search p.place (directories.getD p.searched) name

/-- Looks for a program, and keeps its name in mind. -/
def searchOnce (name : List Char) : Act (Except Trouble (List Char)) := do
  let found ← search name
  match found with
  | .ok _ =>
      if !name.contains '/' && !(← process).known.contains name then
        modifyProcess fun p => { p with known := p.known ++ [name] }
  | .error _ => pure ()
  return found

end Act

end ClusterLaunch.Shell
