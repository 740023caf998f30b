import ClusterLaunch.Shell.Builtin.Jobs
import ClusterLaunch.Shell.Search

/-!
How a program is started: which program reads a file, what a process keeps when a
program takes its place, and what the arguments of a shell ask for.
-/

namespace ClusterLaunch.Shell

/-- The program behind a path, with all its arguments: a script is handed to the program that
its first line names, and to the shell if it names none. -/
def Storage.load (s : Storage) (place : Nat) :
    Nat → List Char → List (List Char) → Except Trouble (String × List (List Char))
  | 0, _, _ => .error .looped
  | fuel + 1, path, arguments => do
      let entry ← s.runnable place path
      match entry.node with
      | .program name => return (name, arguments)
      | .file content =>
          match interpreter? content.text with
          | some (program, argument) =>
              s.load place fuel program (program :: argument.toList ++ path :: arguments.drop 1)
          | none => return ("sh", octets "/bin/sh" :: path :: arguments.drop 1)
      | _ => throw .denied

/-- How often scripts may be read by scripts. -/
def scriptLimit : Nat := 5

namespace Process

/-- The process once a program has taken its place: it keeps the variables that are handed on,
its channels and its directory. -/
def replaced (p : Process) : Process where
  id := p.id
  parent := p.parent
  root := p.id
  name := []
  bindings := p.environment.map fun (name, value) =>
    (name, { value := some (.text value), exported := true })
  place := p.place
  directory := p.directory
  channels := p.channels
  mask := p.mask
  traps := p.traps.filter fun (signal, script) => signal != 0 && script.isEmpty

def asPart (p : Process) : Process :=
  let (ignored, others) := p.traps.partition fun (_, script) => script.isEmpty
  { p with traps := ignored, shownTraps := others, skip := .none, leaving := none }

def started (p : Process) (dialect : Dialect) (s : Storage) : Process :=
  let own (name value : String) : List Char × Variable :=
    (octets name, { value := some (.text (octets value)) })
  let given := p.bindings.filter fun (name, _) => isName name
  let usual := if dialect == .plain then
      [own "IFS" " \t\n", own "PATH" "/usr/local/sbin:/usr/local/bin:/usr/sbin:/usr/bin:/sbin:/bin",
       own "PS1" "# ", own "PS2" "> ", own "PS4" "+ ", own "OPTIND" "1"]
    else
      [own "IFS" " \t\n", own "PATH" "/usr/local/sbin:/usr/local/bin:/usr/sbin:/usr/bin:/sbin:/bin",
       own "PS4" "+ ", own "OPTIND" "1", own "BASH_VERSION" "5.2.15(1)-release", own "UID" "0",
       own "EUID" "0", own "HOSTNAME" "localhost", own "OSTYPE" "linux-gnu"]
  let physical := s.pathOf p.place
  let claimed := (p.value? (octets "PWD")).filter fun path =>
    path.head? == some '/' && (match s.find p.place path with
      | .ok id => id == p.place
      | .error _ => false)
  let directory := claimed.getD physical
  let p : Process := { p with bindings := usual, dialect, directory }
  let p := given.foldl (fun (p : Process) (name, v) =>
    if name == octets "IFS" || name == octets "OPTIND" then p else p.setVariable name v) p
  let p := p.setVariable (octets "PPID") { value := some (.text (numeral p.parent)) }
  p.setVariable (octets "PWD") { value := some (.text directory), exported := true }

end Process

/-- Where a shell takes its commands from. -/
inductive Origin
  | text (commands : List Char)
  | file (path : List Char)
  | input

namespace Act

/-- Reads the arguments of a shell: its options, where its commands come from, what it is called
and its parameters. -/
def readInvocation (arguments : List (List Char)) : Act Origin := do
  let own := (arguments.head?).getD (octets "sh")
  modifyProcess fun p => { p with name := own, line := 0 }
  let (rest, given, input) ← iterate
    (fun ((arguments, given, input) : List (List Char) × Bool × Bool) => do
      match arguments with
      | ['-'] :: rest | ['-', '-'] :: rest => return .inr (rest, given, input)
      | ('-' :: '-' :: _) :: rest =>
          if ← isWide then return .inl (rest, given, input)
          else Builtin.setOptions true ['-'] [] >>= fun _ => return .inl (rest, given, input)
      | (sign :: letters) :: rest =>
          if sign == '-' || sign == '+' then
            let isOwn (c : Char) : Bool := c == 'c' || c == 'l' || c == 's'
            let given := given || (sign == '-' && letters.contains 'c')
            let input := input || (sign == '-' && letters.contains 's')
            let (rest, _) ← Builtin.setOptions (sign == '-') (letters.filter fun c => !isOwn c) rest
            return .inl (rest, given, input)
          else return .inr (arguments, given, input)
      | _ => return .inr (arguments, given, input)) (arguments.length + 1)
    (arguments.drop 1, false, false)
  let called (name : List Char) (parameters : List (List Char)) : Act Unit :=
    modifyProcess fun p => { p with name, parameters, line := 1 }
  match given, rest with
  | true, [] => fail (octets "-c requires an argument")
  | true, [text] => called own []; return .text text
  | true, text :: name :: parameters => called name parameters; return .text text
  | false, [] => called own []; return .input
  | false, file :: parameters =>
      if input then
        called own rest
        return .input
      modifyProcess fun p => { p with parameters }
      return .file file

end Act

end ClusterLaunch.Shell
