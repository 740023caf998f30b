import ClusterLaunch.Text.Pieces

/-!
The arguments of the command line. They are read from left to right, and the first
one that cannot stand where it does ends the reading, as does one that asks for
help or for the version. A flag is given at most once in each part of the line:
before the name of the task and after it.
-/

namespace ClusterLaunch.CommandLine

inductive Flag
  | verbose
  | json
  | help
  | version
  | request
  | repositories
  | repositoryUrl
  | ssh
  deriving DecidableEq, Repr

namespace Flag

def name : Flag → String
  | .verbose => "verbose"
  | .json => "json"
  | .help => "help"
  | .version => "version"
  | .request => "request"
  | .repositories => "repositories"
  | .repositoryUrl => "repository-url"
  | .ssh => "ssh"

/-- The letter that stands for a flag behind a single dash. -/
def letter? : Flag → Option Char
  | .verbose => some 'v'
  | .help => some 'h'
  | .version => some 'V'
  | .request => some 'r'
  | .json | .repositories | .repositoryUrl | .ssh => none

def takesValue : Flag → Bool
  | .request | .repositories | .repositoryUrl | .ssh => true
  | .verbose | .json | .help | .version => false

/-- Whether the value of a flag is a path, which is never empty. -/
def isPath : Flag → Bool
  | .request | .repositories => true
  | _ => false

end Flag

/-- What may stand in a part of the command line. -/
structure Form where
  flags : List Flag
  /-- How many operands there may be. -/
  operands : Nat := 0
  /-- The operands that end this part. -/
  endings : List String := []

namespace Form

def named? (form : Form) (name : String) : Option Flag :=
  form.flags.find? fun flag => flag.name == name

def lettered? (form : Form) (letter : Char) : Option Flag :=
  form.flags.find? fun flag => flag.letter? == some letter

end Form

/-- Why the arguments do not say what to do. -/
inductive Stop
  | misuse
  | help
  | version
  deriving DecidableEq, Repr

/-- What a part of the command line holds. -/
structure Found where
  flags : List (Flag × String) := []
  operands : List String := []
  deriving DecidableEq, Repr

namespace Found

def has (found : Found) (flag : Flag) : Bool :=
  (found.flags.lookup flag).isSome

def value? (found : Found) (flag : Flag) : Option String :=
  found.flags.lookup flag

def addFlag (found : Found) (flag : Flag) (value : String) : Except Stop Found :=
  match flag with
  | .help => .error .help
  | .version => .error .version
  | _ =>
      if found.has flag || (flag.isPath && value.isEmpty) then .error .misuse
      else .ok { found with flags := found.flags ++ [(flag, value)] }

def addOperand (found : Found) (form : Form) (operand : String) : Except Stop Found :=
  if found.operands.length < form.operands then
    .ok { found with operands := found.operands ++ [operand] }
  else .error .misuse

/-- Adds a run of letters behind a single dash; gives the flag whose value is still
to come. -/
def addLetters (form : Form) : Found → List Char → Except Stop (Found × Option Flag)
  | found, [] => .ok (found, none)
  | found, letter :: rest =>
      match form.lettered? letter with
      | none => .error .misuse
      | some flag =>
          if flag.takesValue then
            match rest with
            | [] => .ok (found, some flag)
            | '=' :: value => (found.addFlag flag (String.ofList value)).map (·, none)
            | value => (found.addFlag flag (String.ofList value)).map (·, none)
          else
            match found.addFlag flag "" with
            | .error stop => .error stop
            | .ok found => addLetters form found rest

end Found

/-- The shapes of an argument. -/
inductive Shape
  /-- Two dashes: all that follows are operands. -/
  | separator
  | name (name : String) (value : Option String)
  | letters (letters : List Char)
  | operand
  deriving DecidableEq, Repr

/-- The shape of an argument. A dash by itself is an operand. -/
def Shape.of (argument : String) : Shape :=
  match argument.toList with
  | ['-', '-'] => .separator
  | '-' :: '-' :: text =>
      let name := Text.before (· == '=') text
      match text.drop name.length with
      | [] => .name (String.ofList name) none
      | _ :: value => .name (String.ofList name) (some (String.ofList value))
  | '-' :: c :: rest => .letters (c :: rest)
  | _ => .operand

def readOperands (form : Form) : Found → List String → Except Stop Found
  | found, [] => .ok found
  | found, operand :: rest =>
      match found.addOperand form operand with
      | .error stop => .error stop
      | .ok found => readOperands form found rest

/-- Reads a part of the command line, in which the value of a flag may still be to
come; gives what is left behind an operand that ends the part. The value of a flag
does not look like a flag unless it is attached to it. -/
def read (form : Form) : Option Flag → Found → List String → Except Stop (Found × List String)
  | some _, _, [] => .error .misuse
  | none, found, [] => .ok (found, [])
  | some flag, found, argument :: rest =>
      match Shape.of argument with
      | .operand =>
          match found.addFlag flag argument with
          | .error stop => .error stop
          | .ok found => read form none found rest
      | _ => .error .misuse
  | none, found, argument :: rest =>
      match Shape.of argument with
      | .separator =>
          if form.endings.isEmpty then (readOperands form found rest).map (·, [])
          else .error .misuse
      | .operand =>
          if form.endings.isEmpty then
            match found.addOperand form argument with
            | .error stop => .error stop
            | .ok found => read form none found rest
          else if form.endings.contains argument then
            .ok ({ found with operands := [argument] }, rest)
          else .error .misuse
      | .letters letters =>
          match found.addLetters form letters with
          | .error stop => .error stop
          | .ok (found, pending) => read form pending found rest
      | .name name value =>
          match form.named? name with
          | none => .error .misuse
          | some flag =>
              match flag.takesValue, value with
              | true, none => read form (some flag) found rest
              | false, some _ => .error .misuse
              | _, value =>
                  match found.addFlag flag (value.getD "") with
                  | .error stop => .error stop
                  | .ok found => read form none found rest

/-! The tasks and what belongs to each of them. -/

inductive Task
  /-- Says which image a cluster would pull. -/
  | resolve (image : String) (address : Option String)
  /-- Shows the command of a request without sending it. -/
  | compose (request : String) (declarations : Option String)
  /-- Launches a request, on another machine if a destination is given. -/
  | dispatch (request : String) (declarations destination : Option String)
  deriving DecidableEq, Repr

def Task.paths : Task → List String
  | .resolve _ _ => []
  | .compose request declarations => request :: declarations.toList
  | .dispatch request declarations _ => request :: declarations.toList

/-- How a task is to be carried out. -/
structure Invocation where
  verbose : Bool
  json : Bool
  task : Task
  deriving DecidableEq, Repr

/-- The flags that may stand in every part. -/
def everywhere : List Flag := [.verbose, .json, .help]

def taskNames : List String := ["resolve-image", "compose", "dispatch", "help"]

/-- What may stand before the name of the task. -/
def outerForm : Form := { flags := .version :: everywhere, endings := taskNames }

/-- What may stand after the name of the task. -/
def innerForm : String → Form
  | "resolve-image" => { flags := .repositoryUrl :: everywhere, operands := 1 }
  | "compose" => { flags := .request :: .repositories :: everywhere }
  | _ => { flags := .request :: .repositories :: .ssh :: everywhere }

/-- The task of a name, if all that it needs was found. A destination may also be
set for all dispatches. -/
def Task.ofFound? (destination : Option String) (name : String) (found : Found) : Option Task :=
  match name with
  | "resolve-image" =>
      found.operands.head?.map fun image => .resolve image (found.value? .repositoryUrl)
  | "compose" =>
      (found.value? .request).map fun request => .compose request (found.value? .repositories)
  | _ =>
      (found.value? .request).map fun request =>
        .dispatch request (found.value? .repositories) ((found.value? .ssh).or destination)

/-- Asking for help, about one of the tasks or in general. -/
def helpStop : List String → Stop
  | [] => .help
  | [name] => if taskNames.contains name then .help else .misuse
  | _ => .misuse

def Invocation.ofArguments (destination : Option String) (arguments : List String) :
    Except Stop Invocation :=
  match read outerForm none {} arguments with
  | .error stop => .error stop
  | .ok (outer, rest) =>
      match outer.operands with
      | "help" :: _ => .error (helpStop rest)
      | name :: _ =>
          match read (innerForm name) none {} rest with
          | .error stop => .error stop
          | .ok (inner, _) =>
              match Task.ofFound? destination name inner with
              | none => .error .misuse
              | some task =>
                  .ok ⟨outer.has .verbose || inner.has .verbose, outer.has .json || inner.has .json,
                    task⟩
      | [] => .error .misuse

end ClusterLaunch.CommandLine
