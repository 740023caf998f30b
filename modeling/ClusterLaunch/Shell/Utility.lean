import ClusterLaunch.Shell.Channel

/-!
Utilities: programs that are installed on the machine. This module holds what they
share: how they are called, how names are quoted in complaints, and how their
options and their input are read.
-/

namespace ClusterLaunch.Shell

namespace Utility

/-- How a utility is called, and what it can have the machine do. -/
structure Call where
  /-- The name under which it was called. -/
  name : List Char
  arguments : List (List Char)
  /-- Lets another program take its place; gives why that cannot be done. -/
  exec : List (List Char) → Act Trouble
  /-- Runs another program and waits for it. -/
  spawn : List (List Char) → Act (Except Trouble Ending)

/-! Quoting. -/

/-- Octets that the shell would not take as they are. -/
def isSpecial (first : Bool) (c : Char) : Bool :=
  if c == '#' || c == '~' then first
  else (" !\"$&'()*;<=>?[\\^\x60|\t\n:" : String).toList.contains c || c.toNat < 32

def quoted (text : List Char) : List Char :=
  if text.contains '\'' && !(text.any fun c => ['"', '$', '\\', '\x60', '!'].contains c) then
    '"' :: text ++ ['"']
  else
    let go := text.flatMap fun c =>
      if c == '\'' then octets "'\\''"
      else if c == '\n' then octets "'$'\\n''"
      else if c == '\t' then octets "'$'\\t''"
      else [c]
    '\'' :: go ++ ['\'']

def named (text : List Char) : List Char :=
  let needs := text.isEmpty || (text.mapIdx fun i c => isSpecial (i == 0) c).any id
  if needs then quoted text else text

end Utility

open Utility in
abbrev Utility := Call → Act Nat

namespace Utility

open Act

def print (text : List Char) : Act Unit := do
  let _ ← write 1 text

/-- Says what is wrong, under the name of the utility. -/
def warn (call : Call) (message : List Char) : Act Unit :=
  emit 2 (call.name ++ octets ": " ++ message ++ ['\n'])

def fail (call : Call) (message : List Char) (status : Nat := 1) : Act Nat := do
  warn call message
  return status

def hint (call : Call) : List Char :=
  octets "\nTry '" ++ call.name ++ octets " --help' for more information."

/-- Says how the utility is called wrongly. -/
def misused (call : Call) (message : List Char) (status : Nat := 1) : Act Nat :=
  fail call (message ++ hint call) status

/-- Says only where to read how the utility is called. -/
def useless (call : Call) (status : Nat := 1) : Act Nat := do
  emit 2 ((hint call).drop 1 ++ ['\n'])
  return status

def lacking (call : Call) : Act Nat := misused call (octets "missing operand")

def blame (call : Call) (path : List Char) (trouble : Trouble) : Act Unit :=
  warn call (named path ++ octets ": " ++ trouble.text)

/-! Options. -/

/-- The options of a utility: letters, where a colon asks for an argument, and long names with
the letters that they stand for. -/
structure Options where
  letters : String
  long : List (String × Char) := []
  /-- Long options whose argument may be left out. -/
  lenient : List String := []
  /-- Whether options may stand behind operands. -/
  mixed : Bool := true
  /-- The status if they are wrong. -/
  status : Nat := 1

abbrev Given := List (Char × List Char)

namespace Options

/-- Whether an option of a letter takes an argument; none if there is no such option. -/
def takes? (o : Options) (letter : Char) : Option Bool :=
  match o.letters.toList.dropWhile (· != letter) with
  | [] => none
  | _ :: rest => if letter == ':' then none else some (rest.head? == some ':')

/-- Reads options; gives them with the operands, or what is wrong. -/
def read (o : Options) : Nat → Given → List (List Char) → List (List Char) →
    Except (List Char) (Given × List (List Char))
  | 0, given, operands, _ => .ok (given.reverse, operands.reverse)
  | _, given, operands, [] => .ok (given.reverse, operands.reverse)
  | fuel + 1, given, operands, argument :: rest =>
      match argument with
      | ['-', '-'] => .ok (given.reverse, operands.reverse ++ rest)
      | '-' :: '-' :: long =>
          let name := String.ofList (long.takeWhile (· != '='))
          let value? := match long.drop name.length with
            | _ :: value => some value
            | [] => none
          let candidates := match o.long.filter fun (n, _) => n == name with
            | [] => o.long.filter fun ((n, _) : String × Char) => n.startsWith name
            | found => found
          match candidates with
          | [] => .error (octets "unrecognized option '" ++ argument ++ ['\''])
          | (full, letter) :: others =>
              if others.any fun (_, l) => l != letter then
                .error (octets "option '" ++ argument ++ octets "' is ambiguous; possibilities:" ++
                  candidates.flatMap fun (n, _) => octets (" '--" ++ n ++ "'"))
              else
                let takes := (o.takes? letter).getD false && !o.lenient.contains full
                match takes, value?, rest with
                | true, some value, _ => read o fuel ((letter, value) :: given) operands rest
                | true, none, value :: rest =>
                    read o fuel ((letter, value) :: given) operands rest
                | true, none, [] =>
                    .error (octets ("option '--" ++ full ++ "' requires an argument"))
                | false, some value, _ =>
                    if o.lenient.contains full then
                      read o fuel ((letter, value) :: given) operands rest
                    else
                      .error (octets ("option '--" ++ full ++ "' doesn't allow an argument"))
                | false, none, _ => read o fuel ((letter, []) :: given) operands rest
      | '-' :: c :: more =>
          let rec word (given : Given) : List Char → Except (List Char) (Given × Option Char)
            | [] => .ok (given, none)
            | c :: more =>
                match o.takes? c with
                | none => .error (octets "invalid option -- '" ++ [c, '\''])
                | some true =>
                    if more.isEmpty then .ok (given, some c) else .ok ((c, more) :: given, none)
                | some false => word ((c, []) :: given) more
          match word given (c :: more), rest with
          | .error message, _ => .error message
          | .ok (given, none), _ => read o fuel given operands rest
          | .ok (given, some letter), value :: rest =>
              read o fuel ((letter, value) :: given) operands rest
          | .ok (_, some letter), [] =>
              .error (octets "option requires an argument -- '" ++ [letter, '\''])
      | _ =>
          if o.mixed then read o fuel given (argument :: operands) rest
          else .ok (given.reverse, operands.reverse ++ argument :: rest)

end Options

def withOptions (o : Options) (call : Call) (act : Given → List (List Char) → Act Nat) :
    Act Nat := do
  match o.read (call.arguments.length + 1) [] [] call.arguments with
  | .ok (given, operands) => act given operands
  | .error message => misused call message o.status

def has (given : Given) (letter : Char) : Bool := given.any (·.1 == letter)

def last? (given : Given) (letter : Char) : Option (List Char) :=
  given.reverse.lookup letter

/-! Input. -/

/-- How much may be read at all. -/
def inputLimit : Nat := 4000000

def readAll (number : Nat) : Act (Except Trouble (List Char)) :=
  iterate (fun ((parts, size) : List (List Char) × Nat) => do
    if inputLimit < size then throw .endless
    match ← readSome number portion with
    | .error t => return .inr (.error t)
    | .ok [] => return .inr (.ok parts.reverse.flatten)
    | .ok text => return .inl (text :: parts, size + text.length)) manyTimes ([], 0)

def fileChannel : Nat := 1000

def withFile {α : Type} (path : List Char) (act : Nat → Act α) : Act (Except Trouble α) := do
  match ← openPath path .read with
  | .error t => return .error t
  | .ok index =>
      let outer := (← process).channels.lookup fileChannel
      setChannel fileChannel index
      let result ← act fileChannel
      match outer with
      | some index => setChannel fileChannel index
      | none => closeChannel fileChannel
      return .ok result

/-- Carries on with an input: a file, or what comes in if its name is a dash. -/
def withInput {α : Type} (path : List Char) (act : Nat → Act α) : Act (Except Trouble α) := do
  if path == ['-'] then return .ok (← act 0) else withFile path act

def contents (path : List Char) : Act (Except Trouble (List Char)) := do
  match ← withInput path readAll with
  | .ok found => return found
  | .error t => return .error t

/-- Carries on with the text of each input; without names, with what comes in. Inputs that cannot
be read are told about. Gives the status. -/
def eachInput (call : Call) (paths : List (List Char)) (act : List Char → List Char → Act Unit)
    (status : Nat := 1) : Act Nat :=
  (if paths.isEmpty then [['-']] else paths).foldlM (fun result path => do
    match ← contents path with
    | .ok text => act path text; return result
    | .error t => blame call path t; return status) 0

def allInput (call : Call) (paths : List (List Char)) (status : Nat := 1) :
    Act (List Char × Nat) := do
  (if paths.isEmpty then [['-']] else paths).foldlM (fun (text, result) path => do
    match ← contents path with
    | .ok more => return (if text.isEmpty then more else text ++ more, result)
    | .error t => blame call path t; return (text, status)) ([], 0)

/-! Paths. -/

def find (path : List Char) (through : Bool := true) : Act (Except Trouble (Nat × Entry)) := do
  let s ← storage
  let p ← process
  match s.find p.place path through with
  | .error t => return .error t
  | .ok id =>
      match s.at? id with
      | some entry => return .ok (id, entry)
      | none => return .error .missing

def spot (path : List Char) (through : Bool := true) : Act (Except Trouble Spot) := do
  return (← storage).spot through (← process).place path

/-- The last name of a path, without slashes behind it. -/
def baseName (path : List Char) : List Char :=
  let bare := (path.reverse.dropWhile (· == '/')).reverse
  if bare.isEmpty then (if path.isEmpty then [] else ['/']) else lastName bare

/-- A number behind an option. -/
def natural? (text : List Char) : Option Nat := Text.readNumeral? 10 text

end Utility

end ClusterLaunch.Shell
