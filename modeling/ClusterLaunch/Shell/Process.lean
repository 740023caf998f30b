import ClusterLaunch.Shell.Signal
import ClusterLaunch.Shell.Source

/-!
A process: the variables and functions of the shell that runs in it, its parameters,
its directory, and where its channels lead. A program that is not a shell uses few of
these.
-/

namespace ClusterLaunch.Shell

/-- A value of a variable: one text, or a list of texts with their indices. -/
inductive Value
  | text (value : List Char)
  | list (keyed : Bool) (items : List (List Char × List Char))
  deriving DecidableEq, Repr

structure Variable where
  /-- None if the variable has been named but not set. -/
  value : Option Value := none
  exported : Bool := false
  fixed : Bool := false
  /-- Whether its values are numbers, or letters of one case. -/
  whole : Bool := false
  recased : Option Char := none
  deriving DecidableEq, Repr

/-- What commands are passed over for. -/
inductive Skip
  | none
  | leave (levels : Nat)
  | again (levels : Nat)
  | return
  deriving DecidableEq, Repr

structure Function where
  line : Nat
  body : Command

/-- How a process ended. -/
inductive Ending
  | done (status : Nat)
  | killed (signal : Nat)
  deriving DecidableEq, Repr

def Ending.status : Ending → Nat
  | .done status => status
  | .killed signal => 128 + signal

/-- Commands in the background that go by a number. -/
structure Job where
  number : Nat
  members : List Nat
  /-- Whether it has been waited for. -/
  waited : Bool := false
  deriving DecidableEq, Repr

structure Process where
  id : Nat
  parent : Nat := 1
  /-- The process that the shell was started in, which a part of it in a process of its own
  shows as well. -/
  root : Nat
  /-- What the script was called. -/
  name : List Char
  parameters : List (List Char) := []
  bindings : List (List Char × Variable) := []
  /-- What to put back when the functions return that are being run. -/
  saved : List (List (List Char × Option Variable)) := []
  /-- How many levels of these there are. -/
  level : Nat := 0
  /-- Options to put back, each with the level at which this is done. -/
  keptOptions : List (Nat × List String) := []
  functions : List (List Char × Function) := []
  aliases : List (List Char × List Char) := []
  /-- The directory, as an entry and as the path that led to it. -/
  place : Nat := 0
  directory : List Char := ['/']
  channels : List (Nat × Nat)
  status : Nat := 0
  /-- The line of the command, in the script and in the function that is run. -/
  line : Nat := 1
  functionLine : Nat := 0
  /-- The builtin that is run, which complaints name. -/
  command : Option (List Char) := none
  dialect : Dialect := .plain
  options : List String := []
  traps : List (Nat × List Char) := []
  /-- Traps of the parent, which are shown but not run. -/
  shownTraps : List (Nat × List Char) := []
  skip : Skip := .none
  /-- How many loops are being run. -/
  loops : Nat := 0
  /-- How many functions are being run. -/
  calls : Nat := 0
  /-- The last process in the background, and those that have not been waited for. -/
  behind : Option Nat := none
  children : List Nat := []
  /-- Those of which the end has been noticed. -/
  reaped : List Nat := []
  /-- The latest one first. -/
  jobs : List Job := []
  /-- The status of the last command whose output was taken. -/
  captured : Nat := 0
  documents : List (Nat × Word) := []
  nextDocument : Nat := 0
  /-- Which parameter is next when options are read from them, and where in the one before it
  the next letter is. -/
  optionIndex : Nat := 1
  optionPlace : Option Nat := none
  /-- The status to leave with if none is given, while a trap is run. -/
  leaving : Option Nat := none
  /-- Permissions that new files do not get. -/
  mask : Nat := 0o022
  /-- The programs that were looked for by name, in the order of their first use. -/
  known : List (List Char) := []
  /-- The statuses of the last pipeline. -/
  statuses : List Nat := []
  /-- The names of the functions that are run, and the scripts that are read. -/
  history : List (List Char) := []

namespace Process

def has (p : Process) (option : String) : Bool :=
  p.options.contains option

def setOption (p : Process) (option : String) (on : Bool) : Process :=
  let others := p.options.filter (· != option)
  { p with options := if on then option :: others else others }

def bound? (p : Process) (name : List Char) : Option Variable :=
  p.bindings.lookup name

/-- The first value of a variable, or its only one. -/
def Value.first? : Value → Option (List Char)
  | .text value => some value
  | .list _ items => (items.lookup ['0'])

def value? (p : Process) (name : List Char) : Option (List Char) :=
  ((p.bound? name).bind Variable.value).bind Value.first?

/-- Changes the variable of a name; a new one comes after the others. -/
def setVariable (p : Process) (name : List Char) (v : Variable) : Process :=
  if (p.bound? name).isSome then
    { p with bindings := p.bindings.map fun (n, old) => if n == name then (n, v) else (n, old) }
  else { p with bindings := p.bindings ++ [(name, v)] }

def separators (p : Process) : List Char :=
  (p.value? (octets "IFS")).getD [' ', '\t', '\n']

/-- Variables of the shell are kept in so many rows, a row for each remainder of the sum of a
name's octets; that makes the order in which they are handed on. -/
def rows : Nat := 39

/-- Programs that are known are kept in rows in the same way. -/
def commandRows : Nat := 31

def row (count : Nat) (name : List Char) : Nat :=
  let first := ((name.head?).map Char.toNat).getD 0
  (first * 16 + name.foldl (fun total c => total + c.toNat) 0) % count

def environment (p : Process) : List (List Char × List Char) :=
  let found := p.bindings.filterMap fun (name, v) =>
    if v.exported then (v.value.bind Value.first?).map fun value => (name, value) else none
  if p.dialect == .plain then
    found.mergeSort fun a b => Nat.ble (row rows a.1) (row rows b.1)
  else found

/-- The number that another job takes, and the jobs beside it: one that has ended and has been
waited for gives up its number. -/
def nextJob (p : Process) : Nat × List Job :=
  let rec go : Nat → Nat → Nat × List Job
    | 0, n => (n, p.jobs)
    | fuel + 1, n =>
        match p.jobs.find? fun j => j.number == n with
        | none => (n, p.jobs)
        | some j =>
            if j.waited && j.members.all p.reaped.contains then
              (n, p.jobs.filter fun other => other.number != n)
            else go fuel (n + 1)
  go (p.jobs.length + 1) 1

/-- The directories that are searched for programs. A shell that has no list of them searches
none, and any other process the usual ones. -/
def searched (p : Process) : List Char :=
  (p.value? (octets "PATH")).getD
    (if p.name.isEmpty then octets "/usr/local/sbin:/usr/local/bin:/usr/sbin:/usr/bin:/sbin:/bin"
     else [])

end Process

end ClusterLaunch.Shell
