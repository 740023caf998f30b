import ClusterLaunch.Shell.Utility.Programs
import ClusterLaunch.Shell.Utility.Rows.Reader
import ClusterLaunch.Shell.Utility.Rows.Value
import Std.Data.HashMap

/-!
Carrying out scripts about rows of fields. What is printed is held back until it
fills a block, something else is run, or the script ends; what a command is to read
is handed to it when it is closed.
-/

namespace ClusterLaunch.Shell

namespace Rows

open Act Utility
open Text (Regex Place)

/-- What a parameter of a running function stands for. -/
structure Local where
  name : List Char
  value : Value
  /-- The array that it is, if it is used as one. -/
  array : List Char

/-- How deeds end early. -/
inductive Flow
  | next
  | leave
  | again
  | back (value : Value)
  | exit
  /-- The script ends, and nothing that is meant for its end is done. -/
  | halt

/-- An output that is open: the channel to a file, or what a command is to read, the latest part
first. -/
structure Output where
  name : List Char
  direction : Direction
  channel : Nat
  parts : List (List Char) := []

/-- An input that rows are read from besides the main one, with what is left of it. -/
structure Side where
  name : List Char
  isCommand : Bool
  rest : List Char

/-- The main input that is open. What is left of it stands there once it had to be read as a
whole. -/
structure Source where
  channel : Nat
  rest : List Char := []

/-- What a value is kept by. -/
structure Key where
  text : List Char
  deriving DecidableEq

instance : Hashable Key where
  hash k := hash (String.ofList k.text)

abbrev Items := Std.HashMap Key Value

structure Session where
  values : Items := {}
  arrays : Std.HashMap Key Items := {}
  frames : List (List Local) := []
  row : List Char := []
  fields : Array Value := #[]
  source : Option Source := none
  /-- The argument that comes next, and whether any has been an input. -/
  argument : Nat := 1
  begun : Bool := false
  outputs : List Output := []
  sides : List Side := []
  /-- A number that has not been used for a channel or an array yet. -/
  unused : Nat := 1001
  /-- What is to be printed, the latest part first, and its size. -/
  pending : List (List Char) := []
  size : Nat := 0
  /-- The rules whose ranges have begun. -/
  ranges : List Nat := []
  status : Nat := 0
  seed : Nat := 0

namespace Session

def value (s : Session) (name : List Char) : Value := (s.values[Key.mk name]?).getD .nothing

def setValue (s : Session) (name : List Char) (v : Value) : Session :=
  { s with values := s.values.insert ⟨name⟩ v }

def items (s : Session) (array : List Char) : Items := (s.arrays[Key.mk array]?).getD {}

def setItems (s : Session) (array : List Char) (items : Items) : Session :=
  { s with arrays := s.arrays.insert ⟨array⟩ items }

def setItem (s : Session) (array key : List Char) (v : Value) : Session :=
  let items := s.items array
  -- the array is taken out, so that it need not be copied
  let s := { s with arrays := s.arrays.erase ⟨array⟩ }
  s.setItems array (items.insert ⟨key⟩ v)

end Session

structure Setup where
  script : Script
  call : Call

abbrev Doing := ReaderT Setup (ExceptT Flow (StateT Session Act))

def leaveBy {α : Type} (flow : Flow) : Doing α := throwThe Flow flow

/-- Goes on as long as the deed says so. -/
def repeated (deed : Doing Bool) : Doing Unit := do
  let setup ← read
  let start ← get
  let step (s : Session) : Act (Session ⊕ (Except Flow Unit × Session)) := do
    tick
    match ← ((deed.run setup).run).run s with
    | (.ok true, s) => return .inl s
    | (.ok false, s) => return .inr (.ok (), s)
    | (.error flow, s) => return .inr (.error flow, s)
  let (ended, s) ← (iterate step manyTimes start : Act _)
  set s
  match ended with
  | .ok () => return
  | .error flow => leaveBy flow

/-- Does the body of a loop once; whether the loop goes on. -/
def round (body : Doing Unit) : Doing Bool :=
  tryCatchThe Flow (do body; return true) fun flow =>
    match flow with
    | .leave => return false
    | .again => return true
    | _ => leaveBy flow

/-- Ends what would go too deep. -/
def exhausted {α : Type} : Doing α := throwThe Exit .endless

def giveUp {α : Type} (message : List Char) : Doing α := do
  warn (← read).call message
  modify fun s => { s with status := 2 }
  leaveBy .halt

/-! Variables. -/

def local? (name : List Char) : Doing (Option Local) := do
  return ((← get).frames.head?).bind fun frame => frame.find? fun l => l.name == name

def global (name : String) : Doing Value :=
  return (← get).value (octets name)

def textOf (v : Value) : Doing (List Char) := do
  match v with
  | .number x =>
      match whole? x with
      | some n => return signed n
      | none => return v.shown ((← global "CONVFMT").shown [])
  | _ => return v.shown []

def globalText (name : String) : Doing (List Char) := do textOf (← global name)

def setGlobal (name : String) (v : Value) : Doing Unit :=
  modify fun s => s.setValue (octets name) v

def setRow (row : List Char) : Doing Unit := do
  let separator := Separator.ofText (← globalText "FS")
  let separator := if (← globalText "RS").isEmpty then separator.orLine else separator
  let fields := ((separator.fields row).map Value.input).toArray
  modify fun s => { s with row, fields }

/-- Puts the row together again from its fields. -/
def setFields (fields : Array Value) : Doing Unit := do
  let texts ← fields.toList.mapM textOf
  let row := (← globalText "OFS").intercalate texts
  modify fun s => { s with row, fields }

def resized (fields : Array Value) (count : Nat) : Array Value :=
  fields.take count ++ Array.replicate (count - fields.size) (.input [])

/-- How many fields a row may have. -/
def fieldLimit : Nat := 100000

/-- Where a value is kept. -/
inductive Spot
  | named (name : List Char)
  | field (index : Nat)
  | item (array key : List Char)

def load (spot : Spot) : Doing Value := do
  match spot with
  | .named name =>
      match ← local? name with
      | some l => return l.value
      | none =>
          let s ← get
          if name == ['N', 'F'] then return .ofNat s.fields.size
          return s.value name
  | .field 0 => return .input (← get).row
  | .field index => return ((← get).fields[index - 1]?).getD .nothing
  | .item array key =>
      -- asking for an item makes it
      match ((← get).items array)[Key.mk key]? with
      | some v => return v
      | none =>
          modify fun s => s.setItem array key .nothing
          return .nothing

def store (spot : Spot) (v : Value) : Doing Unit := do
  match spot with
  | .named name =>
      match ← local? name with
      | some _ =>
          modify fun s =>
            match s.frames with
            | frame :: frames =>
                let frame := frame.map fun l => if l.name == name then { l with value := v } else l
                { s with frames := frame :: frames }
            | [] => s
      | none =>
          if name == ['N', 'F'] then
            setFields (resized (← get).fields (min fieldLimit (truncated v.amount).toNat))
          else modify fun s => s.setValue name v
  | .field 0 => setRow (← textOf v)
  | .field index =>
      if fieldLimit < index then giveUp (octets "field index " ++ numeral index ++
        octets " exceeds the limit")
      let fields := (← get).fields
      let fields := if fields.size < index then resized fields index else fields
      setFields (fields.set! (index - 1) v)
  | .item array key => modify fun s => s.setItem array key v

def arrayOf (name : List Char) : Doing (List Char) := do
  return ((← local? name).map Local.array).getD name

def given (text : List Char) : Value := .input (unescaped (text.length + 1) text)

/-! Output. -/

/-- Prints what was held back. -/
def flush : Doing Unit := do
  let parts := (← get).pending
  if !parts.isEmpty then
    modify fun s => { s with pending := [], size := 0 }
    Utility.print parts.reverse.flatten

/-- How much is held back. -/
def blockSize : Nat := 4096

def out (text : List Char) : Doing Unit := do
  modify fun s => { s with pending := text :: s.pending, size := s.size + text.length }
  if blockSize < (← get).size then flush

/-- Runs a command, which may be given something to read and whose output may be kept; gives its
status and that output. -/
def runCommand (command : List Char) (input : Option (List Char)) (keeps : Bool) :
    Doing (Nat × List Char) := do
  let call := (← read).call
  let outer := (← (process : Act Process)).channels
  match input with
  | none => pure ()
  | some text =>
      let (m, stream) := (← (machine : Act Machine)).openStream text
      modifyMachine fun _ => m
      setChannel 0 (← openGoal { goal := .stream stream })
  let (m, kept) := (← (machine : Act Machine)).openStream [] (some inputLimit)
  if keeps then
    modifyMachine fun _ => m
    setChannel 1 (← openGoal { goal := .stream kept, reads := false, writes := true })
  let run : Act (Except Trouble Ending) :=
    try call.spawn [octets "/bin/sh", octets "-c", command]
    catch
      | .full index =>
          if keeps && index == kept then return .ok (.killed Signal.pipe) else throw (.full index)
      | e => throw e
  let ended ← (run : Act _)
  modifyProcess fun p => { p with channels := outer }
  let text := (← (machine : Act Machine)).streamText kept
  let status := match ended with
    | .ok (.done status) => status
    | .ok (.killed signal) => 256 + signal
    | .error _ => 127
  return (status, if keeps then text else [])

/-- Closes an output; gives the status of the command that read it. -/
def closeOutput (o : Output) : Doing Nat := do
  modify fun s => { s with outputs := s.outputs.filter fun p => p.name != o.name }
  if o.direction == .command then
    let (status, _) ← runCommand o.name (some o.parts.reverse.flatten) false
    return status
  else
    closeChannel o.channel
    return 0

def openOutput (name : List Char) (direction : Direction) : Doing Output := do
  let channel := (← get).unused
  modify fun s => { s with unused := channel + 1 }
  let lead : Shell.Direction := if direction == .append then .append else .write
  if direction == .command then flush
  else match ← openPath name lead with
    | .ok index => setChannel channel index
    | .error t =>
        giveUp (octets "cannot open \"" ++ name ++ octets "\" for output (" ++ t.text ++ [')'])
  let o : Output := { name, direction, channel }
  modify fun s => { s with outputs := o :: s.outputs }
  return o

/-- Prints a text to where a name leads. -/
def outTo (target : Option (Direction × List Char)) (text : List Char) : Doing Unit := do
  match target with
  | none => out text
  | some (direction, name) =>
      let isFile := direction != .command
      if isFile && (name == ['-'] || name == octets "/dev/stdout") then out text
      else if isFile && name == octets "/dev/stderr" then emit 2 text
      else
        let o ← match (← get).outputs.find? fun o => o.name == name with
          | some o => pure o
          | none => openOutput name direction
        if o.direction == .command then
          let o := { o with parts := text :: o.parts }
          modify fun s =>
            { s with outputs := o :: s.outputs.filter fun p => p.name != name }
        else emit o.channel text

/-- Closes all outputs, the latest first, and prints what was held back. -/
def finish : Doing Unit := do
  (← get).outputs.forM fun o => do
    let _ ← closeOutput o
  flush

/-! Input. -/

/-- An assignment that stands where a file could stand. -/
def operand? (text : List Char) : Option (List Char × Value) :=
  match Utility.assignment? text with
  | some (name, value) => if isName name then some (name, given value) else none
  | none => none

/-- The name of the next input; without any it is what comes in. -/
def nextName : Nat → Doing (Option (List Char))
  | 0 => return none
  | fuel + 1 => do
      let s ← get
      let count := (truncated ((← global "ARGC").amount)).toNat
      if Nat.ble count s.argument then
        set { s with begun := true }
        return if s.begun then none else some ['-']
      set { s with argument := s.argument + 1 }
      let argument := (s.items (octets "ARGV"))[Key.mk (numeral s.argument)]?
      let name ← textOf (argument.getD .nothing)
      if name.isEmpty then nextName fuel
      else match operand? name with
        | some (name, value) =>
            store (.named name) value
            nextName fuel
        | none =>
            modify fun s => { s with begun := true }
            return some name

/-- Takes a row of a source; none at its end. -/
def takeRow (source : Source) : Doing (Option (List Char × Source)) := do
  let separator ← globalText "RS"
  let failed {α : Type} (t : Trouble) : Doing α :=
    giveUp (octets "read error (" ++ t.text ++ [')'])
  if separator == ['\n'] && source.rest.isEmpty then
    match ← readLine source.channel with
    | .ok [] => return none
    | .ok line =>
        return some (if line.getLast? == some '\n' then line.dropLast else line, source)
    | .error t => failed t
  else
    match ← readAll source.channel with
    | .ok more =>
        let text := if more.isEmpty then source.rest else source.rest ++ more
        return (rowAt? separator text).map fun (row, rest) => (row, { source with rest })
    | .error t => failed t

def countRow (name : String) : Doing Unit := do
  setGlobal name (.number ((← global name).amount + 1))

def nextRow : Nat → Doing (Option (List Char))
  | 0 => return none
  | fuel + 1 => do
      match (← get).source with
      | some source =>
          match ← takeRow source with
          | some (row, source) =>
              modify fun s => { s with source := some source }
              countRow "NR"
              countRow "FNR"
              return some row
          | none =>
              if source.channel != 0 then closeChannel source.channel
              modify fun s => { s with source := none }
              nextRow fuel
      | none =>
          match ← nextName (fuel + 1) with
          | none => return none
          | some name =>
              setGlobal "FNR" (.number 0)
              let channel ← if name == ['-'] then pure 0
                else match ← openPath name .read with
                  | .ok index =>
                      setChannel fileChannel index
                      setGlobal "FILENAME" (.text name)
                      pure fileChannel
                  | .error t =>
                      giveUp (octets "cannot open " ++ name ++ octets " (" ++ t.text ++ [')'])
              modify fun s => { s with source := some { channel } }
              nextRow fuel

def anyRow : Doing (Option (List Char)) := do
  nextRow (2 * (truncated ((← global "ARGC").amount)).toNat + 8)

/-- The next row of a side input; none if it cannot be read. -/
def sideRow (name : List Char) (isCommand : Bool) : Doing (Option (Option (List Char))) := do
  let sides := (← get).sides
  let found? ← match sides.find? fun s => s.name == name && s.isCommand == isCommand with
    | some side => pure (some side.rest)
    | none =>
        if isCommand then
          flush
          let (_, text) ← runCommand name none true
          pure (some text)
        else match ← contents name with
          | .ok text => pure (some text)
          | .error _ => pure none
  match found? with
  | none => return none
  | some text =>
      let next := rowAt? (← globalText "RS") text
      let rest := (next.map Prod.snd).getD []
      let others := sides.filter fun s => !(s.name == name && s.isCommand == isCommand)
      modify fun s => { s with sides := ⟨name, isCommand, rest⟩ :: others }
      return some (next.map Prod.fst)

/-! Terms. -/

def fits (r : Regex) (text : List Char) : Bool := (r.find? { rest := text }).isSome

/-- Whether a value comes before another one, is the same, or comes after it. -/
def order (a b : Value) : Doing Ordering := do
  match a.asNumber?, b.asNumber? with
  | some x, some y => return if x < y then .lt else if x == y then .eq else .gt
  | _, _ =>
      let s ← textOf a
      let t ← textOf b
      return if precedes s t then .lt else if s == t then .eq else .gt

def combined (operator : Operator) (a b : Value) : Doing Value := do
  let compared (holds : Ordering → Bool) : Doing Value := return .ofBool (holds (← order a b))
  let x := a.amount
  let y := b.amount
  match operator with
  | .add => return .number (x + y)
  | .subtract => return .number (x - y)
  | .multiply => return .number (x * y)
  | .divide => return .number (x / y)
  | .remainder =>
      match whole? x, whole? y with
      | some n, some d =>
          if d == 0 then return .number (0.0 / 0.0) else return .number (Float.ofInt (n.tmod d))
      | _, _ =>
          let q := x / y
          return .number (x - y * (if q < 0 then q.ceil else q.floor))
  | .power => return .number (x.pow y)
  | .join => return .text ((← textOf a) ++ (← textOf b))
  | .less => compared (· == .lt)
  | .atMost => compared (· != .gt)
  | .equal => compared (· == .eq)
  | .unequal => compared (· != .eq)
  | .more => compared (· == .gt)
  | .atLeast => compared (· != .lt)

/-- The part of a text from a place on, of a length; halves go up. -/
def part (text : List Char) (first : Float) (length : Option Float) : List Char :=
  let start := truncated first.round
  let low := max start 1
  match length with
  | none => text.drop (low - 1).toNat
  | some length =>
      let stop := truncated (first + length).round
      (text.drop (low - 1).toNat).take (stop - low).toNat

def filled (format : List Char) (values : List Value) (name : String) : Doing (List Char) := do
  let conversion := (← global "CONVFMT").shown []
  match formatted (Value.shown conversion) (format.length + 1) format values with
  | .ok text => return text
  | .error problem =>
      let what := match problem with
        | .lacking => octets "not enough arguments passed to " ++ octets name ++ octets "(\"" ++
            format ++ octets "\")"
        | .unknown place => octets "bad conversion '" ++ place ++ octets "' in " ++ octets name ++
            octets "(\"" ++ format ++ octets "\")"
      let rest := octets "\n\tFILENAME=\"" ++ (← globalText "FILENAME") ++ octets "\" FNR=" ++
        (← globalText "FNR") ++ octets " NR=" ++ (← globalText "NR")
      giveUp (octets "run time error: " ++ what ++ rest)

def splitInto (array : List Char) (parts : List (List Char)) : Doing Value := do
  let items := parts.mapIdx fun i t => (Key.mk (numeral (i + 1)), Value.input t)
  modify fun s => s.setItems array (.ofList items)
  return .ofNat parts.length

/-- The next number by chance, less than one. -/
def chance : Doing Value := do
  let seed := ((← get).seed * 6364136223846793005 + 1442695040888963407) % UInt64.size
  modify fun s => { s with seed }
  return .number ((seed / 2048).toFloat / 9007199254740992.0)

def simple? (name : String) (values : List Value) : Doing (Option Value) := do
  let x := (values.headD .nothing).amount
  let text ← textOf (values.headD .nothing)
  let number (y : Float) : Doing (Option Value) := return some (.number y)
  match name, values with
  | "substr", [_, m] => return some (.text (part text m.amount none))
  | "substr", [_, m, n] => return some (.text (part text m.amount (some n.amount)))
  | "index", [_, v] =>
      let sought ← textOf v
      if sought.isEmpty then number 0
      else match (Regex.literal sought).find? { rest := text } with
        | some (a, _) => number (a.index + 1).toFloat
        | none => number 0
  | "sprintf", _ :: values => return some (.text (← filled text values "sprintf"))
  | "sin", _ => number x.sin
  | "cos", _ => number x.cos
  | "atan2", [_, y] => number (Float.atan2 x y.amount)
  | "exp", _ => number x.exp
  | "log", _ => number x.log
  | "sqrt", _ => number x.sqrt
  | "int", _ => number (if x < 0 then x.ceil else x.floor)
  | "rand", _ => return some (← chance)
  | "srand", _ =>
      let before := (← get).seed
      modify fun s => { s with seed := (truncated x).toNat }
      return some (.ofNat before)
  | "tolower", _ => return some (.text (text.map Char.toLower))
  | "toupper", _ => return some (.text (text.map Char.toUpper))
  | "system", _ =>
      flush
      let (status, _) ← runCommand text none false
      return some (.ofNat status)
  | "close", _ =>
      let s ← get
      match s.outputs.find? fun o => o.name == text with
      | some o => return some (.ofNat (← closeOutput o))
      | none =>
          let isOpen := s.sides.any fun side => side.name == text
          set { s with sides := s.sides.filter fun side => side.name != text }
          number (if isOpen then 0 else -1)
  | "fflush", _ =>
      flush
      number 0
  | _, _ => return none

mutual

def evaluate : Nat → Term → Doing Value
  | 0, _ => exhausted
  | fuel + 1, t => do
      match t with
      | .number x => return .number x
      | .text t => return .text t
      | .fit r => return .ofBool (fits r (← get).row)
      | .name name => load (.named name)
      | .field _ | .item _ _ => load (← spotOf fuel t)
      | .assign target operator value =>
          let spot ← spotOf fuel target
          let v ← evaluate fuel value
          let v ← match operator with
            | none => pure v
            | some operator => combined operator (← load spot) v
          store spot v
          return v
      | .choice condition yes no =>
          if (← evaluate fuel condition).holds then evaluate fuel yes else evaluate fuel no
      | .both a b =>
          if (← evaluate fuel a).holds then return .ofBool (← evaluate fuel b).holds
          else return .ofBool false
      | .either a b =>
          if (← evaluate fuel a).holds then return .ofBool true
          else return .ofBool (← evaluate fuel b).holds
      | .not a => return .ofBool !(← evaluate fuel a).holds
      | .isIn keys array =>
          let key ← keyOf fuel keys
          let items := (← get).items (← arrayOf array)
          return .ofBool (items.contains ⟨key⟩)
      | .fits a pattern negated =>
          let text ← textOf (← evaluate fuel a)
          let r ← patternOf fuel pattern
          return .ofBool (fits r text != negated)
      | .binary operator a b =>
          let v ← evaluate fuel a
          combined operator v (← evaluate fuel b)
      | .negative a => return .number (-(← evaluate fuel a).amount)
      | .positive a => return .number (← evaluate fuel a).amount
      | .step target amount before =>
          let spot ← spotOf fuel target
          let x := (← load spot).amount
          store spot (.number (x + amount))
          return .number (if before then x else x + amount)
      | .call name arguments => callFunction fuel name arguments
      | .builtin name arguments => callBuiltin fuel name arguments
      | .take target file command => takeInto fuel target file command
termination_by structural fuel => fuel

def spotOf : Nat → Term → Doing Spot
  | 0, _ => exhausted
  | fuel + 1, t => do
      match t with
      | .field index =>
          let n := truncated (← evaluate fuel index).amount
          if n < 0 then giveUp (octets "negative field index $" ++ signed n)
          return .field n.toNat
      | .item array keys => return .item (← arrayOf array) (← keyOf fuel keys)
      | .name name => return .named name
      | _ => return .named []
termination_by structural fuel => fuel

def keyOf : Nat → List Term → Doing (List Char)
  | 0, _ => exhausted
  | fuel + 1, keys => do
      let texts ← (← values fuel keys).mapM textOf
      match texts with
      | [one] => return one
      | _ => return (← globalText "SUBSEP").intercalate texts
termination_by structural fuel => fuel

def values : Nat → List Term → Doing (List Value)
  | 0, _ => exhausted
  | fuel + 1, terms => do
      match terms with
      | [] => return []
      | t :: rest =>
          let v ← evaluate fuel t
          return v :: (← values fuel rest)
termination_by structural fuel => fuel

def patternOf : Nat → Term → Doing Regex
  | 0, _ => exhausted
  | fuel + 1, t => do
      match t with
      | .fit r => return r
      | _ => return regexOf (← textOf (← evaluate fuel t))
termination_by structural fuel => fuel

/-- Reads a row of some input; stands for one, for zero at the end, for less if it cannot be
read. -/
def takeInto : Nat → Option Term → Option Term → Option Term → Doing Value
  | 0, _, _, _ => exhausted
  | fuel + 1, target, file, command => do
      let found : Option (Option (List Char)) ← match file, command with
        | some t, _ => sideRow (← textOf (← evaluate fuel t)) false
        | none, some t =>
            let found ← sideRow (← textOf (← evaluate fuel t)) true
            if (found.bind id).isSome then countRow "NR"
            pure found
        | none, none => some <$> anyRow
      match found with
      | none => return .number (-1)
      | some none => return .number 0
      | some (some row) =>
          match target with
          | none => setRow row
          | some t => store (← spotOf fuel t) (.input row)
          return .number 1
termination_by structural fuel => fuel

def callFunction : Nat → List Char → List Term → Doing Value
  | 0, _, _ => exhausted
  | fuel + 1, name, arguments => do
      match (← read).script.functions.lookup name with
      | none => giveUp (octets "line 1: function " ++ name ++ octets " never defined")
      | some f =>
          let frame ← locals fuel f.parameters arguments
          modify fun s => { s with frames := frame :: s.frames }
          let result ← tryCatchThe Flow
            (do perform fuel f.body; return Except.ok Value.nothing)
            fun flow =>
              match flow with
              | .back v => return .ok v
              | _ => return .error flow
          modify fun s => { s with frames := s.frames.drop 1 }
          match result with
          | .ok v => return v
          | .error flow => leaveBy flow
termination_by structural fuel => fuel

/-- What the parameters of a function stand for. -/
def locals : Nat → List (List Char) → List Term → Doing (List Local)
  | 0, _, _ => exhausted
  | fuel + 1, names, arguments => do
      let unnamed : Doing (List Char) := do
        let n := (← get).unused
        modify fun s => { s with unused := n + 1 }
        return ' ' :: numeral n
      match names, arguments with
      | [], _ => return []
      | name :: names, [] =>
          let array ← unnamed
          return ⟨name, .nothing, array⟩ :: (← locals fuel names [])
      | name :: names, t :: rest =>
          let value ← evaluate fuel t
          let array ← match t with
            | .name other => arrayOf other
            | _ => unnamed
          return ⟨name, value, array⟩ :: (← locals fuel names rest)
termination_by structural fuel => fuel

def callBuiltin : Nat → String → List Term → Doing Value
  | 0, _, _ => exhausted
  | fuel + 1, name, arguments => do
      match name, arguments with
      | "length", [] => return .ofNat (← get).row.length
      | "length", [t] =>
          let items? ← match t with
            | .name n => do pure ((← get).arrays[Key.mk (← arrayOf n)]?)
            | _ => pure none
          match items? with
          | some items => return .ofNat items.size
          | none => return .ofNat (← textOf (← evaluate fuel t)).length
      | "split", t :: .name array :: rest =>
          let text ← textOf (← evaluate fuel t)
          let separator ← match rest with
            | [] => do pure (Separator.ofText (← globalText "FS"))
            | .fit r :: _ => pure (.fit r)
            | s :: _ => do pure (Separator.ofText (← textOf (← evaluate fuel s)))
          splitInto (← arrayOf array) (separator.fields text)
      | "match", [t, p] =>
          let text ← textOf (← evaluate fuel t)
          let r ← patternOf fuel p
          let (start, length) : Float × Float := match r.find? { rest := text } with
            | some (a, b) => ((a.index + 1).toFloat, (b.index - a.index).toFloat)
            | none => (0, -1)
          setGlobal "RSTART" (.number start)
          setGlobal "RLENGTH" (.number length)
          return .number start
      | "sub", p :: t :: target | "gsub", p :: t :: target =>
          let r ← patternOf fuel p
          let new ← textOf (← evaluate fuel t)
          let spot ← spotOf fuel (target.headD (.field (.number 0)))
          let (text, count) := replaced r new (name == "gsub") (← textOf (← load spot))
          if count != 0 then store spot (.text text)
          return .ofNat count
      | _, _ =>
          match ← simple? name (← values fuel arguments) with
          | some v => return v
          | none => giveUp (octets ("line 1: wrong number of arguments in call to " ++ name))
termination_by structural fuel => fuel

def perform : Nat → Deed → Doing Unit
  | 0, _ => exhausted
  | fuel + 1, d => do
      let targetOf (target : Option (Direction × Term)) :
          Doing (Option (Direction × List Char)) := do
        match target with
        | none => return none
        | some (direction, t) => return some (direction, ← textOf (← evaluate fuel t))
      match d with
      | .term t =>
          let _ ← evaluate fuel t
      | .print terms target =>
          let format := (← global "OFMT").shown []
          let texts := (← values fuel terms).map (Value.shown format)
          let row := (← get).row
          let between ← globalText "OFS"
          let text := if terms.isEmpty then row else between.intercalate texts
          outTo (← targetOf target) (text ++ (← globalText "ORS"))
      | .printf terms target =>
          match ← values fuel terms with
          | [] => return
          | format :: values =>
              let text ← filled (← textOf format) values "printf"
              outTo (← targetOf target) text
      | .choose condition yes no =>
          if (← evaluate fuel condition).holds then perform fuel yes
          else match no with
            | some no => perform fuel no
            | none => return
      | .loop condition body =>
          repeated do
            if (← evaluate fuel condition).holds then round (perform fuel body) else return false
      | .loopOnce body condition =>
          repeated do
            if ← round (perform fuel body) then return (← evaluate fuel condition).holds
            else return false
      | .count start condition step body =>
          match start with
          | some start => perform fuel start
          | none => pure ()
          repeated do
            let goesOn ← match condition with
              | some t => do pure (← evaluate fuel t).holds
              | none => pure true
            if !goesOn then return false
            if !(← round (perform fuel body)) then return false
            match step with
            | some step => perform fuel step
            | none => pure ()
            return true
      | .each name array body =>
          let items := (← get).items (← arrayOf array)
          eachKey fuel name (sorted (items.keys.map Key.text)) body
      | .block deeds => performAll fuel deeds
      | .next => leaveBy .next
      | .exit status =>
          match status with
          | some t =>
              let n := truncated (← evaluate fuel t).amount
              modify fun s => { s with status := (n % 256).toNat }
          | none => pure ()
          leaveBy .exit
      | .leave => leaveBy .leave
      | .again => leaveBy .again
      | .return value =>
          match value with
          | some t => leaveBy (.back (← evaluate fuel t))
          | none => leaveBy (.back .nothing)
      | .forget array keys =>
          let array ← arrayOf array
          if keys.isEmpty then
            modify fun s => s.setItems array {}
          else
            let key ← keyOf fuel keys
            modify fun s => s.setItems array ((s.items array).erase ⟨key⟩)
termination_by structural fuel => fuel

def performAll : Nat → List Deed → Doing Unit
  | 0, _ => exhausted
  | fuel + 1, deeds => do
      match deeds with
      | [] => return
      | d :: rest =>
          perform fuel d
          performAll fuel rest
termination_by structural fuel => fuel

/-- Does something for every key. -/
def eachKey : Nat → List Char → List (List Char) → Deed → Doing Unit
  | 0, _, _, _ => exhausted
  | fuel + 1, name, keys, body => do
      match keys with
      | [] => return
      | key :: rest =>
          store (.named name) (.text key)
          if ← round (perform fuel body) then eachKey fuel name rest body
termination_by structural fuel => fuel

end

/-! Rules. -/

/-- How deep the doing of deeds may go. -/
def reach : Nat := 30000

/-- Does what a rule says about the row, if it is meant for it. -/
def follow (index : Nat) (rule : Rule) : Doing Unit := do
  let test (t : Term) : Doing Bool := return (← evaluate reach t).holds
  let isMeant ← match rule.condition with
    | .begin | .finish => pure false
    | .always => pure true
    | .on t => test t
    | .range first last => do
        let begun := (← get).ranges.contains index
        let holds ← if begun then pure true else test first
        if holds then
          let ends ← test last
          modify fun s =>
            let others := s.ranges.filter (· != index)
            { s with ranges := if ends then others else index :: others }
        pure holds
  if isMeant then perform reach (rule.deeds.getD (.print [] none))

/-- Does some deeds; whether the script goes on after them. -/
def stage (deeds : Doing Unit) : Doing Bool :=
  tryCatchThe Flow (do deeds; return true) fun flow =>
    match flow with
    | .halt => leaveBy .halt
    | .exit => return false
    | _ => return true

def carryOut : Doing Unit := do
  let rules := (← read).script.rules
  let of (wanted : Condition → Bool) : List Rule := rules.filter fun r => wanted r.condition
  let performThose (rules : List Rule) : Doing Bool :=
    stage (rules.forM fun r => perform reach (r.deeds.getD (.block [])))
  let beginning := of fun | .begin => true | _ => false
  let ending := of fun | .finish => true | _ => false
  let numbered := rules.mapIdx fun i r => (i, r)
  let goesOn ← performThose beginning
  if goesOn && beginning.length < rules.length then
    let _ ← stage <| repeated do
      match ← anyRow with
      | none => return false
      | some row =>
          setRow row
          tryCatchThe Flow (numbered.forM fun (i, r) => follow i r) fun flow =>
            match flow with
            | .next => return
            | _ => leaveBy flow
          return true
  let _ ← performThose ending

/-- The values that a script starts with. -/
def usual (call : Call) (operands : List (List Char))
    (environment : List (List Char × List Char)) : Session :=
  let texts := [("FS", " "), ("OFS", " "), ("ORS", "\n"), ("RS", "\n"), ("SUBSEP", "\x1c"),
    ("CONVFMT", "%.6g"), ("OFMT", "%.6g")].map fun (name, t) =>
      (Key.mk (octets name), Value.text (octets t))
  let numbers : List (String × Float) := [("NR", 0), ("FNR", 0), ("RSTART", 0), ("RLENGTH", -1),
    ("ARGC", (operands.length + 1).toFloat)]
  let values := texts ++ numbers.map fun (name, x) => (Key.mk (octets name), Value.number x)
  let arguments := (call.name :: operands).mapIdx fun i a => (Key.mk (numeral i), Value.input a)
  let handed := environment.map fun (name, value) => (Key.mk name, Value.input value)
  let s : Session := { values := .ofList values }
  (s.setItems (octets "ARGV") (.ofList arguments)).setItems (octets "ENVIRON") (.ofList handed)

/-- What a call asks for: the assignments, the files of the script, and the operands. -/
structure Wish where
  assignments : List (List Char × Value) := []
  files : List (List Char) := []
  operands : List (List Char)

/-- Reads the options of a call; gives the one that is none if there is any. -/
def wish : Nat → Wish → Except (List Char) Wish
  | 0, w => .ok w
  | fuel + 1, w =>
      let valued (letter : Char) (value : List Char) (rest : List (List Char)) :
          Except (List Char) Wish :=
        let w := { w with operands := rest }
        match letter with
        | 'F' => wish fuel { w with assignments := w.assignments ++ [(['F', 'S'], given value)] }
        | 'v' =>
            match operand? value with
            | some a => wish fuel { w with assignments := w.assignments ++ [a] }
            | none => .error (octets "improper assignment: -v " ++ value)
        | 'f' => wish fuel { w with files := w.files ++ [value] }
        | _ => wish fuel w
      match w.operands with
      | ['-', '-'] :: rest => .ok { w with operands := rest }
      | ('-' :: letter :: value) :: rest =>
          if ['F', 'v', 'f', 'W'].contains letter then
            match value, rest with
            | [], v :: rest => valued letter v rest
            | [], [] => .error (octets "no argument for option: -" ++ [letter])
            | _, _ => valued letter value rest
          else .error (octets "not an option: -" ++ letter :: value)
      | _ => .ok w

end Rows

namespace Utility

open Act Rows in
/-- Carries out a script about the rows of its inputs. -/
def awk : Utility := fun call => do
  match wish (call.arguments.length + 1) { operands := call.arguments } with
  | .error message => fail call message 2
  | .ok w =>
      let run (text : List Char) (operands : List (List Char)) : Act Nat := do
        match readScript text with
        | .error fault => fail call fault.message 2
        | .ok script =>
            let start := usual call operands (← handedOn)
            let start := w.assignments.foldl
              (fun (s : Session) (name, v) => s.setValue name v) start
            let guarded (deeds : Doing Unit) : Doing Unit :=
              tryCatchThe Flow deeds fun _ => return
            let all : Doing Unit := do
              guarded carryOut
              guarded finish
            let (_, s) ← (((all.run ⟨script, call⟩).run).run start : Act _)
            if s.source.any fun source => source.channel == 0 then readAhead 0
            return s.status
      match w.files, w.operands with
      | [], [] => misused call (octets "no script") 2
      | [], text :: operands => run text operands
      | files, operands =>
          let texts ← files.mapM fun path => do
            match ← contents path with
            | .ok text => return Except.ok text
            | .error t => return Except.error (path, t)
          match texts.mapM id with
          | .ok all => run (['\n'].intercalate all) operands
          | .error (path, t) =>
              fail call (octets "cannot open " ++ path ++ octets " (" ++ t.text ++ [')']) 2

end Utility

end ClusterLaunch.Shell
