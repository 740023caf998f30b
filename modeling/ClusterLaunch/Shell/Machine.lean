import ClusterLaunch.Shell.Process
import ClusterLaunch.Shell.Storage

/-!
The machine that scripts run on: its files, its clock, the streams between
processes, and the record of the processes themselves. Processes run one after the
other; one in the background runs at once, and the clock is put back for those that
do not wait for it. So everything that is written bears the time at which it was
written, and is read in the order of time.
-/

namespace ClusterLaunch.Shell

/-- A text that was written to a stream, when, and by which process. -/
structure Chunk where
  time : Nat
  writer : Nat
  text : List Char

/-- A stream from the processes that write to it to those that read from it. -/
structure Stream where
  chunks : Array Chunk := #[]
  written : Nat := 0
  /-- How much may be written before it has to be read. -/
  quota : Option Nat := none
  /-- Whether more would have been written. -/
  cut : Bool := false
  /-- When the last writer was done. -/
  ended : Nat := 0
  /-- How many chunks were taken, and what is left of the last one. -/
  taken : Nat := 0
  rest : List Char := []

namespace Stream

def settled (s : Stream) : Stream :=
  let rec isInOrder : List Chunk → Bool
    | a :: b :: rest => a.time ≤ b.time && isInOrder (b :: rest)
    | _ => true
  let all := s.chunks.toList
  if isInOrder all then s
  else { s with chunks := (all.mergeSort fun a b => Nat.ble a.time b.time).toArray }

def text (s : Stream) : List Char :=
  s.settled.chunks.toList.flatMap Chunk.text

end Stream

/-- What a channel leads to. -/
inductive Goal
  | stream (index : Nat)
  | entry (id : Nat)
  deriving DecidableEq, Repr

/-- An opened file or stream. Channels that were made from each other share it. -/
structure Opened where
  goal : Goal
  reads : Bool := true
  writes : Bool := false
  appends : Bool := false
  offset : Nat := 0
  /-- What is left to be read of a file, and the version of the file for which that holds. -/
  view : Option (Nat × List Char) := none

/-- What is known of a process. -/
structure Life where
  id : Nat
  parent : Nat
  start : Nat
  /-- When and how it ended, once it has. -/
  stop : Nat := 0
  ending : Option Ending := none
  /-- The streams that it could write to until it ended. -/
  held : List Nat := []

/-- A signal that is under way to a process. -/
structure Underway where
  target : Nat
  signal : Nat
  time : Nat

structure Machine where
  storage : Storage
  /-- Milliseconds since the first command. -/
  clock : Nat := 0
  streams : Array Stream := #[]
  opened : Array Opened := #[]
  lives : Array Life := #[]
  underway : List Underway := []
  /-- How many more steps may be taken before commands count as endless. -/
  steps : Nat := 0
  /-- When a process is stopped that runs no matter how. -/
  deadline : Option Nat := none
  /-- What chance gives next. -/
  chance : Nat := 0

structure State where
  machine : Machine
  process : Process

/-- What ends commands early. -/
inductive Exit
  /-- The process ends with the status that it has. -/
  | leave
  /-- A mistake of the shell ends the script, unless a builtin made it. -/
  | mistake
  | killed (signal : Nat)
  /-- The commands would never end, or not before the deadline. -/
  | endless
  /-- More was written to a stream than anyone is known to read. -/
  | full (stream : Nat)
  /-- More is read from a stream than was written so far. -/
  | starved (stream : Nat)
  deriving DecidableEq, Repr

abbrev Act := ExceptT Exit (StateM State)

namespace Machine

/-- The number of the first process. -/
def firstId : Nat := 1000

def life? (m : Machine) (id : Nat) : Option Life :=
  if id < firstId then none else m.lives[id - firstId]?

def modifyLife (m : Machine) (id : Nat) (f : Life → Life) : Machine :=
  if id < firstId then m else { m with lives := m.lives.modify (id - firstId) f }

def begin (m : Machine) (parent : Nat) : Machine × Nat :=
  let id := firstId + m.lives.size
  ({ m with lives := m.lives.push { id, parent, start := m.clock } }, id)

def openStream (m : Machine) (text : List Char) (quota : Option Nat := none) : Machine × Nat :=
  let chunks := if text.isEmpty then #[] else #[⟨m.clock, 0, text⟩]
  ({ m with streams := m.streams.push { chunks, quota } }, m.streams.size)

def openGoal (m : Machine) (o : Opened) : Machine × Nat :=
  ({ m with opened := m.opened.push o }, m.opened.size)

def streamText (m : Machine) (index : Nat) : List Char :=
  ((m.streams[index]?).map Stream.text).getD []

/-- Takes back all that a process and those that it started did after now. -/
def endLife (m : Machine) (id : Nat) (ending : Ending) : Machine :=
  let now := m.clock
  let started := m.lives.toList.foldl (fun ids life =>
    if ids.contains life.parent && now < life.start then life.id :: ids else ids) [id]
  let streams := m.streams.map fun s =>
    { s with chunks := s.chunks.filter fun c => !(started.contains c.writer && now < c.time) }
  let lives := m.lives.map fun life =>
    if life.id == id then { life with stop := now, ending := some ending }
    else if started.contains life.id then { life with stop := now }
    else life
  let streams := streams.mapIdx fun index s =>
    let ends := lives.toList.filterMap fun life =>
      if life.ending.isSome && life.held.contains index then some life.stop else none
    { s with ended := ends.foldl max 0 }
  { m with streams, lives }

end Machine

namespace Act

def process : Act Process := return (← get).process

def machine : Act Machine := return (← get).machine

def modifyProcess (f : Process → Process) : Act Unit :=
  modify fun s => { s with process := f s.process }

def modifyMachine (f : Machine → Machine) : Act Unit :=
  modify fun s => { s with machine := f s.machine }

def storage : Act Storage := return (← get).machine.storage

def clock : Act Nat := return (← get).machine.clock

def setStorage (storage : Storage) : Act Unit :=
  modifyMachine fun m => { m with storage }

def setStatus (status : Nat) : Act Unit :=
  modifyProcess fun p => { p with status }

/-- Counts a step; too many are endless. -/
def tick : Act Unit := do
  let m ← machine
  match m.steps with
  | 0 => throw .endless
  | steps + 1 => set { (← get) with machine := { m with steps } }

/-- Goes on until there is a result, in so many steps at most. -/
def iterate {σ α : Type} (step : σ → Act (σ ⊕ α)) : Nat → σ → Act α
  | 0, _ => throw .endless
  | fuel + 1, s => do
      match ← step s with
      | .inl s => iterate step fuel s
      | .inr result => return result

/-- How often a loop may go round. -/
def manyTimes : Nat := 1000000000

def loop (step : Act Bool) : Act Unit :=
  iterate (fun () => do
    tick
    if ← step then return .inl () else return .inr ()) manyTimes ()

/-- Lets time go on to a moment, unless that is after the deadline. -/
def waitUntil (time : Nat) : Act Unit := do
  let m ← machine
  match m.deadline with
  | some deadline =>
      if deadline ≤ time && m.clock < time then
        modifyMachine fun m => { m with clock := max m.clock deadline }
        throw .endless
  | none => pure ()
  modifyMachine fun m => { m with clock := max m.clock time }

def sleep (millis : Nat) : Act Unit := do
  waitUntil ((← clock) + millis)

/-! Variables. -/

def value? (name : List Char) : Act (Option (List Char)) :=
  return (← process).value? name

/-- Runs an activity, and something else after it however it ends. -/
def followedBy {α : Type} (act : Act α) (after : Act Unit) : Act α := do
  try
    let a ← act
    after
    return a
  catch e => after; throw e

end Act

end ClusterLaunch.Shell
