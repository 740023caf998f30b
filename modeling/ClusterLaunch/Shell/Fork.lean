import ClusterLaunch.Shell.Channel

/-!
Processes that are started by others: how one begins, how its end is recorded, and
how signals reach it.
-/

namespace ClusterLaunch.Shell.Act

def writtenStreams (m : Machine) (p : Process) : List Nat :=
  p.channels.filterMap fun (_, index) =>
    match m.opened[index]? with
    | some { goal := .stream stream, writes := true, .. } => some stream
    | _ => none

/-- How much longer a process goes on that never ends. -/
def ages : Nat := 1000000000000

def conclude (ending : Ending) (later : Nat := 0) : Act Unit := do
  let s ← get
  let now := s.machine.clock + later
  let held := (writtenStreams s.machine s.process).eraseDups
  held.forM fun index => modifyStream index fun t => { t with ended := max t.ended now }
  modifyMachine fun m =>
    m.modifyLife s.process.id fun life => { life with stop := now, ending := some ending, held }

/-- Runs an activity in a process of its own, which starts as `change` says; gives its number
and how it ended. -/
def forked (change : Process → Process) (act : Act Unit) : Act (Nat × Ending) := do
  modifyProcess fun p => { p with jobs := p.nextJob.2 }
  let before ← process
  let (m, id) := (← machine).begin before.id
  modifyMachine fun _ => m
  modifyProcess fun p => change { p with id, parent := before.id, children := [], jobs := [] }
  let finished (ending : Ending) : Act (Nat × Ending) := do
    conclude ending
    -- the parent hears of it, if it has said what to do then
    if (before.traps.lookup Signal.child).isSome then
      modifyMachine fun m =>
        { m with underway := m.underway ++ [⟨before.id, Signal.child, m.clock⟩] }
    modify fun s => { s with process := before }
    return (id, ending)
  let ended : Except Exit Unit ← try
      act
      pure (.ok ())
    catch e => pure (.error e)
  match ended with
  | .ok () | .error .leave | .error .mistake => finished (.done ((← process).status % 256))
  | .error (.killed signal) => finished (.killed signal)
  | .error (.full index) =>
      -- the process is ended once its stream is read no more
      let _ ← finished (.killed Signal.pipe)
      throw (.full index)
  | .error .endless =>
      conclude (.done 0) ages
      modify fun s => { s with process := before }
      throw .endless
  | .error e =>
      modify fun s => { s with process := before }
      throw e

def hasEnded (life : Life) : Act Bool := do
  return life.ending.isSome && Nat.ble life.stop (← clock)

/-- Sends a signal to a process. The own process, and those that wait for it, are not done with
what they do at the moment; another one has run already, and what it did from now on is taken
back. Gives whether there is such a process. -/
def signal (id signal : Nat) : Act Bool := do
  let p ← process
  let m ← machine
  match m.life? id with
  | none => return false
  | some life =>
      match life.ending with
      | none =>
          if signal != 0 then
            modifyMachine fun m =>
              { m with underway := m.underway ++ [⟨id, signal, m.clock⟩] }
          return true
      | some _ =>
          if Nat.ble life.stop m.clock then return p.children.contains id
          if !(Signal.isSilent signal || Signal.stops signal) then
            modifyMachine fun m => m.endLife id (.killed signal)
          return true

/-- What a process does about a signal. -/
inductive Answer
  | ignores
  | dies
  | runs (script : List Char)
  deriving DecidableEq, Repr

def answerTo (p : Process) (signal : Nat) : Answer :=
  match if Signal.isFinal signal then none else p.traps.lookup signal with
  | some [] => .ignores
  | some script => .runs script
  | none => if Signal.isSilent signal || Signal.stops signal then .ignores else .dies

/-- Ends the process if a signal has reached it that it does not mind. -/
def heed : Act Unit := do
  let m ← machine
  if m.underway.isEmpty then return
  let p ← process
  match m.underway.find? fun u =>
      u.target == p.id && Nat.ble u.time m.clock && answerTo p u.signal == .dies with
  | none => pure ()
  | some u =>
      modifyMachine fun m => { m with clock := u.time }
      throw (.killed u.signal)

/-- The signals that have reached the process, each of them once, in the order of their
numbers. -/
def takeSignals : Act (List Nat) := do
  let m ← machine
  if m.underway.isEmpty then return []
  let p ← process
  let (mine, others) := m.underway.partition fun u =>
    u.target == p.id && Nat.ble u.time m.clock
  if mine.isEmpty then return []
  modifyMachine fun m => { m with underway := others }
  return (mine.map Underway.signal).eraseDups.mergeSort Nat.ble

end ClusterLaunch.Shell.Act
