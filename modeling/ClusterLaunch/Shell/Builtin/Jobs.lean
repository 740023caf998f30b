import ClusterLaunch.Shell.Builtin
import ClusterLaunch.Shell.Builtin.Names
import ClusterLaunch.Shell.Fork

/-!
Builtins about processes: sending signals, waiting for what runs in the background,
and saying what to do when a signal comes.
-/

namespace ClusterLaunch.Shell.Builtin

open Act

/-- The signal of a name or a number. Only the wider dialect takes names with their lead. -/
def signal? (dialect : Dialect) (text : List Char) : Option Nat :=
  let isLong := (String.ofList (text.map Char.toUpper)).startsWith "SIG"
  if isLong && dialect == .plain then none else Signal.ofText? text

/-- A signal that can be sent. The end of a script has a name but is none. -/
def sent? (dialect : Dialect) (text : List Char) : Option Nat :=
  (signal? dialect text).filter fun signal => signal != 0 || text.all Text.isDigit

/-- The job that an argument names; without one it is the latest. -/
def jobOf (text : Option (List Char)) : Act Job := do
  let jobs := (← process).jobs
  let named (text : List Char) : Option Job :=
    (Text.readNumeral? 10 text).bind fun n => jobs.find? fun j => j.number == n
  let shown := text.getD []
  let (found, problem) := match text with
    | none | some ['%'] | some ['%', '%'] | some ['%', '+'] =>
        (jobs.head?, octets "No current job")
    | some ['%', '-'] => (jobs[1]?, octets "No previous job")
    | some ('%' :: number) => (named number, octets "No such job: " ++ shown)
    | some _ => (none, octets "No such job: " ++ shown)
  match found with
  | some job => return job
  | none => fail problem

def processNumber (text : List Char) : Act (Option Nat) := do
  match text with
  | '%' :: _ => return (← jobOf (some text)).members.getLast?
  | '-' :: digits => return some (← number digits)
  | _ => return some (← number text)

def killUsage : List Char :=
  octets "Usage: kill [-s sigspec | -signum | -sigspec] [pid | job]... or\nkill -l [exitstatus]"

def signalNames (arguments : List (List Char)) : Act (List Char) := do
  match arguments with
  | [] =>
      let name (n : Nat) : List Char := octets (if n == 0 then "0" else Signal.name n)
      return unlines ((List.range (Signal.last + 1)).map name)
  | n :: _ =>
      let given ← number n
      let signal := if 128 < given then given - 128 else given
      if 0 < signal && signal ≤ Signal.last then return octets (Signal.name signal) ++ ['\n']
      fail (octets "invalid signal number or exit status: " ++ n)

def kill : Builtin := fun arguments => do
  let p ← process
  let send (signal : Nat) (targets : List (List Char)) : Act (Nat × List Char) := do
    if targets.isEmpty then fail killUsage
    let status ← targets.foldlM (fun status target => do
      -- a job has no group of processes that a signal could reach
      let isJob := target.head? == some '%' && p.dialect == .plain
      let found ← processNumber target
      match if isJob then none else found with
      | none => complain (octets "No such process\n"); return 1
      | some id =>
          if ← Act.signal id signal then return status
          else
            if p.dialect == .wide then
              complain ('(' :: target ++ octets ") - No such process")
            else complain (octets "No such process\n")
            return 1) 0
    heed
    return (status, [])
  match arguments with
  | [] => fail killUsage
  | ('-' :: letters) :: rest =>
      match if letters == ['0'] then some 0 else sent? p.dialect letters with
      | some signal => send signal (if rest.head? == some ['-', '-'] then rest.drop 1 else rest)
      | none =>
          let (found, rest) ← flags "ls:n:" arguments
          if has found 'l' then return (0, ← signalNames rest)
          match (found.lookup 's').orElse fun () => found.lookup 'n' with
          | none => send Signal.terminate rest
          | some name =>
              match sent? p.dialect name with
              | some signal => send signal rest
              | none => fail (octets "invalid signal number or name: " ++ name)
  | targets => send Signal.terminate targets

/-- Waits until a process has ended, or a signal comes that is not ignored. Gives the signal. -/
def awaitEnd (life : Life) : Act (Option Nat) := do
  let p ← process
  let m ← machine
  let early := m.underway.filter fun u =>
    u.target == p.id && Nat.blt u.time life.stop && answerTo p u.signal != .ignores
  match early.mergeSort fun a b => Nat.ble a.time b.time with
  | u :: _ =>
      waitUntil u.time
      heed
      return some u.signal
  | [] =>
      waitUntil life.stop
      return none

/-- Takes note of the end of processes that have ended by now. -/
def reap : Act Unit := do
  let s ← get
  let p := s.process
  if p.children.length == p.reaped.length then return
  let now := s.machine.clock
  let ended := p.children.filter fun id =>
    !p.reaped.contains id && match s.machine.life? id with
      | some life => life.ending.isSome && Nat.ble life.stop now
      | none => true
  if !ended.isEmpty then modifyProcess fun p => { p with reaped := ended ++ p.reaped }

/-- Says that a process was ended by a signal, if that is to be said. -/
def reportEnding (ending : Ending) : Act Unit := do
  match ending with
  | .killed signal =>
      if Signal.isReported signal then emit 2 (octets (Signal.description signal) ++ ['\n'])
  | .done _ => pure ()

/-- Waits for a child; gives its status. -/
def waitFor (id : Nat) (tells : Bool) : Act Nat := do
  let p ← process
  match (← machine).life? id with
  | none => return 127
  | some life =>
      if !p.children.contains id then return 127
      match ← awaitEnd life with
      | some signal => return 128 + signal
      | none =>
          let ending := ((((← machine).life? id).bind Life.ending).getD (.done 0))
          modifyProcess fun p =>
            { p with
              jobs := p.jobs.map fun j =>
                if j.members.getLast? == some id then { j with waited := true } else j }
          if tells && !p.reaped.contains id then reportEnding ending
          if !p.reaped.contains id then
            modifyProcess fun p => { p with reaped := id :: p.reaped }
          return ending.status

def wait : Builtin := fun arguments => do
  let (_, arguments) ← flags "" arguments
  let p ← process
  if arguments.isEmpty then
    -- children end in the order of time
    let m ← machine
    let lives := (p.children.filterMap m.life?).mergeSort fun a b => Nat.ble a.stop b.stop
    let status ← iterate (fun (lives : List Life) => do
      match lives with
      | [] => return .inr 0
      | life :: rest =>
          let status ← waitFor life.id false
          let stopped := Nat.blt (← clock) life.stop
          if stopped then return .inr status else return .inl rest) (lives.length + 1) lives
    return (status, [])
  let status ← arguments.foldlM (fun _ argument => do
    match ← processNumber argument with
    | some id => waitFor id true
    | none => return 127) 0
  return (status, [])

/-- What is said of how a job stands, if it has ended. -/
def ended? (job : Job) : Act (Option (List Char)) := do
  let s ← get
  let lives := job.members.filterMap s.machine.life?
  let isOver (life : Life) : Bool := life.ending.isSome && Nat.ble life.stop s.machine.clock
  if !lives.all isOver then return none
  match (lives.getLast?).bind Life.ending with
  | none | some (.done 0) => return octets "Done"
  | some (.done status) => return octets "Done(" ++ numeral status ++ [')']
  | some (.killed signal) => return octets (Signal.description signal)

/-- Lists the jobs. One that has ended is listed for the last time. -/
def jobs : Builtin := fun arguments => do
  if ← isWide then return (0, [])
  let (found, names) ← flags "lp" arguments
  reap
  let all := (← process).jobs
  let wanted ← if names.isEmpty then pure all else names.mapM fun name => jobOf (some name)
  let lines ← wanted.mapM fun job => do
    if has found 'p' then return numeral (job.members.headD 0) ++ ['\n']
    let ended ← ended? job
    let isJob (other : Option Job) : Bool := (other.map Job.number) == some job.number
    let sign := if isJob all.head? then '+' else if isJob all[1]? then '-' else ' '
    let process := if has found 'l' then numeral (job.members.headD 0) ++ [' '] else []
    let start := '[' :: numeral job.number ++ [']', ' ', sign, ' '] ++ process ++
      ended.getD (octets "Running")
    if ended.isSome then
      modifyProcess fun p =>
        { p with
          jobs := p.jobs.filter fun j => j.number != job.number
          children := p.children.filter fun id => !job.members.contains id }
    return padRight 33 start ++ (job.members.drop 1).flatMap (fun _ => octets " | ") ++ ['\n']
  return (0, lines.flatten)

/-- Lets a job go on. Without control of jobs none can. -/
def forth : Builtin := fun arguments => do
  if ← isWide then fail (octets "no job control") 1
  let (_, names) ← flags "" arguments
  let _ ← jobOf names.head?
  fail (octets "job " ++ names.headD (octets "(null)") ++
    octets " not created under job control")

/-- Says what is done when signals come, or lists it. -/
def trap : Builtin := fun arguments => do
  let (found, arguments) ← flags (if ← isWide then "lp" else "") arguments
  let p ← process
  if has found 'l' then return (0, ← signalNames [])
  if arguments.isEmpty || has found 'p' then
    let traps := if p.traps.isEmpty then p.shownTraps else p.traps
    let inOrder := traps.mergeSort fun a b => Nat.ble a.1 b.1
    return (0, inOrder.flatMap fun (signal, script) =>
      octets "trap -- " ++ quoted script ++ octets (" " ++
        (if p.dialect == .wide && signal != 0 then "SIG" else "") ++ Signal.name signal) ++ ['\n'])
  let isNumber := ((arguments.head?).bind (Text.readNumeral? 10)).isSome
  let (action, names) := match arguments with
    | [_] => (none, arguments)
    | action :: names =>
        if isNumber then (none, arguments)
        else if action == ['-'] then (none, names)
        else (some action, names)
    | [] => (none, [])
  iterate (fun (names : List (List Char)) => do
    match names with
    | [] => return .inr (0, [])
    | name :: rest =>
        match signal? p.dialect name with
        | none =>
            complain (name ++ octets (if p.dialect == .wide then ": invalid signal specification"
              else ": bad trap"))
            return .inr (1, [])
        | some signal =>
            modifyProcess fun p =>
              let others := p.traps.filter (·.1 != signal)
              { p with
                traps := match action with
                  | none => others
                  | some script => (signal, script) :: others
                shownTraps := [] }
            return .inl rest) (names.length + 1) names

end ClusterLaunch.Shell.Builtin
