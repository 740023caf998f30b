import ClusterLaunch.Shell.Expression
import ClusterLaunch.Shell.Installed
import ClusterLaunch.Shell.Launch
import ClusterLaunch.Shell.Reader
import ClusterLaunch.Shell.Redirect

/-!
Running scripts: finding what a command names, and carrying out lists, pipelines
and compound commands. Every function takes fuel, which bounds how deep the calls
go; a script that goes deeper has no room left for its calls, and ends like a process
whose stack is full.

Of a command that is tested, by a condition or before `&&`, a failure does not end
the script. A command is final if its process does nothing after it; a program then
takes the place of the process.
-/

namespace ClusterLaunch.Shell.Evaluation

open Act

/-- What the name of a command stands for. -/
inductive Target
  | function (f : Function)
  /-- A builtin; mistakes in a special one end the script. -/
  | builtin (special : Bool)
  | program

def builtins : List (String × Builtin) :=
  [(":", Builtin.yes), ("true", Builtin.yes), ("false", Builtin.no), ("echo", Builtin.echo),
   ("printf", Builtin.printf), ("test", Builtin.test false), ("[", Builtin.test true),
   ("pwd", Builtin.pwd), ("cd", Builtin.cd), ("chdir", Builtin.cd), ("umask", Builtin.umask),
   ("times", Builtin.times), ("ulimit", Builtin.ulimit), ("read", Builtin.read),
   ("export", Builtin.exporting), ("readonly", Builtin.fixing), ("local", Builtin.keeping),
   ("unset", Builtin.unset), ("set", Builtin.setting), ("shift", Builtin.shift),
   ("getopts", Builtin.getopts), ("alias", Builtin.aliasing), ("unalias", Builtin.unalias),
   ("kill", Builtin.kill), ("wait", Builtin.wait), ("trap", Builtin.trap), ("jobs", Builtin.jobs),
   ("fg", Builtin.forth), ("bg", Builtin.forth)]

/-- The builtins that only the wider dialect has. -/
def wideBuiltins : List (String × Builtin) :=
  [("declare", Builtin.declare), ("typeset", Builtin.declare), ("mapfile", Builtin.mapfile),
   ("readarray", Builtin.mapfile), ("shopt", Builtin.yes), ("enable", Builtin.yes),
   ("disown", Builtin.yes)]

/-- The builtins that run commands, or change what is run next. -/
def runners : List String :=
  [".", "break", "command", "continue", "eval", "exec", "exit", "hash", "return", "type"]

def wideRunners : List String := ["source", "let", "builtin"]

def isBuiltin (dialect : Dialect) (name : String) : Bool :=
  (builtins.lookup name).isSome || runners.contains name ||
    (dialect == .wide && ((wideBuiltins.lookup name).isSome || wideRunners.contains name))

/-- What a name stands for; functions may be left out. -/
def targetOf (p : Process) (functions : Bool) (name : List Char) : Target :=
  let text := String.ofList name
  match if functions then p.functions.lookup name else none with
  | some f => .function f
  | none =>
      if isBuiltin p.dialect text then
        .builtin (p.dialect == .plain && Reading.specialNames.contains text)
      else .program

/-- Builtins whose arguments may be assignments. -/
def declares (p : Process) (name : List Char) : Bool :=
  let text := String.ofList name
  (["export", "readonly", "local", "alias"].contains text ||
    (p.dialect == .wide && ["declare", "typeset"].contains text)) &&
  (p.functions.lookup name).isNone

/-- Puts back what a command has changed that ended early. -/
def restore (before : Process) : Act Unit := do
  popSaved before.level
  modifyProcess fun p =>
    { p with
      channels := before.channels
      parameters := before.parameters
      optionIndex := before.optionIndex
      optionPlace := before.optionPlace
      loops := before.loops
      calls := before.calls
      functionLine := before.functionLine
      command := before.command
      history := before.history
      skip := .none }

/-- Whether a loop goes on after what was just run: `none` if it goes on as usual. -/
def passSkip : Act Skip := do
  let found := (← process).skip
  let setSkip (skip : Skip) : Act Unit := modifyProcess fun p => { p with skip }
  match found with
  | .leave levels =>
      setSkip (if levels ≤ 1 then .none else .leave (levels - 1))
      return found
  | .again levels =>
      if levels ≤ 1 then
        setSkip .none
        return found
      else
        setSkip (.again (levels - 1))
        return .leave levels
  | _ => return found

/-- Takes over how a child has ended that was waited for. -/
def takeEnding (ending : Ending) : Act Unit := do
  Builtin.reap
  heed
  Builtin.reportEnding ending
  setStatus ending.status

/-- How many steps commands in the background may take. -/
def stepsBehind : Nat := 200000

/-- Runs processes in the background: the clock is put back to where it was. -/
def behind (act : Act Unit) : Act Unit := do
  let m ← machine
  let budget := min m.steps stepsBehind
  modifyMachine fun m => { m with steps := budget }
  let first := Machine.firstId + m.lives.size
  let id := (← process).id
  try act catch
    | .endless => pure ()
    | e => throw e
  modifyMachine fun now =>
    { now with clock := m.clock, steps := m.steps - (budget - now.steps) }
  let lives := (← machine).lives.toList.drop (first - Machine.firstId)
  let started := (lives.filter fun life => life.parent == id).map Life.id
  modifyProcess fun p =>
    let (number, jobs) := p.nextJob
    { p with
      children := started.reverse ++ p.children
      behind := started.getLast?
      jobs := { number, members := started } :: jobs
      status := 0 }

def withoutInput : Act Unit := do
  match ← openPath (octets "/dev/null") .read with
  | .ok index => setChannel 0 index
  | .error _ => closeChannel 0

/-- How much may be written to a pipeline before it is read, at first and in the end. -/
def firstQuota : Nat := 65536

def lastQuota : Nat := 8000000

/-- How much may be written for a command to take it. -/
def outputQuota : Nat := 4000000

/-- Says why a program cannot be run, and sets the status. -/
def refuse (name : List Char) (t : Trouble) (searched : Bool) : Act Unit := do
  let wide ← isWide
  let text := if t.isMissing then
      if wide && searched then octets "command not found"
      else if wide then t.text else octets "not found"
    else t.text
  let text ← if wide && t == .denied then do
      let p ← process
      let isDirectory := ((← storage).find? p.place name).elim false Entry.isDirectory
      pure (if isDirectory && !searched then Trouble.isDirectory.text else text)
    else pure text
  complain (name ++ octets ": " ++ text)
  let absent := t.isMissing || t == .looped || t == .tooLong || (searched && !wide)
  setStatus (if absent then 127 else 126)

/-- What a name is, for `type` and `command`; none if it is nothing. -/
def describe (verbose : Bool) (name : List Char) : Act (Option (List Char)) := do
  let p ← process
  let text := String.ofList name
  let say (what : String) : Option (List Char) :=
    some (name ++ octets (if verbose then " is " ++ what else "") ++ ['\n'])
  if Token.keywords.contains text || (p.dialect == .wide && Token.wideKeywords.contains text) then
    return say "a shell keyword"
  match p.aliases.lookup name with
  | some value =>
      return some (if verbose then name ++ octets " is an alias for " ++ value ++ ['\n']
        else octets "alias " ++ name ++ '=' :: Builtin.quoted value ++ ['\n'])
  | none =>
      match targetOf p true name with
      | .function _ => return say (if p.dialect == .wide then "a function" else "a shell function")
      | .builtin special =>
          return say (if special then "a special shell builtin" else "a shell builtin")
      | .program =>
          let wide := p.dialect == .wide
          let isKnown := p.known.contains name
          match ← if wide then search name else searchOnce name with
          | .ok path =>
              return some (
                if !verbose then path ++ ['\n']
                else if !isKnown then name ++ octets " is " ++ path ++ ['\n']
                else if wide then name ++ octets " is hashed (" ++ path ++ octets ")\n"
                else name ++ octets " is a tracked alias for " ++ path ++ ['\n'])
          | .error _ => return none

/-- The paths at which a script is looked for that is read by the shell itself. -/
def sourcePath (name : List Char) : Act (Option (List Char)) := do
  if name.contains '/' then return some name
  let s ← get
  let p := s.process
  let isThere (path : List Char) : Bool :=
    match s.machine.storage.find? p.place path with
    | some entry => entry.isRegular
    | none => false
  let ways := (Text.pieces (· == ':') p.searched).map fun d => joined d name
  return (if p.dialect == .wide then ways ++ [name] else ways).find? isThere

def assignOne (output : Expansion.Output) (exports : Bool) (a : Assignment) : Act Unit := do
  let (.mk name index more value) := a
  let wide ← isWide
  match value with
  | [.list values] =>
      let p ← process
      let old := (p.bound? name).bind Variable.value
      let keyed := match old with
        | some (.list keyed _) => keyed
        | _ => false
      let start := if more then itemsOf (p.bound? name) else []
      let nextOf (items : List (List Char × List Char)) : Nat :=
        ((items.getLast?).bind fun (i, _) => Text.readNumeral? 10 i).elim 0 (· + 1)
      let items ← values.foldlM (fun (items : List (List Char × List Char)) (index, word) => do
        if index.isEmpty then
          let fields ← Expansion.fields output word
          return fields.foldl (fun items v => items ++ [(numeral (nextOf items), v)]) items
        else
          let key ← Expansion.text output index
          let key ← if keyed then pure key else signed <$> Expansion.sumOf key
          let text ← Expansion.text output word
          return items.filter (·.1 != key) ++ [(key, text)]) start
      setValue name (.list keyed items) exports
  | _ =>
      let text ← Expansion.text output value true
      match index with
      | some index =>
          let p ← process
          let key ← Expansion.text output index
          let keyed := match (p.bound? name).bind Variable.value with
            | some (.list keyed _) => keyed
            | _ => false
          let key ← if keyed then pure key else signed <$> Expansion.sumOf key
          let old := ((itemsOf (p.bound? name)).lookup key).getD []
          setItem name key (if more then old ++ text else text)
      | none =>
          let v := (← process).bound? name
          let old := ((v.bind Variable.value).bind Process.Value.first?).getD []
          let isWhole := (v.map Variable.whole).getD false
          let text := if !more then text
            else if isWhole then old ++ '+' :: text else old ++ text
          if wide || isName name then setValue name (.text text) exports
          else assign name text exports

/-- Writes a command on the error channel before it is run. -/
def trace (output : Expansion.Output) (before : Process)
    (assigned : List (List Char × List Char)) (words : List (List Char)) : Act Unit := do
  let p ← process
  if p.has "xtrace" then
    let raw := (p.value? (octets "PS4")).getD (octets "+ ")
    let lead ← match Reading.expandable? raw p.dialect with
      | none => pure raw
      | some word =>
          modifyProcess (·.setOption "xtrace" false)
          let lead ← try Expansion.text output word catch
            | .mistake => pure raw
            | e => throw e
          modifyProcess (·.setOption "xtrace" true)
          pure lead
    let shownWord (w : List Char) : List Char :=
      if p.dialect == .wide && (w.isEmpty || w.any (Utility.isSpecial false)) then
        Builtin.quoted w
      else w
    modifyProcess fun p => { p with channels := before.channels }
    let assigned := assigned.map fun (name, value) => name ++ '=' :: shownWord value
    emit 2 (lead ++ [' '].intercalate (assigned ++ words.map shownWord) ++ ['\n'])
    modifyProcess fun now => { now with channels := p.channels }

mutual

def run (tested final : Bool) (c : Command) : Nat → Act Unit
  | 0 => throw (.killed 11)
  | fuel + 1 => do
      let output : Expansion.Output := fun c => capture c fuel
      if (← process).has "noexec" then return
      match c with
      | .nothing => pure ()
      | .simple line assignments words redirections =>
          simple tested final line assignments words redirections fuel
          settle tested fuel
      | .redirected line body redirections =>
          modifyProcess fun p => { p with line }
          let before := (← process).channels
          if ← Lead.tryFollow output redirections then run tested false body fuel
          modifyProcess fun p => { p with channels := before }
          attend fuel
      | .subshell line body redirections =>
          modifyProcess fun p => { p with line }
          let part : Act Unit := do
            Lead.follow output redirections
            run tested true body fuel
          if final && (← process).traps.isEmpty then
            part
            throw .leave
          let (_, ending) ← forked Process.asPart (asShell part fuel)
          takeEnding ending
          settle tested fuel
      | .background line body redirections =>
          modifyProcess fun p => { p with line }
          behind do
            let _ ← forked Process.asPart do
              withoutInput
              asShell (do
                Lead.follow output redirections
                run false true body fuel) fuel
          attend fuel
      | .pipeline commands true =>
          behind do
            let _ ← elements false true commands fuel
          attend fuel
      | .pipeline commands false =>
          let endings ← elements tested false commands fuel
          Builtin.reap
          heed
          endings.forM Builtin.reportEnding
          let statuses := endings.map Ending.status
          let last := (statuses.getLast?).getD 0
          let p ← process
          let status := if p.has "pipefail" then
              ((statuses.reverse.find? (· != 0)).getD 0) else last
          modifyProcess fun p => { p with status, statuses }
          if p.dialect == .wide then
            setValue (octets "PIPESTATUS")
              (.list false (statuses.mapIdx fun i s => (numeral i, numeral s)))
          settle tested fuel
      | .not command =>
          run true false command fuel
          let p ← process
          setStatus (if p.status == 0 then 1 else 0)
          attend fuel
      | .both first second =>
          run true false first fuel
          let p ← process
          if p.skip == .none && p.status == 0 then run tested final second fuel
      | .either first second =>
          run true false first fuel
          let p ← process
          if p.skip == .none && p.status != 0 then run tested final second fuel
      | .sequence commands =>
          let count := commands.length
          (commands.mapIdx fun i c => (i, c)).forM fun (i, c) => do
            if (← process).skip == .none then run tested (final && i + 1 == count) c fuel
      | .branch test body otherwise =>
          run true false test fuel
          let p ← process
          if p.skip == .none then
            if p.status == 0 then run tested final body fuel
            else if otherwise.isNothing then setStatus 0
            else run tested final otherwise fuel
      | .loop inverted test body =>
          modifyProcess fun p => { p with loops := p.loops + 1 }
          let status ← iterate (fun (status : Nat) => do
            tick
            run true false test fuel
            let tests := (← process).status
            match ← passSkip with
            | .return => return .inr tests
            | .leave _ => return .inr status
            | .again _ => return .inl status
            | .none =>
                if (tests == 0) == inverted then return .inr status
                run tested false body fuel
                let status := (← process).status
                match ← passSkip with
                | .none | .again _ => return .inl status
                | _ => return .inr status) manyTimes 0
          modifyProcess fun p => { p with loops := p.loops - 1, status }
          attend fuel
      | .each line name words body =>
          modifyProcess fun p => { p with line }
          let values := (← words.mapM (Expansion.fields output)).flatten
          modifyProcess fun p => { p with loops := p.loops + 1 }
          let status ← iterate (fun ((values, status) : List (List Char) × Nat) => do
            match values with
            | [] => return .inr status
            | value :: rest =>
                tick
                assign name value
                run tested false body fuel
                let status := (← process).status
                match ← passSkip with
                | .none | .again _ => return .inl (rest, status)
                | _ => return .inr status) manyTimes (values, 0)
          modifyProcess fun p => { p with loops := p.loops - 1, status }
          attend fuel
      | .choose line word cases =>
          modifyProcess fun p => { p with line }
          let subject ← Expansion.text output word
          let found ← iterate (fun (cases : List (List Word × Command × Char)) => do
            match cases with
            | [] => return .inr []
            | (patterns, _) :: rest =>
                let fits ← patterns.anyM fun w => do
                  return (← Expansion.pattern output w).fits subject
                if fits then return .inr cases else return .inl rest) (cases.length + 1) cases
          match found with
          | [] => setStatus 0
          | _ => chosen tested final subject true found fuel
          attend fuel
      | .define line name body =>
          modifyProcess fun p =>
            { p with
              functions := (name, ⟨line, body⟩) :: p.functions.filter (·.1 != name)
              status := 0 }
      | .condition line c =>
          modifyProcess fun p => { p with line }
          let before ← process
          try
            let holds ← condition c fuel
            setStatus (if holds then 0 else 1)
          catch
            | .mistake => restore before
            | e => throw e
          settle tested fuel
      | .sums line expression =>
          modifyProcess fun p => { p with line }
          let before ← process
          try
            let n ← Expansion.sumOf (← Expansion.text output expression)
            setStatus (if n == 0 then 1 else 0)
          catch
            | .mistake => restore before
            | e => throw e
          settle tested fuel
      | .count line start test step body =>
          modifyProcess fun p => { p with line, loops := p.loops + 1 }
          let sum (w : Word) : Act Int := do
            if w.isEmpty then return 1
            Expansion.sumOf (← Expansion.text output w)
          let _ ← sum start
          let status ← iterate (fun (status : Nat) => do
            tick
            if (← sum test) == 0 then return .inr status
            run tested false body fuel
            let status := (← process).status
            match ← passSkip with
            | .none | .again _ =>
                let _ ← sum step
                return .inl status
            | _ => return .inr status) manyTimes 0
          modifyProcess fun p => { p with loops := p.loops - 1, status }
          attend fuel
      | .timed command =>
          run tested false command fuel
          emit 2 (octets "\nreal\t0m0.001s\nuser\t0m0.001s\nsys\t0m0.000s\n")
termination_by structural fuel => fuel

/-- Runs the first of some cases, and those after it if it says so. -/
def chosen (tested final : Bool) (subject : List Char) (fits : Bool)
    (cases : List (List Word × Command × Char)) :
    Nat → Act Unit
  | 0 => throw (.killed 11)
  | fuel + 1 => do
      match cases with
      | [] => pure ()
      | (patterns, body, sign) :: rest =>
          let fits ← if fits then pure true else patterns.anyM fun w => do
            return (← Expansion.pattern (fun c => capture c fuel) w).fits subject
          if !fits then chosen tested final subject false rest fuel
          else
            if body.isNothing then setStatus 0
            else run tested (final && sign == ' ') body fuel
            if (← process).skip == .none then
              if sign == '&' then chosen tested final subject true rest fuel
              else if sign == ';' then chosen tested final subject false rest fuel
termination_by structural fuel => fuel

/-- After a command: a failure may end the script, and signals are answered. -/
def settle (tested : Bool) : Nat → Act Unit
  | 0 => throw (.killed 11)
  | fuel + 1 => do
      let p ← process
      if p.status != 0 && !tested && p.has "errexit" then throw .leave
      attend fuel
termination_by structural fuel => fuel

def attend : Nat → Act Unit
  | 0 => throw (.killed 11)
  | fuel + 1 => do
      if (← machine).underway.isEmpty then return
      heed
      let due ← takeSignals
      due.forM fun signal => do
        let p ← process
        match answerTo p signal with
        | .runs script =>
            modifyProcess fun p => { p with leaving := some (p.leaving.getD p.status) }
            let _ ← runText false script fuel
            modifyProcess fun now =>
              { now with
                leaving := p.leaving
                status := if now.skip == .return then now.status else p.status }
        | _ => pure ()
termination_by structural fuel => fuel

/-- What a command writes, without line feeds at its end. -/
def capture (c : Command) : Nat → Act (List Char)
  | 0 => throw (.killed 11)
  | fuel + 1 => do
      tick
      let (m, stream) := (← machine).openStream [] (some outputQuota)
      modifyMachine fun _ => m
      let channel ← openGoal { goal := .stream stream, reads := false, writes := true }
      let (_, ending) ← try
          forked (fun p =>
              { p.asPart with channels := (1, channel) :: p.channels.filter (·.1 != 1) })
            (asShell (run false true c fuel) fuel)
        catch
          | .full index => throw (if index == stream then .endless else .full index)
          | e => throw e
      match (← machine).streams[stream]? with
      | none => return []
      | some s =>
          waitUntil s.ended
          modifyStream stream fun _ => {}
          takeEnding ending
          modifyProcess fun p => { p with captured := ending.status }
          let text := s.text.filter (· != '\x00')
          return (text.reverse.dropWhile (· == '\n')).reverse
termination_by structural fuel => fuel

/-- Runs what a shell does, and in the end what it was asked to do at its end. -/
def asShell (body : Act Unit) : Nat → Act Unit
  | 0 => throw (.killed 11)
  | fuel + 1 => do
      try body catch
        | .leave | .mistake => pure ()
        | e => throw e
      let p ← process
      match p.traps.lookup 0 with
      | none | some [] => pure ()
      | some script =>
          modifyProcess fun p =>
            { p with
              traps := p.traps.filter (·.1 != 0)
              skip := .none
              leaving := some p.status }
          try
            let _ ← runText false script fuel
            setStatus p.status
          catch
            | .leave | .mistake => pure ()
            | e => throw e
termination_by structural fuel => fuel

/-- Runs the commands of a pipeline, each in a process of its own; gives how they ended. -/
def elements (tested idle : Bool) (commands : List Command) : Nat → Act (List Ending)
  | 0 => throw (.killed 11)
  | fuel + 1 => do
      let one (c : Command) : Act (Nat × Ending) :=
        forked Process.asPart do
          if idle then withoutInput
          asShell (run tested true c fuel) fuel
      match commands with
      | [] => return []
      | [last] =>
          let (_, ending) ← one last
          return [ending]
      | first :: rest =>
          let before ← get
          let start := before.machine.clock
          iterate (fun (quota : Nat) => do
            let (m, stream) := (← machine).openStream [] (some quota)
            modifyMachine fun _ => m
            let writer ← openGoal { goal := .stream stream, reads := false, writes := true }
            let reader ← openGoal { goal := .stream stream }
            let outer := (← process).channels
            setChannel 1 writer
            let ended ← try some <$> one first catch
              | .full index => if index == stream then pure none else throw (.full index)
              | e => throw e
            let stop ← clock
            modifyStream stream fun s => { s.settled with cut := ended.isNone, quota := none }
            modifyProcess fun p => { p with channels := outer }
            setChannel 0 reader
            modifyMachine fun m => { m with clock := start }
            let next := Machine.firstId + (← machine).lives.size
            let endings ← try some <$> elements tested false rest fuel catch
              | .starved index => if index == stream then pure none else throw (.starved index)
              | e => throw e
            match endings with
            | none =>
                if lastQuota < quota then throw .endless
                let steps := (← machine).steps
                set { before with machine := { before.machine with steps } }
                return .inl (quota * 16)
            | some endings =>
                modifyProcess fun p => { p with channels := outer }
                -- what is written once nobody reads any more ends the writer
                let m ← machine
                let gone := ((m.life? next).map Life.stop).getD m.clock
                let chunks := ((m.streams[stream]?).map fun s => s.chunks.toList).getD []
                let late := chunks.find? fun c => Nat.blt gone c.time
                let (stop, ending) := match ended, late with
                  | _, some chunk => (chunk.time, Ending.killed Signal.pipe)
                  | some (_, ending), none => (stop, ending)
                  | none, none => (max gone start, Ending.killed Signal.pipe)
                modifyMachine fun m => { m with clock := max m.clock stop }
                modifyStream stream fun _ => {}
                return .inr (ending :: endings)) 8 firstQuota
termination_by structural fuel => fuel

/-- Runs a simple command: its words are expanded, then its channels and variables are set, and
then what it names is run. -/
def simple (tested final : Bool) (line : Nat) (assignments : List Assignment) (words : List Word)
    (redirections : List Redirection) : Nat → Act Unit
  | 0 => throw (.killed 11)
  | fuel + 1 => do
      tick
      modifyProcess fun p => { p with line, captured := 0 }
      let output : Expansion.Output := fun c => capture c fuel
      let before ← process
      let (fields, lists) ← words.foldlM
        (fun ((fields, lists) : List (List Char) × List Assignment) w => do
          let declared := (fields.head?).elim false (declares before)
          let assigned : Option Assignment :=
            if declared then assignment? (before.dialect == .wide) w else none
          match assigned with
          | some (.mk name index more [.list values]) =>
              return (fields ++ [name], lists ++ [Assignment.mk name index more [.list values]])
          | some (.mk name _ more value) =>
              let text ← Expansion.text output value true
              let p ← process
              let old := if more then (p.value? name).getD [] else []
              return (fields ++ [name ++ '=' :: old ++ text], lists)
          | none => return (fields ++ (← Expansion.fields output w), lists)) ([], [])
      match fields with
      | [] =>
          if ← Lead.tryFollow output redirections then
            let shown ← assignments.mapM fun a => do
              assignOne output false a
              let (.mk name _ _ _) := a
              let now := (name, ((← process).value? name).getD [])
              if before.dialect == .wide then trace output before [now] []
              return now
            if before.dialect == .plain then trace output before shown []
            modifyProcess fun p => { p with channels := before.channels, status := p.captured }
          else modifyProcess fun p => { p with channels := before.channels }
      | name :: arguments =>
          let target := targetOf (← process) true name
          let special := match target with
            | .builtin special => special
            | _ => false
          if !(← Lead.tryFollow output redirections) then
            modifyProcess fun p => { p with channels := before.channels }
            if special then throw .mistake
            return
          let executes := special && name == octets "exec"
          let direct := special && !(executes && !arguments.isEmpty)
          let levels := (← process).level
          if !direct && !executes then
            match target, assignments with
            | .builtin _, [] | .program, [] => pure ()
            | _, _ => pushSaved
          assignments.forM fun a => do
            let (.mk changed _ _ _) := a
            if !direct && !executes then save changed
            assignOne output (!direct) a
          if before.has "xtrace" then
            let assigned ← assignments.mapM fun (.mk changed _ _ _) => do
              return (changed, ((← process).value? changed).getD [])
            trace output before assigned fields
          let undo : Act Unit := do
            if !executes then modifyProcess fun p => { p with channels := before.channels }
            popSaved levels
          match target with
          | .function f =>
              call tested f name arguments fuel
              undo
          | .builtin special =>
              if special then
                builtin tested name arguments fuel
                undo
              else
                try
                  builtin tested name arguments fuel
                  undo
                catch
                  | .mistake => restore before
                  | e => throw e
              if !lists.isEmpty then lists.forM (assignOne output false)
          | .program =>
              if final && (← process).traps.isEmpty then launch name arguments fuel
              else
                match ← searchOnce name with
                | .error t => refuse name t (!name.contains '/')
                | .ok _ =>
                    let (_, ending) ← forked id (launch name arguments fuel)
                    takeEnding ending
              undo
termination_by structural fuel => fuel

/-- Lets a program take the place of the process; if that cannot be done, says why. -/
def launch (name : List Char) (arguments : List (List Char)) : Nat → Act Unit
  | 0 => throw (.killed 11)
  | fuel + 1 => do
      let t ← match ← search name with
        | .error t => pure t
        | .ok path => execute path (name :: arguments) fuel
      refuse name t (!name.contains '/' && t != .denied)
termination_by structural fuel => fuel

def call (tested : Bool) (f : Function) (name : List Char) (arguments : List (List Char)) :
    Nat → Act Unit
  | 0 => throw (.killed 11)
  | fuel + 1 => do
      let before ← process
      modifyProcess fun p =>
        { p with
          parameters := arguments
          optionIndex := 1
          optionPlace := none
          loops := 0
          calls := p.calls + 1
          functionLine := f.line
          history := name :: p.history }
      run tested false f.body fuel
      modifyProcess fun p =>
        { p with
          parameters := before.parameters
          optionIndex := before.optionIndex
          optionPlace := before.optionPlace
          loops := before.loops
          calls := before.calls
          functionLine := before.functionLine
          history := before.history
          skip := if p.skip == .return then .none else p.skip }
termination_by structural fuel => fuel

def builtin (tested : Bool) (name : List Char) (arguments : List (List Char)) : Nat → Act Unit
  | 0 => throw (.killed 11)
  | fuel + 1 => do
      let text := String.ofList name
      let outer := (← process).command
      modifyProcess fun p => { p with command := some name }
      let table := if ← isWide then wideBuiltins ++ builtins else builtins
      let (status, printed) ← match table.lookup text with
        | some act => act arguments
        | none => runner tested text arguments fuel
      setStatus status
      if !printed.isEmpty then
        match ← write 1 printed with
        | .ok () => pure ()
        | .error _ =>
            complain (name ++ octets ": I/O error")
            setStatus (status ||| 1)
      modifyProcess fun p => { p with command := outer }
termination_by structural fuel => fuel

/-- Runs a builtin that runs commands, or changes what is run next. -/
def runner (tested : Bool) (name : String) (arguments : List (List Char)) :
    Nat → Act (Nat × List Char)
  | 0 => throw (.killed 11)
  | fuel + 1 => do
      let p ← process
      let wide := p.dialect == .wide
      let kept : Act (Nat × List Char) := return ((← process).status, [])
      let levels : Act Nat := do
        match arguments with
        | [] => return min 1 p.loops
        | n :: _ =>
            let count ← Builtin.number n
            if count == 0 then fail (octets "Illegal number: " ++ n)
            return min count p.loops
      match name with
      | "break" =>
          let count ← levels
          if 0 < count then modifyProcess fun p => { p with skip := .leave count }
          return (0, [])
      | "continue" =>
          let count ← levels
          if 0 < count then modifyProcess fun p => { p with skip := .again count }
          return (0, [])
      | "return" =>
          let status ← match arguments with
            | [] => pure p.status
            | n :: _ => Builtin.number n
          modifyProcess fun p => { p with skip := .return }
          return (status, [])
      | "exit" =>
          let status ← match arguments with
            | [] => pure (p.leaving.getD p.status)
            | n :: _ => Builtin.number n
          setStatus (status % 256)
          throw .leave
      | "eval" => return (← runText tested ([' '].intercalate arguments) fuel, [])
      | "let" =>
          let sums ← arguments.mapM Expansion.sumOf
          return (if (sums.getLast?).getD 0 == 0 then 1 else 0, [])
      | "." | "source" =>
          match arguments with
          | [] =>
              if wide then
                complain (octets "filename argument required")
                return (2, [])
              return (0, [])
          | path :: parameters =>
              match ← sourcePath path with
              | none =>
                  if wide then
                    complain (path ++ octets ": No such file or directory")
                    return (1, [])
                  fail (path ++ octets ": not found")
              | some found =>
                  match ← Utility.withFile found Utility.readAll with
                  | .error t =>
                      if wide then
                        complain (path ++ octets ": " ++ t.text)
                        return (1, [])
                      fail (octets "cannot open " ++ found ++ octets ": " ++ Lead.reason .read t)
                  | .ok content =>
                      let text := match content with
                        | .ok text => text
                        | .error _ => []
                      let own := wide && !parameters.isEmpty
                      modifyProcess fun p =>
                        { p with
                          command := if wide then none else some found
                          parameters := if own then parameters else p.parameters }
                      let status ← runText tested text fuel
                      modifyProcess fun now =>
                        { now with
                          parameters := if own then p.parameters else now.parameters
                          skip := if now.skip == .return then .none else now.skip }
                      return (status, [])
      | "exec" =>
          let isEnded := arguments.head? == some ['-', '-']
          let arguments := if isEnded then arguments.drop 1 else arguments
          match arguments with
          | [] => return (0, [])
          | name :: arguments =>
              launch name arguments fuel
              throw .leave
      | "command" =>
          let (found, arguments) ← Builtin.flags "pvV" arguments
          match arguments with
          | [] => return (0, [])
          | name :: rest =>
              if Builtin.has found 'v' || Builtin.has found 'V' then
                let verbose := Builtin.has found 'V'
                match ← describe verbose name with
                | some text => return (0, text)
                | none =>
                    if wide then
                      if verbose then complain (name ++ octets ": not found")
                      return (1, [])
                    return (127, if verbose then name ++ octets ": not found\n" else [])
              else
                modifyProcess fun now => { now with command := none }
                match targetOf p false name with
                | .builtin _ => builtin tested name rest fuel
                | _ =>
                    match ← searchOnce name with
                    | .error t => refuse name t (!name.contains '/')
                    | .ok _ =>
                        let (_, ending) ← forked id (launch name rest fuel)
                        takeEnding ending
                kept
      | "builtin" =>
          match arguments with
          | [] => return (0, [])
          | name :: rest =>
              builtin tested name rest fuel
              kept
      | "type" =>
          let (found, arguments) ← if wide then Builtin.flags "tpaPf" arguments
            else pure ([], arguments)
          arguments.foldlM (fun (status, printed) name => do
            match ← describe (!(Builtin.has found 't' || Builtin.has found 'p')) name with
            | some text =>
                if Builtin.has found 't' then
                  let kind := match targetOf p true name with
                    | .function _ => "function\n"
                    | .builtin _ => "builtin\n"
                    | .program => "file\n"
                  return (status, printed ++ octets kind)
                return (status, printed ++ text)
            | none =>
                if wide then
                  if found.isEmpty then complain (name ++ octets ": not found")
                  return (1, printed)
                return (127, printed ++ name ++ octets ": not found\n")) (0, [])
      | _ =>
          -- what is left is `hash`
          let (found, names) ← Builtin.flags "r" arguments
          if Builtin.has found 'r' then
            modifyProcess fun p => { p with known := [] }
            return (0, [])
          if names.isEmpty then
            let inOrder := p.known.mergeSort fun a b =>
              Nat.ble (Process.row Process.commandRows a) (Process.row Process.commandRows b)
            let paths ← inOrder.filterMapM fun name => do return (← search name).toOption
            return (0, unlines paths)
          names.foldlM (fun (status, printed) name => do
            match ← searchOnce name with
            | .ok _ => return (status, printed)
            | .error _ =>
                complain (name ++ octets ": not found")
                return (1, printed)) (0, [])
termination_by structural fuel => fuel

/-- Runs the text of a script, one line of commands after the other. Gives the status of the
last one, or zero without any. -/
def runText (tested : Bool) (text : List Char) : Nat → Act Nat
  | 0 => throw (.killed 11)
  | fuel + 1 => do
      let p ← process
      iterate (fun ((source, status) : Source × Nat) => do
        tick
        let p ← process
        if p.skip != .none then return .inr status
        match Reading.next?.run
            { source with
              aliases := p.aliases, documents := [], nextDocument := p.nextDocument } with
        | .error mistake =>
            modifyProcess fun p => { p with line := mistake.line }
            fail (octets mistake.message)
        | .ok (none, _) => return .inr status
        | .ok (some c, source) =>
            if !source.documents.isEmpty then
              modifyProcess fun p =>
                { p with
                  documents := source.documents ++ p.documents
                  nextDocument := source.nextDocument }
            run tested false c fuel
            return .inl (source, (← process).status)) manyTimes
        ({ rest := text, dialect := p.dialect }, 0)
termination_by structural fuel => fuel

/-- Lets the program at a path take the place of the process; gives why that cannot be done. -/
def execute (path : List Char) (arguments : List (List Char)) : Nat → Act Trouble
  | 0 => throw (.killed 11)
  | fuel + 1 => do
      let s ← get
      match s.machine.storage.load s.process.place scriptLimit path arguments with
      | .error t => return t
      | .ok (program, arguments) =>
          modifyProcess Process.replaced
          if program == "sh" || program == "dash" then shell .plain arguments fuel
          else if program == "bash" || program == "rbash" then shell .wide arguments fuel
          else
            match installed.lookup program with
            | none => setStatus 0
            | some utility =>
                let exec (words : List (List Char)) : Act Trouble := do
                  match ← search ((words.head?).getD []) with
                  | .error t => return t
                  | .ok path => execute path words fuel
                let spawn (words : List (List Char)) : Act (Except Trouble Ending) := do
                  match ← search ((words.head?).getD []) with
                  | .error t => return .error t
                  | .ok path =>
                      let s ← get
                      match s.machine.storage.load s.process.place scriptLimit path words with
                      | .error t => return .error t
                      | .ok _ =>
                          let (_, ending) ← forked id do
                            let _ ← execute path words fuel
                          return .ok ending
                let status ← utility
                  ⟨(arguments.head?).getD [], arguments.drop 1, exec, spawn⟩
                setStatus status
          throw .leave
termination_by structural fuel => fuel

def shell (dialect : Dialect) (arguments : List (List Char)) : Nat → Act Unit
  | 0 => throw (.killed 11)
  | fuel + 1 => do
      let storage ← storage
      modifyProcess fun p => p.started dialect storage
      match ← readInvocation arguments with
      | .text text => asShell (discard (runText false text fuel)) fuel
      | .input =>
          let text ← match ← Utility.readAll 0 with
            | .ok text => pure text
            | .error _ => pure []
          asShell (discard (runText false text fuel)) fuel
      | .file path =>
          match ← Utility.withFile path Utility.readAll with
          | .error t =>
              if dialect == .wide then
                complain (path ++ octets ": " ++ t.text)
                setStatus 127
              else fail (octets "cannot open " ++ path ++ octets ": " ++ Lead.reason .read t)
          | .ok content =>
              modifyProcess fun p => { p with name := path, line := 1 }
              match content with
              | .ok text => asShell (discard (runText false text fuel)) fuel
              | .error _ => pure ()
termination_by structural fuel => fuel

/-- Decides a condition between double brackets. -/
def condition (c : Condition) : Nat → Act Bool
  | 0 => throw (.killed 11)
  | fuel + 1 => do
      let output : Expansion.Output := fun c => capture c fuel
      let decide (words : List (List Char)) : Act Bool := do
        let p ← process
        match Decision.ofArguments ⟨p.dialect, ← Builtin.looking⟩ false words with
        | .ok found => return found
        | .error reason => fail reason 1
      match c with
      | .word w => return !(← Expansion.text output w).isEmpty
      | .not c => return !(← condition c fuel)
      | .both a b => if ← condition a fuel then condition b fuel else return false
      | .either a b => if ← condition a fuel then return true else condition b fuel
      | .unary operator w =>
          let text ← Expansion.text output w
          if operator == ['-', 'v'] then return ((← process).bound? text).isSome
          decide [operator, text]
      | .binary operator first second =>
          let a ← Expansion.text output first
          match String.ofList operator with
          | "=" | "==" => return (← Expansion.pattern output second).fits a
          | "!=" => return !(← Expansion.pattern output second).fits a
          | "=~" =>
              let glyphs ← Expansion.pieces output false Expansion.depth second
              let text := (Glyph.marked glyphs).flatMap fun (c, quoted) =>
                if quoted && !(c.isAlphanum || c == ' ' || c == '_') then ['\\', c] else [c]
              match Expression.read true text with
              | .error _ => return false
              | .ok r =>
                  match Expression.find? r a with
                  | none => return false
                  | some (start, stop) =>
                      let whole := start.upTo stop
                      let groups := (List.range 10).filterMap fun i =>
                        (stop.groups.lookup i).map fun text => (numeral i, text)
                      setValue (octets "BASH_REMATCH") (.list false ((['0'], whole) :: groups))
                      return true
          | "-eq" | "-ne" | "-lt" | "-le" | "-gt" | "-ge" =>
              let b ← Expansion.text output second
              let x ← Expansion.sumOf a
              let y ← Expansion.sumOf b
              decide [signed x, operator, signed y]
          | _ => decide [a, operator, ← Expansion.text output second]
termination_by structural fuel => fuel

end

end ClusterLaunch.Shell.Evaluation
