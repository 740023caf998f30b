import ClusterLaunch.Shell.Launch
import ClusterLaunch.Shell.Utility

/-!
Utilities that start other programs, in surroundings that they change or with
arguments that they read, and those that tell about the surroundings.
-/

namespace ClusterLaunch.Shell.Utility

open Act

/-- Lets a program take the place of the utility; if that cannot be done, says why. -/
def become (call : Call) (words : List (List Char)) (lead : String := "") : Act Nat := do
  let name := words.headD []
  let t ← call.exec words
  fail call (octets lead ++ quoted name ++ octets ": " ++ t.text) (if t.isMissing then 127 else 126)

def handedOn : Act (List (List Char × List Char)) := do
  return (← process).bindings.filterMap fun (name, v) =>
    if v.exported then (v.value.bind Process.Value.first?).map fun value => (name, value) else none

def assignment? (word : List Char) : Option (List Char × List Char) :=
  if word.contains '=' then
    let name := word.takeWhile (· != '=')
    some (name, word.drop (name.length + 1))
  else none

def env : Utility := fun call =>
  let arguments := if call.arguments.head? == some ['-'] then ['-', 'i'] :: call.arguments.drop 1
    else call.arguments
  withOptions
    { letters := "iu:0C:S:v"
      long := [("ignore-environment", 'i'), ("unset", 'u'), ("null", '0'), ("chdir", 'C'),
        ("split-string", 'S'), ("debug", 'v')]
      mixed := false, status := 125 } { call with arguments } fun given operands => do
    let operands := match last? given 'S' with
      | some text =>
          let words := Text.pieces (fun c => c == ' ' || c == '\t') text
          let words := words.filter fun (w : List Char) => !w.isEmpty
          words ++ operands
      | none => operands
    if has given 'i' then modifyProcess fun p => { p with bindings := [] }
    given.forM fun (letter, name) => do
      if letter == 'u' then
        modifyProcess fun p => { p with bindings := p.bindings.filter (·.1 != name) }
    let settings := operands.takeWhile fun o => (assignment? o).isSome
    settings.forM fun word => do
      match assignment? word with
      | some (name, value) =>
          modifyProcess (·.setVariable name { value := some (.text value), exported := true })
      | none => pure ()
    match last? given 'C' with
    | none => pure ()
    | some path =>
        match ← find path with
        | .ok (id, _) => modifyProcess fun p => { p with place := id }
        | .error t =>
            let _ ← fail call (octets "cannot change directory to " ++ quoted path ++ octets ": " ++
              t.text)
            setStatus 125
            throw .leave
    match operands.drop settings.length with
    | [] =>
        let finish := if has given '0' then '\x00' else '\n'
        print ((← handedOn).flatMap fun (name, value) => name ++ '=' :: value ++ [finish])
        return 0
    | words =>
        if has given '0' then
          misused call (octets "cannot specify --null (-0) with command") 125
        else become call words

def printenv : Utility := fun call =>
  withOptions { letters := "0", long := [("null", '0')], status := 2 } call fun given names => do
    let all ← handedOn
    let finish := if has given '0' then '\x00' else '\n'
    if names.isEmpty then
      print (all.flatMap fun (name, value) => name ++ '=' :: value ++ [finish])
      return 0
    else
      let found := names.map fun name => all.lookup name
      print (found.flatMap fun value => (value.map (· ++ [finish])).getD [])
      return if found.any Option.isNone then 1 else 0

def nohup : Utility := fun call =>
  withOptions { letters := "", mixed := false, status := 125 } call fun _ words => do
    if words.isEmpty then misused call (octets "missing operand") 125
    else
      modifyProcess fun p => { p with traps := (1, []) :: p.traps.filter (·.1 != 1) }
      become call words "failed to run command "

def nice : Utility := fun call =>
  withOptions { letters := "n:", long := [("adjustment", 'n')], mixed := false, status := 125 } call
    fun given words => do
      if words.isEmpty then
        if given.isEmpty then
          print ['0', '\n']
          return 0
        else misused call (octets "a command must be given with an adjustment") 125
      else match last? given 'n' with
        | some text =>
            if (readSigned? text).isSome then become call words
            else fail call (octets "invalid adjustment " ++ quoted text) 125
        | none => become call words

/-- Runs a program that the terminal has no hold on. -/
def setsid : Utility := fun call =>
  withOptions { letters := "cfw", mixed := false } call fun _ words => do
    match words with
    | [] => fail call (octets "no command specified")
    | name :: _ =>
        let t ← call.exec words
        fail call (octets "failed to execute " ++ name ++ octets ": " ++ t.text)
          (if t.isMissing then 127 else 126)

/-- Runs a program whose output is passed on at once, which makes no difference here. -/
def stdbuf : Utility := fun call =>
  withOptions
    { letters := "i:o:e:", long := [("input", 'i'), ("output", 'o'), ("error", 'e')]
      mixed := false, status := 125 } call fun _ words => do
    if words.isEmpty then misused call (octets "missing operand") 125
    else become call words "failed to run command "

def which : Utility := fun call =>
  withOptions { letters := "as", mixed := false } call fun _ names => do
    names.foldlM (fun status name => do
      match ← search name with
      | .ok path => print (path ++ ['\n']); return status
      | .error _ => return 1) 0

/-! Arguments that are read. -/

/-- The words of a text, where quotes and backslashes keep blanks; or the quote that is open. -/
def quotedWords : Nat → Option (List Char) → List Char → Except Char (List (List Char))
  | 0, _, _ => .ok []
  | _, word, [] => .ok (word.map List.reverse).toList
  | fuel + 1, word, c :: rest =>
      let so := word.getD []
      if c == '\\' then
        match rest with
        | d :: rest => quotedWords fuel (some (d :: so)) rest
        | [] => .ok (word.map List.reverse).toList
      else if c == '\'' || c == '"' then
        let inner := rest.takeWhile fun d => d != c && d != '\n'
        match rest.drop inner.length with
        | d :: rest =>
            if d == c then quotedWords fuel (some (inner.reverse ++ so)) rest else .error c
        | [] => .error c
      else if c == ' ' || c == '\t' || c == '\n' then do
        let others ← quotedWords fuel none rest
        return (word.map List.reverse).toList ++ others
      else quotedWords fuel (some (c :: so)) rest

/-- Replaces a mark by a text wherever it stands. -/
def filledIn (mark value : List Char) : Nat → List Char → List Char
  | 0, text => text
  | _, [] => []
  | fuel + 1, c :: rest =>
      match Text.afterLead? mark (c :: rest) with
      | some after => if mark.isEmpty then c :: rest else value ++ filledIn mark value fuel after
      | none => c :: filledIn mark value fuel rest

def batches (size : Nat) : Nat → List (List Char) → List (List (List Char))
  | 0, _ => []
  | _, [] => []
  | fuel + 1, all => all.take size :: batches size fuel (all.drop size)

def xargs : Utility := fun call =>
  withOptions
    { letters := "0rtn:I:i:d:P:L:s:a:E:px"
      long := [("null", '0'), ("no-run-if-empty", 'r'), ("verbose", 't'), ("max-args", 'n'),
        ("replace", 'I'), ("delimiter", 'd'), ("max-procs", 'P'), ("max-lines", 'L'),
        ("arg-file", 'a')]
      mixed := false } call fun given words => do
    let words := if words.isEmpty then [octets "echo"] else words
    let text ← match last? given 'a' with
      | some path => contents path
      | none => readAll 0
    match text with
    | .error t => warn call t.text; return 1
    | .ok text =>
        let mark := last? given 'I'
        let delimiter : Option Char := if has given '0' then some '\x00'
          else match last? given 'd' with
            | some ['\\', 'n'] => some '\n'
            | some ['\\', 't'] => some '\t'
            | some ['\\', '0'] => some '\x00'
            | some (c :: _) => some c
            | _ => none
        let lines := (linesOf text).filter fun l => !(l.all Char.isWhitespace)
        let split (text : List Char) : Except Char (List (List Char)) :=
          quotedWords (text.length + 1) none text
        let read : Except Char (List (List (List Char))) :=
          match delimiter with
          | some c =>
              let all := Text.pieces (· == c) text
              let all := if all.getLast? == some [] then all.dropLast else all
              .ok (match mark, (last? given 'n').bind natural? with
                | some _, _ => all.map fun a => [a]
                | none, some n => batches (max n 1) (all.length + 1) all
                | none, none => [all])
          | none =>
              match mark with
              | some _ =>
                  lines.mapM fun l => do
                    let l := l.dropWhile Char.isWhitespace
                    -- blanks inside the line belong to the argument
                    let kept := l.flatMap fun c => if c == ' ' || c == '\t' then ['\\', c] else [c]
                    return [(← split kept).flatten]
              | none =>
                  match (last? given 'L').bind natural? with
                  | some n =>
                      (lines.mapM split).map fun all =>
                        let groups (size : Nat) : List (List (List Char)) :=
                          (List.range ((all.length + size - 1) / size)).map fun i =>
                            ((all.drop (i * size)).take size).flatten
                        groups (max n 1)
                  | none =>
                      (split text).map fun all =>
                        match (last? given 'n').bind natural? with
                        | some n => batches (max n 1) (all.length + 1) all
                        | none => [all]
        match read with
        | .error c =>
            fail call (octets ("unmatched " ++ (if c == '"' then "double" else "single") ++
              " quote; by default quotes are special to xargs unless you use the -0 option"))
        | .ok groups =>
            let groups := groups.filter fun g => !g.isEmpty
            let groups := if groups.isEmpty && !has given 'r' && mark.isNone then [[]] else groups
            -- what is run does not read the arguments
            match ← openPath (octets "/dev/null") .read with
            | .ok index => setChannel 0 index
            | .error _ => pure ()
            iterate (fun ((groups, status) : List (List (List Char)) × Nat) => do
              match groups with
              | [] => return .inr status
              | group :: rest =>
                  let words := match mark with
                    | some mark =>
                        let value := group.flatten
                        words.map fun w => filledIn mark value (w.length + 1) w
                    | none => words ++ group
                  if has given 't' then emit 2 ([' '].intercalate words ++ ['\n'])
                  match ← call.spawn words with
                  | .error t =>
                      let name := words.headD []
                      warn call (name ++ octets ": " ++ t.text)
                      return .inr (if t.isMissing then 127 else 126)
                  | .ok (.done 0) => return .inl (rest, status)
                  | .ok (.done 255) =>
                      warn call (words.headD [] ++ octets ": exited with status 255; aborting")
                      return .inr 124
                  | .ok (.done _) => return .inl (rest, 123)
                  | .ok (.killed signal) =>
                      warn call (words.headD [] ++ octets ": terminated by signal " ++
                        numeral signal)
                      return .inr 125) (groups.length + 1) (groups, 0)

/-! The surroundings. -/

def success : Utility := fun _ => return 0

def failure : Utility := fun _ => return 1

def ofBuiltin (builtin : Builtin) (dialect : Dialect) : Utility := fun call => do
  modifyProcess fun p => { p with dialect, name := call.name }
  let (status, text) ← builtin call.arguments
  print text
  return status

def uname : Utility := fun call =>
  withOptions
    { letters := "asnrvmpio"
      long := [("all", 'a'), ("kernel-name", 's'), ("nodename", 'n'), ("kernel-release", 'r'),
        ("kernel-version", 'v'), ("machine", 'm'), ("processor", 'p'), ("hardware-platform", 'i'),
        ("operating-system", 'o')] } call fun given operands => do
    match operands with
    | extra :: _ => misused call (octets "extra operand " ++ quoted extra)
    | [] =>
        let parts := [('s', "Linux"), ('n', "localhost"), ('r', "6.1.0"), ('v', "#1 SMP"),
          ('m', "x86_64"), ('p', "unknown"), ('i', "unknown"), ('o', "GNU/Linux")]
        let isWanted (letter : Char) : Bool :=
          if given.isEmpty then letter == 's'
          else has given letter || (has given 'a' && letter != 'p' && letter != 'i')
        print ([' '].intercalate ((parts.filter (isWanted ·.1)).map (octets ·.2)) ++ ['\n'])
        return 0

def hostname : Utility := fun _ => do
  print (octets "localhost\n")
  return 0

def whoami : Utility := fun call =>
  withOptions { letters := "" } call fun _ operands => do
    match operands with
    | extra :: _ => misused call (octets "extra operand " ++ quoted extra)
    | [] =>
        print (octets "root\n")
        return 0

def identity : Utility := fun call =>
  withOptions
    { letters := "ugGnra"
      long := [("user", 'u'), ("group", 'g'), ("groups", 'G'), ("name", 'n'), ("real", 'r')] } call
    fun given users => do
      let kinds := (given.map Prod.fst).filter fun c => ['u', 'g', 'G'].contains c
      if 1 < kinds.eraseDups.length then
        fail call (octets "cannot print \"only\" of more than one choice")
      else if kinds.isEmpty && (has given 'n' || has given 'r') then
        fail call (octets "cannot print only names or real IDs in default format")
      else
        let users := if users.isEmpty then [octets "root"] else users
        users.foldlM (fun status user => do
          if user == octets "root" || user == ['0'] then
            print (octets (if kinds.isEmpty then "uid=0(root) gid=0(root) groups=0(root)\n"
              else if has given 'n' then "root\n" else "0\n"))
            return status
          fail call (quoted user ++ octets ": no such user")) 0

def groups : Utility := fun call =>
  withOptions { letters := "" } call fun _ users => do
    if users.isEmpty then
      print (octets "root\n")
      return 0
    else users.foldlM (fun status user => do
      if user == octets "root" then
        print (octets "root : root\n")
        return status
      fail call (quoted user ++ octets ": no such user")) 0

def arch : Utility := fun call =>
  withOptions { letters := "" } call fun _ operands => do
    match operands with
    | extra :: _ => misused call (octets "extra operand " ++ quoted extra)
    | [] =>
        print (octets "x86_64\n")
        return 0

def logname : Utility := fun call =>
  withOptions { letters := "" } call fun _ operands => do
    match operands with
    | extra :: _ => misused call (octets "extra operand " ++ quoted extra)
    | [] => fail call (octets "no login name")

def nproc : Utility := fun _ => do
  print (octets "1\n")
  return 0

def tty : Utility := fun call => do
  if call.arguments.any fun a => a == octets "-s" then return 1
  print (octets "not a tty\n")
  return 1

def killUtility : Utility := fun call => do
  let (signal?, targets) := match call.arguments with
    | ['-', 's'] :: name :: targets | ['-', 'n'] :: name :: targets =>
        (Signal.ofText? name, targets)
    | ['-', '-'] :: targets => (some Signal.terminate, targets)
    | ('-' :: name) :: targets => (Signal.ofText? name, targets)
    | targets => (some Signal.terminate, targets)
  match signal?, targets with
  | none, _ => fail call (octets "unknown signal")
  | some _, [] => fail call (octets "not enough arguments")
  | some signal, _ =>
      targets.foldlM (fun status target => do
        match natural? target with
        | none =>
            warn call (octets "failed to parse argument: " ++ quoted target)
            return 1
        | some id =>
            if ← Act.signal id signal then return status
            warn call (octets "sending signal to " ++ target ++ octets " failed: No such process")
            return 1) 0

end ClusterLaunch.Shell.Utility
