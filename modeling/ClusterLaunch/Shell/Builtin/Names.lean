import ClusterLaunch.Shell.Builtin

/-!
Builtins about names and what they stand for: variables, options of the shell,
parameters and aliases.
-/

namespace ClusterLaunch.Shell.Builtin

open Act

/-- A text in quotes that the shell reads back. -/
def quoted (text : List Char) : List Char :=
  '\'' :: go text
where
  go : List Char → List Char
    | [] => ['\'']
    | '\'' :: rest =>
        match rest with
        | '\'' :: _ => octets "'\"'" ++ inside rest
        | [] => octets "'\"'\""
        | _ => octets "'\"'\"'" ++ go rest
    | c :: rest => c :: go rest
  inside : List Char → List Char
    | [] => ['"']
    | '\'' :: rest => '\'' :: inside rest
    | c :: rest => octets "\"'" ++ c :: go rest

def listed (select : Variable → Bool) : Act (List (List Char × Variable)) := do
  let p ← process
  return (p.bindings.filter fun (_, v) => select v).mergeSort fun a b => !precedes b.1 a.1

/-- How a list of values is written. -/
def shownList (items : List (List Char × List Char)) : List Char :=
  let parts := items.map fun (i, v) => '[' :: i ++ octets "]=\"" ++ v ++ ['"']
  '(' :: [' '].intercalate parts ++ [')']

def assignments (lead : List Char) (bindings : List (List Char × Variable)) : List Char :=
  bindings.flatMap fun (name, v) =>
    lead ++ name ++ (match v.value with
      | some (.text text) => '=' :: quoted text
      | some (.list _ items) => '=' :: shownList items
      | none => []) ++ ['\n']

/-- A name and the value behind an equals sign, if there is one. -/
def divided (argument : List Char) : List Char × Option (List Char) :=
  let name := argument.takeWhile (· != '=')
  match argument.drop name.length with
  | [] => (name, none)
  | _ :: value => (name, some value)

def marking (name : String) (select : Variable → Bool) (mark : Variable → Variable) : Builtin :=
  fun arguments => do
    let (found, arguments) ← flags (if ← isWide then "pfna" else "p") arguments
    if has found 'p' || arguments.isEmpty then
      let lead := if ← isWide then octets "declare -" ++ (if name == "export" then ['x'] else ['r'])
        else octets name
      return (0, assignments (lead ++ [' ']) (← listed select))
    let unmarked := has found 'n'
    arguments.forM fun argument => do
      let (name, value) := divided argument
      if has found 'f' then pure ()
      else
        match value with
        | some text => assign name text
        | none => if !isName name then failName name
        modifyVariable name (if unmarked then fun v => { v with exported := false } else mark)
    ok

def exporting : Builtin :=
  marking "export" (·.exported) fun v => { v with exported := true }

def fixing : Builtin :=
  marking "readonly" (·.fixed) fun v => { v with fixed := true }

def keeping : Builtin := fun arguments => do
  let p ← process
  if p.saved.isEmpty || p.calls == 0 then
    if ← isWide then
      complain (octets "can only be used in a function")
      return (1, [])
    fail (octets "not in a function")
  arguments.forM fun argument => do
    let (name, value) := divided argument
    if name == ['-'] then saveOptions
    else
      if !isName name then failName name
      save name
      if ← isWide then modifyProcess fun p => p.setVariable name {}
      match value with
      | some text => assign name text
      | none => modifyVariable name id
  ok

/-- Declares variables of the wider dialect. -/
def declare : Builtin := fun arguments => do
  let (found, arguments) ← flags "aAilurxpgfFnt" (arguments.map fun a =>
    if a.head? == some '+' then '-' :: 't' :: [] else a)
  let mark (v : Variable) : Variable :=
    { v with
      fixed := v.fixed || has found 'r'
      exported := v.exported || has found 'x'
      whole := v.whole || has found 'i'
      recased := if has found 'u' then some 'u' else if has found 'l' then some 'l' else v.recased
      value := if has found 'A' then some (v.value.getD (.list true []))
        else if has found 'a' then some (v.value.getD (.list false [])) else v.value }
  if arguments.isEmpty || has found 'p' then
    let all ← listed fun _ => true
    let chosen := if arguments.isEmpty then all else all.filter fun (n, _) => arguments.contains n
    return (0, assignments (octets "declare -- ") chosen)
  arguments.forM fun argument => do
    let (name, value) := divided argument
    if !isName name then failName name
    if 0 < (← process).calls && !has found 'g' then
      save name
      if value.isSome then modifyProcess fun p => p.setVariable name {}
    let fixed := has found 'r'
    modifyVariable name fun v => { mark v with fixed := v.fixed && fixed }
    match value with
    | some text => assign name text
    | none => pure ()
    modifyVariable name fun v => { v with fixed := v.fixed || fixed }
  ok

def unset : Builtin := fun arguments => do
  let (found, names) ← flags "vf" arguments
  let functions := (found.getLast?).map Prod.fst == some 'f'
  names.forM fun name => do
    if functions then
      modifyProcess fun p => { p with functions := p.functions.filter (·.1 != name) }
    else if (← isWide) && name.getLast? == some ']' then
      let base := name.takeWhile (· != '[')
      let index := ((name.drop (base.length + 1)).dropLast).filter fun c => c != '"' && c != '\''
      match ((← process).bound? base).bind Variable.value with
      | some (.list keyed items) =>
          modifyVariable base fun v =>
            { v with value := some (.list keyed (items.filter (·.1 != index))) }
      | _ => pure ()
    else
      if !isName name then failName name
      if (← isWide) && ((← process).bound? name).isNone then
        modifyProcess fun p => { p with functions := p.functions.filter (·.1 != name) }
      Act.unset name
  ok

def options : List (Option Char × String) :=
  [(some 'e', "errexit"), (some 'f', "noglob"), (some 'I', "ignoreeof"), (some 'i', "interactive"),
   (some 'm', "monitor"), (some 'n', "noexec"), (some 's', "stdin"), (some 'x', "xtrace"),
   (some 'v', "verbose"), (some 'V', "vi"), (some 'E', "emacs"), (some 'C', "noclobber"),
   (some 'a', "allexport"), (some 'b', "notify"), (some 'u', "nounset"),
   (some 'p', "privileged"), (none, "nolog"), (none, "debug")]

/-- The options that the wider dialect has besides. -/
def wideOptions : List (Option Char × String) :=
  [(none, "pipefail"), (some 'B', "braceexpand"), (some 'h', "hashall"), (some 'H', "histexpand"),
   (some 'T', "functrace"), (some 'P', "physical"), (none, "posix"),
   (some 'E', "errtrace"), (some 'k', "keyword"), (some 't', "onecmd"), (none, "history")]

def optionsOf (dialect : Dialect) : List (Option Char × String) :=
  if dialect == .wide then wideOptions ++ options else options

/-- Turns the options of a word on or off; a name may follow it. Gives what is left of the
arguments. -/
def setOptions (on : Bool) : List Char → List (List Char) → Act (List (List Char) × List Char)
  | [], rest => return (rest, [])
  | 'o' :: letters, rest => do
      let p ← process
      match rest with
      | [] =>
          let lines := (optionsOf p.dialect).map fun (_, name) =>
            if on then padRight 16 (octets name) ++ octets (if p.has name then "on" else "off")
            else octets (if p.has name then "set -o " else "set +o ") ++ octets name
          let (rest, more) ← setOptions on letters []
          return (rest, (if on then octets "Current option settings\n" else []) ++ unlines lines ++
            more)
      | name :: rest =>
          let text := String.ofList name
          if (optionsOf p.dialect).any (·.2 == text) then
            modifyProcess (·.setOption text on)
            setOptions on letters rest
          else if p.dialect == .wide then
            fail (name ++ octets ": invalid option name") 2
          else fail (octets "Illegal option -o " ++ name)
  | c :: letters, rest => do
      let p ← process
      match (optionsOf p.dialect).find? fun (letter, _) => letter == some c with
      | some (_, name) =>
          modifyProcess (·.setOption name on)
          setOptions on letters rest
      | none =>
          if p.dialect == .wide then fail ('-' :: c :: octets ": invalid option")
          else fail (octets "Illegal option -" ++ [c])

def setParameters (parameters : List (List Char)) : Act Unit :=
  modifyProcess fun p => { p with parameters, optionIndex := 1, optionPlace := none }

/-- Turns options on and off, and gives the parameters anew. -/
def setting : Builtin := fun arguments => do
  if arguments.isEmpty then
    return (0, assignments [] ((← listed fun v => v.value.isSome)))
  iterate (fun ((arguments, shown) : List (List Char) × List Char) => do
    match arguments with
    | [] => return .inr (0, shown)
    | ['-'] :: rest =>
        modifyProcess fun p => (p.setOption "xtrace" false).setOption "verbose" false
        if !rest.isEmpty then setParameters rest
        return .inr (0, shown)
    | ['-', '-'] :: rest =>
        setParameters rest
        return .inr (0, shown)
    | ('-' :: letters) :: rest =>
        let (rest, text) ← setOptions true letters rest
        return .inl (rest, shown ++ text)
    | ('+' :: letters) :: rest =>
        let (rest, text) ← setOptions false letters rest
        return .inl (rest, shown ++ text)
    | rest =>
        setParameters rest
        return .inr (0, shown)) (arguments.length + 1) (arguments, [])

def shift : Builtin := fun arguments => do
  let count ← match arguments with
    | [] => pure 1
    | n :: _ => number n
  let p ← process
  if p.parameters.length < count then
    if ← isWide then return (1, [])
    fail (octets "can't shift that many")
  setParameters (p.parameters.drop count)
  ok

/-- Reads the next option from the parameters. -/
def getopts : Builtin := fun arguments => do
  match arguments with
  | letters :: name :: given =>
      let p ← process
      let words := if given.isEmpty then p.parameters else given
      let ind := p.optionIndex
      -- the rest of the word in which letters are being read
      let current := match p.optionPlace, words[ind - 2]? with
        | some off, some word => if 2 ≤ ind then word.drop off else []
        | _, _ => []
      let finish (ind : Nat) (left : Option (List Char)) (letter : Char) (status : Nat) :
          Act (Nat × List Char) := do
        assign (octets "OPTIND") (numeral ind)
        let place := match left, words[ind - 2]? with
          | some rest, some word => if 2 ≤ ind then some (word.length - rest.length) else none
          | _, _ => none
        modifyProcess fun p => { p with optionIndex := ind, optionPlace := place }
        assign name [letter]
        return (status, [])
      let silent := letters.head? == some ':'
      let option (ind : Nat) (c : Char) (rest : List Char) : Act (Nat × List Char) := do
        match letters.dropWhile (· != c) with
        | [] =>
            if silent then assign (octets "OPTARG") [c]
            else
              emit 2 (if ← isWide then p.name ++ octets ": illegal option -- " ++ [c, '\n']
                else octets "Illegal option -" ++ [c, '\n'])
              Act.unset (octets "OPTARG")
            finish ind (some rest) '?' 0
        | _ :: ':' :: _ =>
            if !rest.isEmpty then
              assign (octets "OPTARG") rest
              finish ind none c 0
            else match words[ind - 1]? with
              | some value =>
                  assign (octets "OPTARG") value
                  finish (ind + 1) none c 0
              | none =>
                  if silent then
                    assign (octets "OPTARG") [c]
                    finish ind (some []) ':' 0
                  else
                    emit 2 (if ← isWide then
                        p.name ++ octets ": option requires an argument -- " ++ [c, '\n']
                      else octets "No arg for -" ++ c :: octets " option\n")
                    Act.unset (octets "OPTARG")
                    finish ind (some []) '?' 0
        | _ =>
            assign (octets "OPTARG") []
            finish ind (some rest) c 0
      match current with
      | c :: rest => if c == ':' then finish ind none '?' 1 else option ind c rest
      | [] =>
          match words[ind - 1]? with
          | some ['-', '-'] => finish (ind + 1) none '?' 1
          | some ('-' :: c :: rest) => option (ind + 1) c rest
          | _ => finish ind none '?' 1
  | _ => fail (octets "Usage: getopts optstring var [arg...]")

def aliasing : Builtin := fun arguments => do
  let shown (name value : List Char) : List Char :=
    name ++ '=' :: quoted value ++ ['\n']
  if arguments.isEmpty then
    return (0, (← process).aliases.flatMap fun (name, value) => shown name value)
  arguments.foldlM (fun (status, text) argument => do
    match divided argument with
    | (name, some value) =>
        modifyProcess fun p =>
          { p with aliases := p.aliases.filter (·.1 != name) ++ [(name, value)] }
        return (status, text)
    | (name, none) =>
        match (← process).aliases.lookup name with
        | some value => return (status, text ++ shown name value)
        | none =>
            if ← isWide then complain (name ++ octets ": not found")
            else emit 2 (octets "alias: " ++ name ++ octets " not found\n")
            return (1, text)) (0, [])

def unalias : Builtin := fun arguments => do
  let (found, names) ← flags "a" arguments
  if has found 'a' then
    modifyProcess fun p => { p with aliases := [] }
    return (0, [])
  let p ← process
  names.forM fun name => do
    if (p.aliases.lookup name).isNone then
      emit 2 (octets "unalias: " ++ name ++ octets " not found\n")
  let status := if names.all fun name => (p.aliases.lookup name).isSome then 0 else 1
  modifyProcess fun p => { p with aliases := p.aliases.filter fun (n, _) => !names.contains n }
  return (status, [])

def mapfile : Builtin := fun arguments => do
  let (found, names) ← flags "td:n:O:s:u:c:C:" arguments
  let lines ← iterate (fun (lines : List (List Char)) => do
    match ← readLine 0 with
    | .error _ => return .inr lines
    | .ok [] => return .inr lines
    | .ok line =>
        let line := if has found 't' && line.getLast? == some '\n' then line.dropLast else line
        return .inl (line :: lines)) manyTimes []
  setValue ((names.head?).getD (octets "MAPFILE"))
    (.list false (lines.reverse.mapIdx fun i line => (numeral i, line)))
  ok

end ClusterLaunch.Shell.Builtin
