import ClusterLaunch.Shell.Binding
import ClusterLaunch.Shell.Decision
import ClusterLaunch.Shell.Format
import ClusterLaunch.Shell.Glyph

/-!
Builtins: commands that the shell carries out itself. A builtin gives its status and
what it prints, which is written once it is done; one that stops with a mistake
prints nothing. This module holds those about texts, files and input.
-/

namespace ClusterLaunch.Shell

abbrev Builtin := List (List Char) → Act (Nat × List Char)

namespace Builtin

open Act

abbrev Flag := Char × List Char

/-- Reads the options of a builtin; a colon behind a letter asks for an argument. Gives the
operands as well. -/
def flags (letters : String) (arguments : List (List Char)) :
    Act (List Flag × List (List Char)) :=
  go (letters.toList) [] arguments
where
  go (letters : List Char) (found : List Flag) : List (List Char) →
      Act (List Flag × List (List Char))
    | [] => return (found.reverse, [])
    | ['-', '-'] :: rest => return (found.reverse, rest)
    | ('-' :: c :: more) :: rest =>
        let rec word (found : List Flag) : List Char → Act (List Flag × Option Char)
          | [] => return (found, none)
          | c :: more => do
              if !letters.contains c || c == ':' then
                fail (octets "Illegal option -" ++ [c])
              match (letters.dropWhile (· != c)).drop 1 with
              | ':' :: _ =>
                  if more.isEmpty then return (found, some c)
                  else return ((c, more) :: found, none)
              | _ => word ((c, []) :: found) more
        do
          match ← word found (c :: more), rest with
          | (found, none), rest => go letters found rest
          | (found, some letter), value :: rest => go letters ((letter, value) :: found) rest
          | (_, some letter), [] => fail (octets "No arg for -" ++ letter :: octets " option")
    | rest => return (found.reverse, rest)

def has (flags : List Flag) (letter : Char) : Bool :=
  flags.any (·.1 == letter)

/-- The number that an argument is. In the wider dialect one below zero stands for a status. -/
def number (text : List Char) : Act Nat := do
  match Arithmetic.decimal? text, ← isWide with
  | some n, true => return if n < 0 then (n % 256).toNat else n.toNat
  | none, true => fail (text ++ octets ": numeric argument required")
  | found, false =>
      match counted? found with
      | some n => return n
      | none => fail (octets "Illegal number: " ++ text)
where
  counted? (n : Option Int) : Option Nat :=
    n.bind fun n => if 0 ≤ n && n ≤ Int32.maxValue.toInt then some n.toNat else none

def ok (text : List Char := []) : Act (Nat × List Char) := return (0, text)

def yes : Builtin := fun _ => ok

def no : Builtin := fun _ => return (1, [])

def echo : Builtin := fun arguments => do
  if ← isWide then ok (Format.echoPlainly false arguments) else ok (Format.echo arguments)

/-- Says what was wrong with the arguments of a format; gives the status. What stands before a
place that cannot be filled is still written. -/
def reportFilling (f : Format.Filling) : Act Nat := do
  if f.invalid.isSome then
    let _ ← write 1 f.text
  f.wrong.forM fun (argument, wrong) => complain (argument ++ octets (match wrong with
    | .noNumber => ": expected numeric value"
    | .leftOver => ": not completely converted"
    | .outOfRange => ": Numerical result out of range"))
  match f.invalid with
  | some [] => fail (octets "missing format character")
  | some place => fail (place ++ octets ": invalid directive")
  | none => return if f.wrong.isEmpty then 0 else 1

def reportWideFilling (f : Format.Filling) : Act Nat := do
  f.wrong.forM fun (argument, _) => complain (argument ++ octets ": invalid number")
  match f.invalid with
  | some [] => complain (octets "missing format character"); return 1
  | some place =>
      complain ('\x60' :: (place.getLast?).toList ++ octets "': invalid format character")
      return 1
  | none => return if f.wrong.isEmpty then 0 else 1

def printf : Builtin := fun arguments => do
  let p ← process
  let (found, arguments) ← flags (if p.dialect == .wide then "v:" else "") arguments
  match arguments with
  | [] => fail (octets "usage: printf format [arg ...]")
  | format :: arguments =>
      let f := Format.printf p.dialect format arguments
      let status ← if p.dialect == .wide then reportWideFilling f else reportFilling f
      match found.lookup 'v' with
      | some name => assign name f.text; return (status, [])
      | none => return (status, f.text)

def looking : Act Decision.Look := do
  let p ← process
  let s ← storage
  return fun through path =>
    match s.find p.place path through with
    | .ok id => (s.at? id).map fun entry => (id, entry)
    | .error _ => none

def test (bracket : Bool) : Builtin := fun words => do
  let p ← process
  match Decision.ofArguments ⟨p.dialect, ← looking⟩ bracket words with
  | .ok found => return (if found then 0 else 1, [])
  | .error reason => fail reason

/-- The path of the directory, without links if that is asked for. -/
def directoryPath (physical : Bool) : Act (List Char) := do
  let p ← process
  if physical then return (← storage).pathOf p.place else return p.directory

def pwd : Builtin := fun arguments => do
  let (found, _) ← flags "LP" arguments
  ok ((← directoryPath ((found.getLast?).map Prod.fst == some 'P')) ++ ['\n'])

def plainPath (directory path : List Char) : List Char :=
  let whole := if path.head? == some '/' then path else directory ++ '/' :: path
  let names := (Storage.parts whole).foldl (fun (names : List (List Char)) name =>
    if name == ['.', '.'] then names.drop 1 else name :: names) []
  let text := names.reverse.flatMap ('/' :: ·)
  if text.isEmpty then ['/'] else text

/-- Goes to a directory; gives whether that could be done. -/
def go (physical : Bool) (path : List Char) : Act (Except Trouble Unit) := do
  let p ← process
  let s ← storage
  let plain := if physical then path else plainPath p.directory path
  match s.find p.place (if plain.isEmpty then ['.'] else plain) with
  | .error t => return .error t
  | .ok id =>
      if !s.isDirectory id then return .error .notDirectory
      let directory := if physical then s.pathOf id else plain
      modifyProcess fun p => { p with place := id, directory }
      setValue (octets "OLDPWD") (.text p.directory) (!(← isWide))
      setValue (octets "PWD") (.text directory) (!(← isWide))
      return .ok ()

def cd : Builtin := fun arguments => do
  let (found, arguments) ← flags (if ← isWide then "LPe@" else "LP") arguments
  let physical := (found.getLast?).map Prod.fst == some 'P'
  let p ← process
  let wide ← isWide
  let old := p.value? (octets "OLDPWD")
  if wide && arguments.head? == some ['-'] && old.isNone then
    complain (octets "OLDPWD not set")
    return (1, [])
  if wide && arguments.isEmpty && (p.value? (octets "HOME")).isNone then
    complain (octets "HOME not set")
    return (1, [])
  let (target, prints) := match arguments with
    | [] => ((p.value? (octets "HOME")).getD [], false)
    | ['-'] :: _ => (old.getD [], true)
    | path :: _ => (path, false)
  let isDirect := target.isEmpty || target.head? == some '/' || target == ['.'] ||
    target == ['.', '.'] || begins target "./" || begins target "../"
  let ways := if isDirect then [] else
    match p.value? (octets "CDPATH") with
    | some list => Text.pieces (· == ':') list
    | none => []
  let tried ← ways.findSomeM? fun way => do
    match ← go physical (joined way target) with
    | .ok () => return some (!way.isEmpty)
    | .error _ => return none
  let shown (prints : Bool) : Act (Nat × List Char) := do
    let p ← process
    ok (if prints then p.directory ++ ['\n'] else [])
  match tried with
  | some prints => shown prints
  | none =>
      match ← go physical target with
      | .ok () => shown prints
      | .error t =>
          if wide then
            complain (target ++ octets ": " ++ t.text)
            return (1, [])
          else fail (octets "can't cd to " ++ target)
where
  joined (way target : List Char) : List Char :=
    if way.isEmpty then target else way ++ '/' :: target

/-- The classes of users that a mode speaks of, and what follows; without any it is all. -/
def modeUsers (text : List Char) : Nat × List Char :=
  let users := text.takeWhile fun c => ['a', 'u', 'g', 'o'].contains c
  let bits := users.foldl (fun bits c => bits ||| (match c with
    | 'u' => 0o100
    | 'g' => 0o010
    | 'o' => 0o001
    | _ => 0o111)) 0
  (bits, text.drop users.length)

/-- The permissions after changes that are written with letters. The changes refer to those at the
start. -/
def changedMode (start : Nat) : Nat → Nat → Nat → List Char → Option Nat
  | 0, _, _, _ => none
  | _, mode, _, [] => some mode
  | fuel + 1, mode, users, text =>
      let (more, rest) := modeUsers text
      let users := users ||| more
      let users := if users == 0 then 0o111 else users
      match rest with
      | sign :: rest =>
          if !(['=', '+', '-'] : List Char).contains sign then none
          else
            let letters := rest.takeWhile fun c =>
              ['r', 'w', 'x', 'u', 'g', 'o', 'X', 's'].contains c
            let value := letters.foldl (fun bits c => bits ||| (match c with
              | 'r' => 4
              | 'w' => 2
              | 'x' => 1
              | 'u' => start >>> 6
              | 'g' => start >>> 3
              | 'o' => start
              | 'X' => if start &&& 0o111 != 0 then 1 else 0
              | _ => 0)) 0
            let bits := (value &&& 7) * users
            let mode := match sign with
              | '-' => mode &&& (0o777 ^^^ bits)
              | '+' => mode ||| bits
              | _ => bits ||| (mode &&& (0o777 ^^^ (users * 7)))
            match rest.drop letters.length with
            | ',' :: rest => changedMode start fuel mode 0 rest
            | [] => some mode
            | c :: rest =>
                if ['=', '+', '-'].contains c then changedMode start fuel mode users (c :: rest)
                else none
      | [] => none

def umask : Builtin := fun arguments => do
  let (found, arguments) ← flags "S" arguments
  let mask := (← process).mask
  match arguments with
  | [] =>
      if has found 'S' then
        let part (shift : Nat) : List Char :=
          let bits := (0o777 ^^^ mask) >>> shift
          (if bits &&& 4 != 0 then ['r'] else []) ++ (if bits &&& 2 != 0 then ['w'] else []) ++
            (if bits &&& 1 != 0 then ['x'] else [])
        ok (octets "u=" ++ part 6 ++ octets ",g=" ++ part 3 ++ octets ",o=" ++ part 0 ++ ['\n'])
      else
        let digits := Text.numeral 8 mask
        ok (List.replicate (4 - digits.length) '0' ++ digits ++ ['\n'])
  | mode :: _ =>
      let isNumber := (mode.head?.map Text.isDigit).getD false
      let start := 0o777 ^^^ mask
      let mask? := if isNumber then Text.readNumeral? 8 mode
        else (changedMode start (mode.length + 1) start 0 mode).map fun mode => 0o777 ^^^ mode
      match mask? with
      | some mask => modifyProcess fun p => { p with mask := mask % 0o1000 }; ok
      | none => fail (octets (if isNumber then "Illegal number: " else "Illegal mode: ") ++ mode)

def times : Builtin := fun _ =>
  ok (octets "0m0.000000s 0m0.000000s\n0m0.000000s 0m0.000000s\n")

/-- What is limited: the letter, the name, and how much there may be. -/
def limits : List (Char × String × String) :=
  [('t', "time(seconds)", "unlimited"), ('f', "file(blocks)", "unlimited"),
   ('d', "data(kbytes)", "unlimited"), ('s', "stack(kbytes)", "8192"),
   ('c', "coredump(blocks)", "unlimited"), ('m', "memory(kbytes)", "unlimited"),
   ('l', "locked memory(kbytes)", "8192"), ('p', "process", "unlimited"),
   ('n', "nofiles", "1048576"), ('v', "vmemory(kbytes)", "unlimited"),
   ('w', "locks", "unlimited"), ('r', "rtprio", "0")]

/-- Shows limits. Those that are set are not kept, for nothing comes near to them. -/
def ulimit : Builtin := fun arguments => do
  let letters := if ← isWide then "HSabcdefiklmnpqrstuvxPRT" else "HSatfdscmlpnvwr"
  let (found, values) ← flags letters arguments
  match values with
  | [] =>
      if has found 'a' then
        ok (limits.flatMap fun (_, name, value) =>
          padRight 20 (octets name) ++ ' ' :: octets value ++ ['\n'])
      else
        let letter := ((found.map Prod.fst).filter fun c => c != 'H' && c != 'S').getLastD 'f'
        let value := ((limits.lookup letter).map Prod.snd).getD "unlimited"
        ok (octets value ++ ['\n'])
  | value :: more =>
      if !more.isEmpty then fail (octets "too many arguments")
      if value == octets "unlimited" || (Text.readNumeral? 10 value).isSome then ok
      else fail (octets "bad number")

/-- The octets of an input line as they are split: those behind a backslash stand for
themselves. Gives whether the line is joined to the next one. -/
def inputGlyphs (raw : Bool) : List Char → List Glyph × Bool
  | [] => ([], false)
  | '\\' :: rest =>
      if raw then
        let (more, joins) := inputGlyphs raw rest
        (.octet '\\' false true :: more, joins)
      else match rest with
        | [] => ([], false)
        | '\n' :: _ => ([], true)
        | c :: rest =>
            let (more, joins) := inputGlyphs raw rest
            (.octet c true false :: more, joins)
  | '\n' :: rest => inputGlyphs raw rest
  | '\x00' :: rest => inputGlyphs raw rest
  | c :: rest =>
      let (more, joins) := inputGlyphs raw rest
      (.octet c false true :: more, joins)

/-- Reads lines until one is not joined to the next; gives whether it was complete. -/
def inputLine (raw : Bool) (channel : Nat) : Act (List Glyph × Bool) :=
  iterate (fun (before : List Glyph) => do
    match ← readLine channel with
    | .error _ => return .inr (before, false)
    | .ok text =>
        let (glyphs, joins) := inputGlyphs raw text
        if joins && !text.isEmpty then return .inl (before ++ glyphs)
        else return .inr (before ++ glyphs, text.getLast? == some '\n')) manyTimes []

def read : Builtin := fun arguments => do
  let (found, names) ← flags (if ← isWide then "rsep:a:d:n:N:t:u:i:" else "rp:") arguments
  let wide ← isWide
  match found.lookup 'p' with
  | some prompt => if !wide then emit 2 prompt
  | none => pure ()
  if names.isEmpty && !wide then fail (octets "arg count")
  let channel := ((found.lookup 'u').bind (Text.readNumeral? 10)).getD 0
  let (glyphs, complete) ← inputLine (has found 'r') channel
  let separators := (← process).separators
  let text (field : List Glyph) : List Char := Glyph.text field
  match found.lookup 'a' with
  | some name =>
      let values := (Glyph.fields separators none glyphs).map text
      setValue name (.list false (values.mapIdx fun i v => (numeral i, v)))
  | none =>
      if names.isEmpty then assign (octets "REPLY") (text glyphs)
      else
        let fields := (Glyph.fields separators (some names.length) glyphs).map text
        (names.mapIdx fun i name => (i, name)).forM fun (i, name) =>
          assign name ((fields[i]?).getD [])
  return (if complete then 0 else 1, [])

end Builtin

end ClusterLaunch.Shell
