import ClusterLaunch.Shell.Brace
import ClusterLaunch.Shell.Builtin.Names

/-!
Expanding words: parameters, sums and the output of commands are put in their place,
and what is not quoted is split into fields and matched with the names of files. How
the output of a command comes about is left to whoever expands.
-/

namespace ClusterLaunch.Shell

/-- What a parameter stands for. -/
inductive Subject
  | one (value : Option (List Char))
  /-- Several values; as a whole they are one text between quotes. -/
  | many (values : List (List Char)) (whole : Bool)

namespace Process

def joint (p : Process) : List Char :=
  match p.value? (octets "IFS") with
  | some text => text.take 1
  | none => [' ']

def optionLetters (p : Process) : List Char :=
  (if p.dialect == .wide then ['h', 'B'] else []) ++
    Builtin.options.filterMap fun (letter, name) => if p.has name then letter else none

def shownLine (p : Process) : Nat :=
  if p.functionLine == 0 then p.line else p.line + 1 - p.functionLine

def parameter? (p : Process) (name : List Char) : Option (List Char) :=
  match name with
  | ['#'] => some (numeral p.parameters.length)
  | ['?'] => some (numeral p.status)
  | ['-'] => some p.optionLetters
  | ['$'] => some (numeral p.root)
  | ['!'] => p.behind.map numeral
  | ['0'] => some p.name
  | _ =>
      match Text.readNumeral? 10 name with
      | some 0 => some p.name
      | some n => p.parameters[n - 1]?
      | none =>
          match p.value? name with
          | some value => some value
          | none =>
              if p.dialect == .wide && name == octets "LINENO" then some (numeral p.shownLine)
              else none

/-- A word with its tildes replaced by directories; in an assignment they also stand behind
colons. -/
def withHomes (p : Process) (assigned : Bool) (w : Word) : Word :=
  go true w
where
  home? (name : List Char) : Option (List Char) :=
    if name.isEmpty then (p.value? (octets "HOME"))
    else if name == octets "root" then some (octets "/root")
    else if p.dialect == .wide && name == ['+'] then some p.directory
    else none
  /-- The tilde at the front of a text, of which the word ends there if `ends`. -/
  front (ends : Bool) (text : List Char) : Option (List Char × List Char) :=
    match text with
    | '~' :: rest =>
        let name := rest.takeWhile fun c => c != '/' && !(assigned && c == ':')
        let after := rest.drop name.length
        if after.isEmpty && !ends then none
        else (home? name).map fun directory => (directory, after)
    | _ => none
  texts (ends : Bool) : Bool → List (List Char) → Word → Word
    | _, [], tail => tail
    | lead, part :: parts, tail =>
        let colon := if lead then [] else [':']
        let tail := texts ends false parts tail
        match front (ends || !parts.isEmpty) part with
        | some (directory, after) =>
            let tail := .quotes :: literal after false tail
            (if colon.isEmpty then [] else [.plain colon false]) ++ .plain directory true :: tail
        | none => literal (colon ++ part) false tail
  go (start : Bool) : Word → Word
    | [] => []
    | .plain text false :: rest =>
        if !text.contains '~' then .plain text false :: go false rest
        else if assigned then
          let pieces := Text.pieces (· == ':') text
          let tail := go false rest
          if start then texts rest.isEmpty true pieces tail
          else match pieces with
            | [] => tail
            | first :: others =>
                literal first false (texts rest.isEmpty false others tail)
        else match if start then front rest.isEmpty text else none with
          | some (directory, after) => .plain directory true :: .quotes :: literal after false rest
          | none => .plain text false :: rest
    | piece :: rest => piece :: go false rest

end Process

namespace Subject

def text (p : Process) : Subject → List Char
  | .one value => value.getD []
  | .many values _ => p.joint.intercalate values

/-- The glyphs of a parameter where fields are made if `split`. -/
def glyphs (p : Process) (split quoted : Bool) (s : Subject) : List Glyph :=
  match s with
  | .one value => .border :: Glyph.ofText (value.getD []) quoted (!quoted)
  | .many values whole =>
      let parts := values.map fun v => Glyph.ofText v quoted (!quoted)
      if split && !quoted then .border :: [Glyph.between].intercalate parts
      else if split && !whole then
        if parts.isEmpty then [] else .mark :: [Glyph.gap].intercalate parts
      else .border :: Glyph.ofText (p.joint.intercalate values) quoted (!quoted)

def map (f : List Char → List Char) : Subject → Subject
  | .one value => .one (value.map f)
  | .many values whole => .many (values.map f) whole

end Subject

namespace Expansion

open Act

abbrev Output := Command → Act (List Char)

/-- How deep words may stand in each other. -/
def depth : Nat := 500

def sumOf (text : List Char) : Act Int := do
  let p ← process
  let look (name : List Char) : Except Arithmetic.Fault Int :=
    let base := name.takeWhile (· != '[')
    let value := if base.length == name.length then p.parameter? name
      else
        let index := (name.drop (base.length + 1)).dropLast
        let index := if isName index then (p.value? index).getD ['0'] else index
        (itemsOf (p.bound? base)).lookup index
    match value with
    | none => .ok 0
    | some text =>
        match Arithmetic.valueOf text with
        | .error fault =>
            if p.dialect == .wide then
              .ok (((p.value? text).bind fun t => (Arithmetic.valueOf t).toOption).getD 0)
            else .error fault
        | found => found
  match Arithmetic.value ⟨p.dialect, look⟩ text with
  | .ok (n, assigned) =>
      assigned.forM fun (name, n) => do
        let base := name.takeWhile (· != '[')
        if base.length == name.length then assign name (signed n)
        else setItem base ((name.drop (base.length + 1)).dropLast) (signed n)
      return n
  | .error (.misread reason) =>
      if p.dialect == .wide then
        let reason := if reason == "division by zero" then "division by 0" else "syntax error"
        fail (text ++ octets (": " ++ reason)) 1
      else fail (octets ("arithmetic expression: " ++ reason ++ ": \"") ++ text ++ ['"'])
  | .error (.illegalNumber number) => fail (octets "Illegal number: " ++ number)

def failUnset {α : Type} (name : List Char) : Act α := do
  if ← isWide then fail (name ++ octets ": unbound variable") 1
  else fail (name ++ octets ": parameter not set")

/-- A part of a text, or of a list, from an offset on; ends may be counted from behind. -/
def part {α : Type} (offset : Int) (count : Option Int) (values : List α) : List α :=
  let size : Int := values.length
  let start := if offset < 0 then size + offset else offset
  if start < 0 || size < start then []
  else
    let rest := values.drop start.toNat
    match count with
    | none => rest
    | some n => if n < 0 then rest.take ((rest.length : Int) + n).toNat else rest.take n.toNat

/-- A text with its first letter, or all of them, in another case. -/
def recased (sign : Char) (all : Bool) (text : List Char) : List Char :=
  let change (c : Char) : Char := if sign == '^' then c.toUpper else c.toLower
  if all then text.map change
  else match text with
    | [] => []
    | c :: rest => change c :: rest

def replaced (place : Char) (pattern : Pattern) (replacement text : List Char) : List Char :=
  if place == '#' then
    match Pattern.atFront? true pattern text with
    | some n => replacement ++ text.drop n
    | none => text
  else if place == '%' then
    match ((List.range (text.length + 1)).reverse).find? fun n =>
        pattern.fits (text.drop (text.length - n)) with
    | some n => text.take (text.length - n) ++ replacement
    | none => text
  else Pattern.replace (place == '/') pattern replacement (text.length + 1) text

/-- Whether an index asks for all values of a list. -/
def isAll : Option Word → Bool
  | some w => unquoted w == ['@'] || unquoted w == ['*']
  | none => false

/-- Whether a parameter stands for several values that stay apart between quotes. -/
def staysApart (name : List Char) (index : Option Word) : Bool :=
  name == ['@'] || (index.map unquoted) == some ['@']

/-- A word in which quotes around a list of values are left away, as they make no field. -/
def withoutIdleQuotes : Word → Word
  | .quotes :: .param name index .value true :: .quotes :: rest =>
      if staysApart name index then .param name index .value true :: withoutIdleQuotes rest
      else .quotes :: .param name index .value true :: .quotes :: withoutIdleQuotes rest
  | piece :: rest => piece :: withoutIdleQuotes rest
  | [] => []

def valuesOf (p : Process) (name : List Char) : List (List Char) :=
  (itemsOf (p.bound? name)).map Prod.snd

/-- What a parameter stands for, once the text of its index is known. -/
def subject (name : List Char) (index : Option (List Char)) : Act Subject := do
  let p ← process
  match index with
  | none =>
      if name == ['@'] || name == ['*'] then return .many p.parameters (name == ['*'])
      return .one (p.parameter? name)
  | some ['@'] => return .many (valuesOf p name) false
  | some ['*'] => return .many (valuesOf p name) true
  | some index =>
      match (p.bound? name).bind Variable.value with
      | some (.list true items) => return .one (items.lookup index)
      | _ =>
          let items := itemsOf (p.bound? name)
          let n ← sumOf index
          let last := (items.getLast?).bind fun (i, _) => Text.readNumeral? 10 i
          let n := if n < 0 then n + ((last.map fun l => (l : Int) + 1).getD 0) else n
          return .one (items.lookup (signed n))

mutual

def piece (output : Output) (split : Bool) : Nat → Piece → Act (List Glyph)
  | 0, _ => throw .endless
  | fuel + 1, p => do
      match p with
      | .plain text quoted => return Glyph.ofText text quoted false
      | .quotes => return [.mark]
      | .sum expression quoted =>
          let n ← sumOf (Glyph.text (← pieces output false fuel expression))
          return .border :: Glyph.ofText (signed n) quoted (!quoted)
      | .output script quoted =>
          return .border :: Glyph.ofText (← output script) quoted (!quoted)
      | .param name index form quoted => param output split name index form quoted fuel
      | .list _ => return []
termination_by structural fuel => fuel

def pieces (output : Output) (split : Bool) : Nat → Word → Act (List Glyph)
  | 0, _ => throw .endless
  | fuel + 1, w =>
      match w with
      | [.plain text quoted] => return Glyph.ofText text quoted false
      | _ => do
          let parts ← (withoutIdleQuotes w).mapM (piece output split fuel)
          return parts.flatten
termination_by structural fuel => fuel

def param (output : Output) (split : Bool) (name : List Char) (index : Option Word) (form : Form)
    (quoted : Bool) : Nat → Act (List Glyph)
  | 0 => throw .endless
  | fuel + 1 => do
      let textOf (w : Word) : Act (List Char) := do
        return Glyph.text (← pieces output false fuel w)
      let indexText ← match index with
        | some w => some <$> textOf w
        | none => pure none
      let found ← subject name indexText
      let p ← process
      let wide := p.dialect == .wide
      let given (s : Subject) : List Glyph := s.glyphs p split quoted
      let shown (text : List Char) : List Glyph := given (.one (some text))
      let isUnset := match found with
        | .one value => value.isNone
        | .many values _ => wide && values.isEmpty
      let isBlank := isUnset || (found.text p).isEmpty
      let complete : Act Unit := do
        if isUnset && p.has "nounset" && index.isNone && name != ['@'] && name != ['*'] then
          failUnset name
      let inner (w : Word) : Act (List Glyph) := do
        let glyphs ← pieces output split fuel (if quoted then w else p.withHomes false w)
        return .border :: (if quoted then glyphs else glyphs.map fun
          | .octet c false _ => .octet c false true
          | g => g)
      let pattern (w : Word) : Act Pattern := do
        return Glyph.pattern wide (← pieces output false fuel w)
      match form with
      | .wrong =>
          if wide then fail (octets "bad substitution") 1 else fail (octets "Bad substitution")
      | .value => complete; return given found
      | .length =>
          complete
          match found with
          | .many values _ =>
              return shown (numeral (if wide then values.length else (found.text p).length))
          | .one value => return shown (numeral (value.getD []).length)
      | .orElse blank w =>
          if if blank then isBlank else isUnset then inner w else return given found
      | .andThen blank w =>
          if if blank then isBlank else isUnset then return [.border] else inner w
      | .orAssign blank w =>
          if if blank then isBlank else isUnset then
            let text ← textOf (p.withHomes false w)
            match indexText with
            | some index => setItem name index text
            | none => assign name text
            return shown (((← process).parameter? name).getD text)
          else return given found
      | .orFail blank w =>
          if if blank then isBlank else isUnset then
            let text ← textOf w
            let text := if w.isEmpty then
                octets (if blank then "parameter not set or null" else
                  if wide then "parameter null or not set" else "parameter not set")
              else text
            fail (name ++ octets ": " ++ text) (if wide then 1 else 2)
          else return given found
      | .trim atEnd longest w =>
          complete
          let pattern ← pattern w
          return given (found.map (Pattern.trim atEnd longest pattern))
      | .part offset count =>
          complete
          let offset ← sumOf (← textOf offset)
          let count ← match count with
            | some w => some <$> sumOf (← textOf w)
            | none => pure none
          match found with
          | .one value => return shown (part offset count (value.getD []))
          | .many values whole =>
              let values := if index.isNone then p.name :: values else values
              return given (.many (part offset count values) whole)
      | .replace place w replacement =>
          complete
          let pattern ← pattern w
          let replacement ← textOf replacement
          return given (found.map (replaced place pattern replacement))
      | .recase sign all => complete; return given (found.map (recased sign all))
      | .indirect =>
          let target := found.text p
          return given (← subject target none)
      | .names =>
          let names := (p.bindings.map Prod.fst).filter fun n => begins n (String.ofList name)
          return given (.many (sorted names) false)
      | .indices => return given (.many ((itemsOf (p.bound? name)).map Prod.fst) false)
      | .requote => complete; return given (found.map Builtin.quoted)
termination_by structural fuel => fuel

end

def text (output : Output) (w : Word) (assigned : Bool := false) : Act (List Char) := do
  match w with
  | [.plain text true] => return text
  | _ => return Glyph.text (← pieces output false depth ((← process).withHomes assigned w))

def pattern (output : Output) (w : Word) : Act Pattern := do
  return Glyph.pattern (← isWide) (← pieces output false depth ((← process).withHomes false w))

def paths (field : List Glyph) : Act (List (List Char)) := do
  let marked := Glyph.marked field
  if !Pattern.isMagic marked then return [Glyph.text field]
  let s ← get
  let p := s.process
  if p.has "noglob" then return [Glyph.text field]
  let wide := p.dialect == .wide
  match s.machine.storage.fitting p.place wide (!wide) [] (Glyph.parts marked) with
  | [] => return [Glyph.text field]
  | found => return found

def fields (output : Output) (w : Word) : Act (List (List Char)) := do
  match w with
  | [.plain text false] =>
      let magic : List Char := ['~', '*', '?', '[', '\x7b']
      if !text.isEmpty && (text.all fun c => !magic.contains c) then
        return [text]
  | _ => pure ()
  let p ← process
  let each (w : Word) : Act (List (List Char)) := do
    let glyphs ← pieces output true depth (p.withHomes false w)
    return (← (Glyph.fields (← process).separators none glyphs).mapM paths).flatten
  if p.dialect == .wide then return (← (Brace.words w).mapM each).flatten
  each w

end Expansion

end ClusterLaunch.Shell
