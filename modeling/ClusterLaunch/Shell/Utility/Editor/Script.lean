import ClusterLaunch.Shell.Expression

/-!
Scripts of the line editor: instructions, each of them for some of the lines. This
module holds what a script is, and how one is read from a text.
-/

namespace ClusterLaunch.Shell.Editor

open Text (Regex)

/-- A line, or all lines of a kind. -/
inductive Address
  | line (number : Nat)
  /-- Every line at a distance from the first one. -/
  | every (first distance : Nat)
  | last
  /-- Lines that fit an expression; without one, that which was used last. -/
  | fit (expression : Option Regex)
  /-- So many lines after the start of a range. -/
  | later (count : Nat)
  /-- The next line whose number is a multiple. -/
  | multiple (of : Nat)

/-- The lines that an instruction is meant for. -/
structure Selection where
  first : Option Address := none
  second : Option Address := none
  negated : Bool := false

/-- How the case of letters is changed. -/
inductive Casing
  | upper
  | lower
  deriving DecidableEq

/-- A part of what a match is replaced by. -/
inductive Part
  | text (text : List Char)
  | group (index : Nat)
  /-- The case of what follows, until another one is asked for. -/
  | casing (casing : Option Casing)
  /-- The case of the next letter. -/
  | nextCasing (casing : Casing)

structure Substitution where
  expression : Option Regex
  parts : List Part
  /-- The first match that is replaced, and whether those after it are. -/
  first : Nat := 1
  onward : Bool := false
  prints : Bool := false
  file : Option (List Char) := none

/-- When a jump is made: always, or if something was replaced since the line was read or a jump
was made, or if not. -/
inductive Jump
  | always
  | replaced
  | unreplaced

inductive Edit
  /-- A block, up to the instruction of a number. -/
  | block (past : Nat)
  | close
  | label (name : List Char)
  | jump (condition : Jump) (label : List Char)
  | append (text : List Char)
  | insert (text : List Char)
  | change (text : List Char)
  | substitute (s : Substitution)
  | replaceOctets (pairs : List (Char × Char))
  | delete
  | deleteFirst
  | print
  | printFirst
  | printNumber
  | printName
  | printVisibly (width : Option Nat)
  | next
  | appendNext
  | recall
  | appendRecall
  | keep
  | appendKeep
  | exchange
  | clear
  | quit (silently : Bool) (status : Nat)
  | insertFile (path : List Char)
  | insertLine (path : List Char)
  | write (path : List Char) (firstOnly : Bool)

structure Instruction where
  selection : Selection
  edit : Edit

structure Script where
  instructions : Array Instruction := #[]
  /-- Whether lines are printed only if they are asked for. -/
  silent : Bool := false

/-- Why a text is no script, and how much of it was left when that was noticed; none if that
is not said. -/
structure Fault where
  message : List Char
  left : Option Nat

/-- How a script is to be read. -/
structure Style where
  /-- Whether expressions are written in the extended way. -/
  extended : Bool := false
  /-- Whether lines end with a zero instead of a line feed. -/
  zeros : Bool := false

/-- A script that is being read. -/
structure Draft where
  rest : List Char
  script : Script := {}
  /-- The instructions that begin the open blocks. -/
  opened : List Nat := []

abbrev Reading := ReaderT Style (StateT Draft (Except Fault))

def wrong {α : Type} (message : String) : Reading α := do
  throw ⟨octets message, some (← get).rest.length⟩

def next? : Reading (Option Char) := do
  match (← get).rest with
  | [] => return none
  | c :: rest => modify fun d => { d with rest }; return some c

def back (c? : Option Char) : Reading Unit :=
  match c? with
  | some c => modify fun d => { d with rest := c :: d.rest }
  | none => pure ()

def isBlank (c : Char) : Bool := c == ' ' || c == '\t'

def skipBlanks : Reading Unit :=
  modify fun d => { d with rest := d.rest.dropWhile isBlank }

def nonblank? : Reading (Option Char) := do
  skipBlanks
  next?

/-- The number whose first digit has been read. -/
def number (first : Char) : Reading Nat := do
  let rest := (← get).rest
  let digits := rest.takeWhile Text.isDigit
  modify fun d => { d with rest := rest.drop digits.length }
  return Text.digitsValue (first :: digits)

def number? : Reading (Option Nat) := do
  match ← nonblank? with
  | some c => if Text.isDigit c then return some (← number c) else back (some c); return none
  | none => return none

/-- In lines that end with a zero, line feeds and zeros change places. -/
def swapped (c : Char) : Char :=
  if c == '\n' then '\x00' else if c == '\x00' then '\n' else c

def laidOut (text : List Char) : Reading (List Char) := do
  return if (← read).zeros then text.map swapped else text

/-- What stands up to a delimiter, which a backslash makes ordinary. -/
def upTo (delimiter : Char) (isExpression : Bool) : Nat → List Char → List Char →
    Option (List Char × List Char)
  | 0, _, _ => none
  | _, _, [] => none
  | fuel + 1, before, c :: rest =>
      if c == delimiter then some (before.reverse, rest)
      else if c == '\n' && isExpression then none
      else if c == '\\' then
        match rest with
        | [] => none
        | d :: rest =>
            if d == 'n' && isExpression && delimiter != 'n' then
              upTo delimiter isExpression fuel ('\n' :: before) rest
            else if d == delimiter && (isExpression || d != '&') then
              upTo delimiter isExpression fuel (d :: before) rest
            else upTo delimiter isExpression fuel (d :: '\\' :: before) rest
      else upTo delimiter isExpression fuel (c :: before) rest

def delimited (delimiter : Char) (isExpression : Bool) (message : String) :
    Reading (List Char) := do
  let rest := (← get).rest
  match upTo delimiter isExpression (rest.length + 1) [] rest with
  | some (text, rest) => modify fun d => { d with rest }; return text
  | none =>
      modify fun d =>
        { d with rest := if isExpression then d.rest.dropWhile (· != '\n') else [] }
      wrong message

/-- The character that letters behind a backslash stand for, and what follows them. -/
def character? (text : List Char) : Option (Char × List Char) :=
  let coded (base most : Nat) (rest : List Char) : Option (Char × List Char) :=
    let digits := (rest.take most).takeWhile fun c =>
      ((Text.hexValue? c).map fun n => decide (n < base)).getD false
    if digits.isEmpty then none
    else some (Char.ofNat (((Text.readNumeral? base digits).getD 0) % 256), rest.drop digits.length)
  match text with
  | 'a' :: rest => some ('\x07', rest)
  | 'f' :: rest => some ('\x0c', rest)
  | 'r' :: rest => some ('\r', rest)
  | 't' :: rest => some ('\t', rest)
  | 'v' :: rest => some ('\x0b', rest)
  | 'c' :: c :: rest => some (Char.ofNat (c.toUpper.toNat ^^^ 64), rest)
  | 'd' :: rest => coded 10 3 rest
  | 'o' :: rest => coded 8 3 rest
  | 'x' :: rest => coded 16 2 rest
  | _ => none

/-- An expression in which all characters stand for themselves that were written by letters. -/
def spelledOut : Nat → List Char → List Char
  | 0, text => text
  | _, [] => []
  | fuel + 1, '\\' :: rest =>
      match character? rest with
      | some (c, rest) =>
          if "$*.[\\]^".toList.contains c then '\\' :: c :: spelledOut fuel rest
          else c :: spelledOut fuel rest
      | none =>
          match rest with
          | c :: rest => '\\' :: c :: spelledOut fuel rest
          | [] => ['\\']
  | fuel + 1, c :: rest => c :: spelledOut fuel rest

def byLines : Regex → Regex
  | .edge .start => .edge .lineStart
  | .edge .stop => .edge .lineStop
  | .both a b => .both (byLines a) (byLines b)
  | .either a b => .either (byLines a) (byLines b)
  | .many least most eager body => .many least most eager (byLines body)
  | .group index body => .group index (byLines body)
  | r => r

/-- The expression that a text writes; none for an empty text. -/
def expression (text : List Char) (caseless lines : Bool) : Reading (Option Regex) := do
  if text.isEmpty then return none
  match Expression.read (← read).extended (← laidOut (spelledOut (text.length + 1) text)) with
  | .error fault => wrong fault.message
  | .ok r =>
      let r := if caseless then Expression.caseless r else r
      return some (if lines then byLines r else r)

def parts : Nat → List Char → List Part
  | 0, _ => []
  | _, [] => []
  | fuel + 1, '\\' :: rest =>
      match character? rest, rest with
      | some (c, rest), _ => .text [c] :: parts fuel rest
      | none, [] => [.text ['\\']]
      | none, c :: rest =>
          let part : Part := match c with
            | 'L' => .casing (some .lower)
            | 'U' => .casing (some .upper)
            | 'E' => .casing none
            | 'l' => .nextCasing .lower
            | 'u' => .nextCasing .upper
            | 'n' => .text ['\n']
            | _ => if Text.isDigit c then .group (c.toNat - 48) else .text [c]
          part :: parts fuel rest
  | fuel + 1, '&' :: rest => .group 0 :: parts fuel rest
  | fuel + 1, text =>
      let plain := text.takeWhile fun c => c != '\\' && c != '&'
      .text plain :: parts fuel (text.drop plain.length)

def address? (c : Char) : Reading (Option Address) := do
  let fitting (delimiter : Char) : Reading (Option Address) := do
    let text ← delimited delimiter true "unterminated address regex"
    let rec flags (caseless lines : Bool) : Nat → Reading (Bool × Bool)
      | 0 => return (caseless, lines)
      | fuel + 1 => do
          match ← nonblank? with
          | some 'I' => flags true lines fuel
          | some 'M' => flags caseless true fuel
          | other => back other; return (caseless, lines)
    let (caseless, lines) ← flags false false ((← get).rest.length + 1)
    return some (.fit (← expression text caseless lines))
  match c with
  | '/' => fitting '/'
  | '\\' =>
      match ← next? with
      | some delimiter => fitting delimiter
      | none => wrong "unterminated address regex"
  | '$' => return some .last
  | '+' | '~' =>
      match ← number? with
      | some n => return some (if c == '+' then .later n else .multiple n)
      | none => return some (if c == '+' then .later 0 else .multiple 0)
  | _ =>
      if !Text.isDigit c then return none
      let n ← number c
      match ← nonblank? with
      | some '~' =>
          let distance := (← number?).getD 0
          return some (if distance == 0 then .line n else .every n distance)
      | other => back other; return some (.line n)

/-- Sees to it that nothing else stands behind an instruction. -/
def endOfEdit : Reading Unit := do
  match ← nonblank? with
  | some '\x7d' => back (some '\x7d')
  | some '#' => back (some '#')
  | none | some '\n' | some ';' => return
  | some _ => wrong "extra characters after command"

/-- What stands up to the end of the line. -/
def fileName : Reading (List Char) := do
  skipBlanks
  let rest := (← get).rest
  let name := rest.takeWhile (· != '\n')
  modify fun d => { d with rest := rest.drop name.length }
  if name.isEmpty then wrong "missing filename in r/R/w/W commands"
  return name

def labelName (isJump : Bool) : Reading (List Char) := do
  skipBlanks
  let rest := (← get).rest
  let name := rest.takeWhile fun c =>
    !(c.isWhitespace || c == ';' || (isJump && c == '\x7d'))
  modify fun d => { d with rest := rest.drop name.length }
  return name

/-- The text that an instruction adds, up to the end of a line that no backslash precedes. -/
def addedText : Nat → List Char → List Char → List Char × List Char
  | 0, before, rest => (before.reverse, rest)
  | _, before, [] => (before.reverse, [])
  | _, before, '\n' :: rest => (before.reverse, rest)
  | fuel + 1, before, '\\' :: rest =>
      match character? rest, rest with
      | some (c, rest), _ => addedText fuel (c :: before) rest
      | none, c :: rest => addedText fuel (c :: before) rest
      | none, [] => (before.reverse, [])
  | fuel + 1, before, c :: rest => addedText fuel (c :: before) rest

def added : Reading (List Char) := do
  match ← nonblank? with
  | none => wrong "expected \\ after \x60a', \x60c' or \x60i'"
  | some '\\' =>
      -- the text begins on the next line, or right here
      let rest := (← get).rest
      let bare := rest.dropWhile isBlank
      match bare with
      | '\n' :: rest => modify fun d => { d with rest }
      | [] => wrong "expected \\ after \x60a', \x60c' or \x60i'"
      | _ => pure ()
  | other => back other
  let rest := (← get).rest
  let (text, rest) := addedText (rest.length + 1) [] rest
  modify fun d => { d with rest }
  return text ++ ['\n']

/-- What stands behind a substitution. -/
structure Flags where
  caseless : Bool := false
  lines : Bool := false
  number : Option Nat := none
  onward : Bool := false
  prints : Bool := false
  file : Option (List Char) := none

def flags : Nat → Flags → Reading Flags
  | 0, f => return f
  | fuel + 1, f => do
      match ← next? with
      | some 'i' | some 'I' => flags fuel { f with caseless := true }
      | some 'm' | some 'M' => flags fuel { f with lines := true }
      | some 'p' =>
          if f.prints then wrong "multiple \x60p' options to \x60s' command"
          flags fuel { f with prints := true }
      | some 'g' =>
          if f.onward then wrong "multiple \x60g' options to \x60s' command"
          flags fuel { f with onward := true }
      | some 'w' => return { f with file := some (← fileName) }
      | some ' ' => flags fuel f
      | none | some '\n' | some ';' => return f
      | some '\x7d' => back (some '\x7d'); return f
      | some '#' => back (some '#'); return f
      | some c =>
          if !Text.isDigit c then wrong "unknown option to \x60s'"
          if f.number.isSome then wrong "multiple number options to \x60s' command"
          let n ← number c
          if n == 0 then wrong "number option to \x60s' command may not be zero"
          flags fuel { f with number := some n }

def substitution : Reading Substitution := do
  let unfinished := "unterminated \x60s' command"
  match ← next? with
  | none => wrong unfinished
  | some delimiter =>
      if delimiter == '\n' || delimiter == '\\' then wrong unfinished
      let text ← delimited delimiter true unfinished
      let replacement ← delimited delimiter false unfinished
      let f ← flags ((← get).rest.length + 1) {}
      let r ← expression text f.caseless f.lines
      let all := parts (replacement.length + 1) (← laidOut replacement)
      let greatest := all.foldl (fun n part => match part with
        | .group index => max n index
        | _ => n) 0
      match r with
      | some r =>
          if r.groupCount < greatest then
            wrong ("invalid reference \\" ++ Text.decimal greatest ++ " on \x60s' command's RHS")
      | none => pure ()
      return ⟨r, all, f.number.getD 1, f.onward, f.prints, f.file⟩

def plainOctets : Nat → List Char → List Char
  | 0, _ => []
  | _, [] => []
  | fuel + 1, '\\' :: rest =>
      match character? rest, rest with
      | some (c, rest), _ => c :: plainOctets fuel rest
      | none, 'n' :: rest => '\n' :: plainOctets fuel rest
      | none, '\\' :: rest => '\\' :: plainOctets fuel rest
      | none, _ => '\\' :: plainOctets fuel rest
  | fuel + 1, c :: rest => c :: plainOctets fuel rest

def octetPairs : Reading (List (Char × Char)) := do
  let unfinished := "unterminated \x60y' command"
  match ← next? with
  | none => wrong unfinished
  | some delimiter =>
      let first ← delimited delimiter false unfinished
      let second ← delimited delimiter false unfinished
      let first ← laidOut (plainOctets (first.length + 1) first)
      let second ← laidOut (plainOctets (second.length + 1) second)
      if first.length != second.length then
        wrong "strings for \x60y' command are different lengths"
      endOfEdit
      return first.zip second

def add (selection : Selection) (edit : Edit) : Reading Unit :=
  modify fun d =>
    { d with script.instructions := d.script.instructions.push ⟨selection, edit⟩ }

/-- The addresses in front of an instruction whose first character is given, and the letter
behind them. -/
def selection (first : Char) : Reading (Selection × Option Char) := do
  let (selected, c?) ← match ← address? first with
    | none => pure (({} : Selection), some first)
    | some a =>
        match a with
        | .later _ | .multiple _ => wrong "invalid usage of +N or ~N as first address"
        | _ => pure ()
        let (second, c?) ← match ← nonblank? with
          | some ',' =>
              let found ← match ← nonblank? with
                | some c => address? c
                | none => pure none
              match found with
              | none => wrong "unexpected \x60,'"
              | some b => pure (some b, ← nonblank?)
          | other => pure (none, other)
        match a, second with
        | .line 0, some (.fit _) => pure ()
        | .line 0, _ => wrong "invalid usage of line address 0"
        | _, _ => pure ()
        pure (⟨some a, second, false⟩, c?)
  if c? != some '!' then return (selected, c?)
  let c? ← nonblank?
  if c? == some '!' then wrong "multiple \x60!'s"
  return ({ selected with negated := true }, c?)

/-- Edits of one letter that stand alone. -/
def plainEdits : List (Char × Edit) :=
  [('=', .printNumber), ('d', .delete), ('D', .deleteFirst), ('F', .printName), ('g', .recall),
   ('G', .appendRecall), ('h', .keep), ('H', .appendKeep), ('n', .next), ('N', .appendNext),
   ('p', .print), ('P', .printFirst), ('z', .clear), ('x', .exchange)]

def instruction (s : Selection) (letter : Char) : Reading Unit := do
  match plainEdits.lookup letter with
  | some edit => endOfEdit; add s edit
  | none =>
      match letter with
      | '#' =>
          if s.first.isSome then wrong "comments don't accept any addresses"
          modify fun d => { d with rest := d.rest.dropWhile (· != '\n') }
      | '\x7b' =>
          modify fun d => { d with opened := d.script.instructions.size :: d.opened }
          add s (.block 0)
      | '\x7d' =>
          match (← get).opened with
          | [] => wrong "unexpected \x60\x7d'"
          | start :: opened =>
              if s.first.isSome then wrong "\x60\x7d' doesn't want any addresses"
              endOfEdit
              modify fun d =>
                { d with
                  opened
                  script.instructions := d.script.instructions.modify start fun i =>
                    { i with edit := .block d.script.instructions.size } }
              add s .close
      | 'a' => add s (.append (← added))
      | 'i' => add s (.insert (← added))
      | 'c' => add s (.change (← added))
      | ':' =>
          if s.first.isSome then wrong ": doesn't want any addresses"
          let name ← labelName false
          if name.isEmpty then wrong "\":\" lacks a label"
          endOfEdit
          add s (.label name)
      | 'b' => let name ← labelName true; endOfEdit; add s (.jump .always name)
      | 't' => let name ← labelName true; endOfEdit; add s (.jump .replaced name)
      | 'T' => let name ← labelName true; endOfEdit; add s (.jump .unreplaced name)
      | 'q' | 'Q' =>
          if s.second.isSome then wrong "command only uses one address"
          let status := (← number?).getD 0
          endOfEdit
          add s (.quit (letter == 'Q') status)
      | 'l' => let width ← number?; endOfEdit; add s (.printVisibly width)
      | 'r' => add s (.insertFile (← fileName))
      | 'R' => add s (.insertLine (← fileName))
      | 'w' => add s (.write (← fileName) false)
      | 'W' => add s (.write (← fileName) true)
      | 's' => add s (.substitute (← substitution))
      | 'y' => add s (.replaceOctets (← octetPairs))
      | _ => throw ⟨octets "unknown command: \x60" ++ [letter, '\''], some (← get).rest.length⟩

def instructions : Nat → Reading Unit
  | 0 => return
  | fuel + 1 => do
      match ← next? with
      | none => return
      | some c =>
          if c.isWhitespace || c == ';' then instructions fuel
          else
            let (s, letter) ← selection c
            match letter with
            | none => wrong "missing command"
            | some letter => instruction s letter
            instructions fuel

def Script.labels (s : Script) : List (List Char × Nat) :=
  (s.instructions.toList.mapIdx fun i x => (i, x)).filterMap fun (i, x) =>
    match x.edit with
    | .label name => some (name, i)
    | _ => none

def readScript (style : Style) (text : List Char) : Except Fault Script := do
  let silent := text.take 2 == ['#', 'n'] && (text.drop 2).head?.getD '\n' == '\n'
  let ((), d) ← ((instructions (text.length + 1)).run style).run { rest := text }
  if !d.opened.isEmpty then throw ⟨octets "unmatched \x60\x7b'", some text.length⟩
  let labels := d.script.labels
  d.script.instructions.toList.forM fun x => do
    match x.edit with
    | .jump _ name =>
        if !name.isEmpty && (labels.lookup name).isNone then
          throw ⟨octets "can't find label for jump to \x60" ++ name ++ ['\''], none⟩
    | _ => pure ()
  return { d.script with silent }

end ClusterLaunch.Shell.Editor
