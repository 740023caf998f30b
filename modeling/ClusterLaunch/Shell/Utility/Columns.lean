import ClusterLaunch.Shell.Utility

/-!
Utilities that know in which column an octet stands. A tab goes on to the next stop,
a backspace goes one column back and a carriage return to the first one.
-/

namespace ClusterLaunch.Shell.Utility

open Act

def isGap (c : Char) : Bool := c == ' ' || c == '\t'

/-! Folding. -/

/-- The column behind an octet; if only octets count, the next one. -/
def columnAfter (byOctets : Bool) (column : Nat) (c : Char) : Nat :=
  if byOctets then column + 1
  else if c == '\x08' then column - 1
  else if c == '\r' then 0
  else if c == '\t' then column + (8 - column % 8)
  else column + 1

/-- How lines are folded. -/
structure Folding where
  width : Nat
  byOctets : Bool := false
  /-- Lines end behind blanks if they have any. -/
  atBlanks : Bool := false

/-- What is done and the line that is open, both in reverse, and the column. -/
structure Fold where
  done : List Char := []
  line : List Char := []
  column : Nat := 0

namespace Folding

/-- The column behind a line in reverse. -/
def columnOf (f : Folding) (line : List Char) : Nat :=
  line.reverse.foldl (columnAfter f.byOctets) 0

/-- Adds an octet, and ends lines that it makes too wide. -/
def add (f : Folding) : Nat → Fold → Char → Fold
  | 0, s, c => { s with line := c :: s.line }
  | fuel + 1, s, c =>
      if c == '\n' then { done := '\n' :: s.line ++ s.done }
      else
        let column := columnAfter f.byOctets s.column c
        if column ≤ f.width then { s with line := c :: s.line, column }
        else
          let tail := s.line.takeWhile fun d => !isGap d
          if f.atBlanks && tail.length < s.line.length then
            add f fuel
              { done := '\n' :: s.line.drop tail.length ++ s.done
                line := tail
                column := f.columnOf tail } c
          else if s.line.isEmpty then { s with line := [c], column }
          else add f fuel { done := '\n' :: s.line ++ s.done } c

def fold (f : Folding) (text : List Char) : List Char :=
  let s := text.foldl (f.add 4) {}
  (s.line ++ s.done).reverse

end Folding

def fold : Utility := fun call =>
  let call := { call with arguments := call.arguments.map fun a => match a with
    | '-' :: c :: rest => if Text.isDigit c then '-' :: 'w' :: c :: rest else a
    | _ => a }
  withOptions
    { letters := "w:sb", long := [("width", 'w'), ("spaces", 's'), ("bytes", 'b')] } call
    fun given names => do
      let wanted := (last? given 'w').getD (octets "80")
      match natural? wanted with
      | none => fail call (octets "invalid number of columns: " ++ quoted wanted)
      | some 0 =>
          fail call (octets "invalid number of columns: " ++ quoted wanted ++
            octets ": Numerical result out of range")
      | some width =>
          let f : Folding := ⟨width, has given 'b', has given 's'⟩
          eachInput call names fun _ text => print (f.fold text)

/-! Tabs. -/

/-- Where tabs stop: every so many columns, or in some columns and then nowhere. -/
inductive Stops
  | each (size : Nat)
  | places (columns : List Nat)

namespace Stops

/-- The next stop behind a column. -/
def next? (s : Stops) (column : Nat) : Option Nat :=
  match s with
  | .each size => some (column + (size - column % size))
  | .places columns => columns.find? fun stop => column < stop

/-- Reads stops; says what is wrong with them. -/
def read (text : List Char) : Except (List Char) Stops := do
  let parts := (Text.pieces (fun c => c == ',' || isGap c) text).filter fun p => !p.isEmpty
  let numbers ← parts.mapM fun part =>
    match natural? part with
    | some n => .ok n
    | none =>
        .error (octets "tab size contains invalid character(s): " ++
          quoted (part.dropWhile Text.isDigit))
  if numbers.contains 0 then .error (octets "tab size cannot be 0")
  else if (numbers.zip (numbers.drop 1)).any fun (a, b) => Nat.ble b a then
    .error (octets "tab sizes must be ascending")
  else match numbers with
    | [] => .ok (.each 8)
    | [size] => .ok (.each size)
    | columns => .ok (.places columns)

end Stops

/-- The options of a utility with stops, in which a number by itself is made one. -/
def withStops (call : Call) : Call :=
  { call with arguments := call.arguments.map fun a => match a with
    | '-' :: c :: rest => if Text.isDigit c then '-' :: 't' :: c :: rest else a
    | _ => a }

/-- Where the reading of a line stands: in which column, and whether blanks still count. -/
structure Caret where
  column : Nat := 0
  counts : Bool := true

/-- A text with blanks for its tabs; only for those in front of a line unless `all`. -/
def withoutTabs (stops : Stops) (all : Bool) (text : List Char) : List Char :=
  let step (state : List Char × Caret) (c : Char) : List Char × Caret :=
    let (done, s) := state
    if c == '\n' then (c :: done, {})
    else if !s.counts then (c :: done, s)
    else
      let counts := all || isGap c
      if c == '\t' then
        let stop := (stops.next? s.column).getD (s.column + 1)
        (List.replicate (stop - s.column) ' ' ++ done, ⟨stop, counts⟩)
      else (c :: done, ⟨if c == '\x08' then s.column - 1 else s.column + 1, counts⟩)
  (text.foldl step ([], {})).1.reverse

def expand : Utility := fun call =>
  let call := withStops call
  withOptions { letters := "t:i", long := [("tabs", 't'), ("initial", 'i')] } call
    fun given names => do
      match Stops.read ((last? given 't').getD []) with
      | .error message => fail call message
      | .ok stops =>
          eachInput call names fun _ text => print (withoutTabs stops (!has given 'i') text)

/-- Blanks that may yet become a tab. -/
structure Held where
  caret : Caret := {}
  blanks : List Char := []
  /-- The first of them stands right before a stop. -/
  before : Bool := false
  /-- What came last was a blank. -/
  afterBlank : Bool := true

/-- Takes up an octet of a line; gives what is written, in reverse, and what is held. -/
def holdBlanks (stops : Stops) (all : Bool) (h : Held) (c : Char) : List Char × Held :=
  let flushed : List Char :=
    match h.blanks with
    | _ :: second :: rest =>
        if h.before then (second :: rest).reverse ++ ['\t'] else h.blanks.reverse
    | blanks => blanks.reverse
  if c == '\n' then (c :: flushed, {})
  else if !h.caret.counts then ([c], h)
  else if isGap c then
    match stops.next? h.caret.column with
    | none =>
        (c :: flushed, { caret := ⟨h.caret.column, false⟩, afterBlank := true })
    | some stop =>
        let kept : List Char := if h.before then ['\t'] else []
        if c == '\t' then
          -- blanks before a tab are part of it
          let lead := if h.blanks.isEmpty then [] else kept
          ('\t' :: lead, { caret := ⟨stop, true⟩ })
        else
          let column := h.caret.column + 1
          if h.afterBlank && column == stop then
            ('\t' :: kept, { caret := ⟨column, true⟩ })
          else
            ([], { caret := ⟨column, true⟩
                   blanks := h.blanks ++ [c]
                   before := h.before || column == stop
                   afterBlank := true })
  else
    let column := if c == '\x08' then h.caret.column - 1 else h.caret.column + 1
    (c :: flushed, { caret := ⟨column, all⟩, afterBlank := false })

/-- A text with tabs for its blanks; only for those in front of a line unless `all`. -/
def withTabs (stops : Stops) (all : Bool) (text : List Char) : List Char :=
  let (done, held) := text.foldl
    (fun ((done, held) : List Char × Held) c =>
      let (written, held) := holdBlanks stops all held c
      (written ++ done, held)) ([], {})
  (held.blanks.reverse ++ done).reverse

def unexpand : Utility := fun call =>
  let call := withStops call
  withOptions
    { letters := "t:a", long := [("tabs", 't'), ("all", 'a'), ("first-only", 'F')] } call
    fun given names => do
      match Stops.read ((last? given 't').getD []) with
      | .error message => fail call message
      | .ok stops =>
          let all := (has given 'a' || has given 't') && !has given 'F'
          eachInput call names fun _ text => print (withTabs stops all text)

end ClusterLaunch.Shell.Utility
