import ClusterLaunch.Shell.Format
import ClusterLaunch.Shell.Utility.Rows.Script

/-!
What scripts about rows reckon with: values that are numbers or texts as they are
needed, formats, and texts that are split and replaced.
-/

namespace ClusterLaunch.Shell.Rows

open Text (Regex Place)

/-- A value. One from the input that looks like a number is a number in comparisons. -/
inductive Value
  | nothing
  | number (x : Float)
  | text (t : List Char)
  | input (t : List Char)
  deriving Inhabited

def isBlank (c : Char) : Bool := c == ' ' || c == '\t' || c == '\n'

/-- The number that a text begins with, and what follows it. -/
def numberAt? (t : List Char) : Option (Float × List Char) :=
  (Figure.decimalAt (t.dropWhile isBlank)).map fun (d, rest) => (d.toFloat, rest)

/-- The number that a text is but for blanks around it. -/
def plainNumber? (t : List Char) : Option Float :=
  match numberAt? t with
  | some (x, rest) => if rest.all isBlank then some x else none
  | none => none

def whole? (x : Float) : Option Int :=
  let n := x.toInt64.toInt
  if Float.ofInt n == x && n.natAbs < UInt64.size / 2 then some n else none

/-- A number without its fraction, as near as it can be held. -/
def truncated (x : Float) : Int := x.toInt64.toInt

/-- A place in a format with its letter, and what follows it. Stars take numbers that are given. -/
def placeAt (stars : List Int) (text : List Char) :
    Format.Shape × Option Char × List Int × List Char :=
  let size (stars : List Int) (text : List Char) : Option Int × List Int × List Char :=
    match text with
    | '*' :: rest => (some (stars.headD 0), stars.drop 1, rest)
    | _ =>
        let digits := text.takeWhile Text.isDigit
        (if digits.isEmpty then none else some (Text.digitsValue digits : Nat), stars,
          text.drop digits.length)
  let flags := text.takeWhile fun c => ['#', '-', '+', ' ', '0'].contains c
  let (width, stars, rest) := size stars (text.drop flags.length)
  let (precision, stars, rest) : Option Int × List Int × List Char := match rest with
    | '.' :: rest =>
        let (n, stars, rest) := size stars rest
        (some (n.getD 0), stars, rest)
    | _ => (none, stars, rest)
  let rest := rest.dropWhile fun c => c == 'l' || c == 'h'
  let shape : Format.Shape :=
    { flags := if (width.getD 0) < 0 then '-' :: flags else flags
      width := (width.getD 0).natAbs
      precision := precision.bind fun n => if n < 0 then none else some n.toNat }
  (shape, rest.head?, stars, rest.drop 1)

/-- What a number looks like; a format is for those with a fraction. -/
def shownNumber (format : List Char) (x : Float) : List Char :=
  match whole? x with
  | some n => signed n
  | none =>
      let before := format.takeWhile (· != '%')
      match placeAt [] (format.drop (before.length + 1)) with
      | (shape, some letter, _, rest) =>
          if ['d', 'i'].contains letter then before ++ shape.whole letter (truncated x) ++ rest
          else before ++ shape.fraction letter (.ofFloat x) ++ rest
      | (_, none, _, _) => format

namespace Value

/-- The text of a value; a format is for numbers with a fraction. -/
def shown (format : List Char) : Value → List Char
  | .nothing => []
  | .number x => shownNumber format x
  | .text t | .input t => t

def amount : Value → Float
  | .nothing => 0
  | .number x => x
  | .text t | .input t => ((numberAt? t).map Prod.fst).getD 0

def asNumber? : Value → Option Float
  | .nothing => some 0
  | .number x => some x
  | .text _ => none
  | .input t => plainNumber? t

def holds (v : Value) : Bool :=
  match v, v.asNumber? with
  | .nothing, _ => false
  | .text t, _ => !t.isEmpty
  | _, some x => x != 0
  | .input t, none => !t.isEmpty
  | _, none => false

def ofBool (b : Bool) : Value := .number (if b then 1 else 0)

def ofNat (n : Nat) : Value := .number n.toFloat

end Value

/-! Formats. -/

/-- Why a format cannot be filled. -/
inductive Unfilled
  | lacking
  | unknown (place : List Char)

/-- Fills the places of a format with values. -/
def formatted (shown : Value → List Char) : Nat → List Char → List Value →
    Except Unfilled (List Char)
  | 0, _, _ => .ok []
  | _, [], _ => .ok []
  | fuel + 1, '%' :: '%' :: rest, values => do
      return '%' :: (← formatted shown fuel rest values)
  | fuel + 1, '%' :: rest, values => do
      let sizes := values.map fun v => truncated v.amount
      let (shape, letter?, left, after) := placeAt sizes rest
      let values := values.drop (sizes.length - left.length)
      match letter? with
      | none => throw (.unknown ('%' :: rest))
      | some letter =>
          let filled? : Option (Value → List Char) :=
            if letter == 'd' || letter == 'i' then
              some fun v => shape.whole letter (truncated v.amount)
            else if ['o', 'x', 'X', 'u'].contains letter then
              some fun v => shape.whole letter (truncated v.amount)
            else if ['e', 'E', 'f', 'F', 'g', 'G'].contains letter then
              some fun v => shape.fraction letter (.ofFloat v.amount)
            else if letter == 'c' then
              some fun v => shape.fill <| match v with
                | .number x => [Char.ofNat ((truncated x) % 256).toNat]
                | _ => (shown v).take 1
            else if letter == 's' then
              some fun v =>
                let text := shown v
                shape.fill ((shape.precision.map text.take).getD text)
            else none
          match filled?, values with
          | none, _ => throw (.unknown ('%' :: rest.take (rest.length - after.length)))
          | some _, [] => throw .lacking
          | some filled, v :: values => return filled v ++ (← formatted shown fuel after values)
  | fuel + 1, c :: rest, values => do
      return c :: (← formatted shown fuel rest values)

/-! Splitting. -/

/-- What stands between fields. -/
inductive Separator
  | blanks
  /-- Nothing: every octet is a field. -/
  | none
  | octet (c : Char)
  | fit (r : Regex)

namespace Separator

def ofText (text : List Char) : Separator :=
  match text with
  | [] => .none
  | [' '] => .blanks
  | [c] => .octet c
  | _ => .fit (regexOf text)

def orLine : Separator → Separator
  | .octet c => .fit (.either (.one (.one c)) (.one (.one '\n')))
  | .fit r => .fit (.either r (.one (.one '\n')))
  | s => s

/-- The first place that fits and takes something. -/
def filled? (r : Regex) : Nat → Place → Option (Place × Place)
  | 0, _ => Option.none
  | fuel + 1, p =>
      match r.find? p with
      | Option.none => Option.none
      | some (a, b) =>
          if a.index != b.index then some (a, b)
          else if a.rest.isEmpty then Option.none
          else filled? r fuel (a.skip 1)

def splitAt (r : Regex) : Nat → Place → List (List Char)
  | 0, p => [p.rest]
  | fuel + 1, p =>
      match filled? r (p.rest.length + 1) p with
      | Option.none => [p.rest]
      | some (a, b) => p.upTo a :: splitAt r fuel { b with groups := [] }

def fields (s : Separator) (text : List Char) : List (List Char) :=
  if text.isEmpty then []
  else match s with
    | .blanks => (Text.pieces isBlank text).filter fun t => !t.isEmpty
    | .none => text.map fun c => [c]
    | .octet c => Text.pieces (· == c) text
    | .fit r => splitAt r (text.length + 1) { rest := text }

end Separator

/-- A row at the front of a text, and what follows it. Without a separator rows are apart by empty
lines. -/
def rowAt? (separator text : List Char) : Option (List Char × List Char) :=
  match separator, text with
  | _, [] => none
  | [], _ =>
      let text := text.dropWhile (· == '\n')
      if text.isEmpty then none
      else
        let gap : Regex := .many 2 none true (.one (.one '\n'))
        match gap.find? { rest := text } with
        | some (a, b) => some (({ rest := text } : Place).upTo a, b.rest)
        | none => some (if text.getLast? == some '\n' then text.dropLast else text, [])
  | [c], _ =>
      let row := text.takeWhile (· != c)
      some (row, text.drop (row.length + 1))
  | _, _ =>
      let p : Place := { rest := text }
      match Separator.filled? (regexOf separator) (text.length + 1) p with
      | some (a, b) => some (p.upTo a, b.rest)
      | none => some (text, [])

/-! Replacing. -/

/-- What a match is replaced by: an ampersand stands for it unless a backslash precedes. -/
def replacement (found : List Char) : List Char → List Char
  | [] => []
  | '\\' :: '&' :: rest => '&' :: replacement found rest
  | '\\' :: '\\' :: '&' :: rest => '\\' :: found ++ replacement found rest
  | '&' :: rest => found ++ replacement found rest
  | c :: rest => c :: replacement found rest

/-- Replaces the first match or all of them; gives how many there were. -/
def replaced (r : Regex) (new : List Char) (all : Bool) (text : List Char) : List Char × Nat :=
  let rec go : Nat → Nat → Option Nat → Place → List (List Char) → List Char × Nat
    | 0, count, _, p, before => ((p.rest :: before).reverse.flatten, count)
    | fuel + 1, count, last, p, before =>
        match r.find? p with
        | none => ((p.rest :: before).reverse.flatten, count)
        | some (a, b) =>
            let before := p.upTo a :: before
            let bare : Place := { b with groups := [] }
            let isEmpty := a.index == b.index
            let again := isEmpty && last == some a.index
            let before := if again then before else replacement (a.upTo b) new :: before
            let count := if again then count else count + 1
            if !all then ((b.rest :: before).reverse.flatten, count)
            else if isEmpty then
              match b.rest with
              | [] => (before.reverse.flatten, count)
              | c :: _ => go fuel count none (bare.skip 1) ([c] :: before)
            else go fuel count (some b.index) bare before
  go (2 * text.length + 2) 0 none { rest := text } []

end ClusterLaunch.Shell.Rows
