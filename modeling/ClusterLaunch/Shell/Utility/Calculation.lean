import ClusterLaunch.Shell.Expression
import ClusterLaunch.Shell.Utility

/-!
Calculating with the arguments of a call: whole numbers of any size, comparisons,
and parts of texts. Operands that cannot matter are read but not calculated with, so
they may be of any kind.
-/

namespace ClusterLaunch.Shell

namespace Calculation

/-- The arguments that are left, and the last one that was taken. -/
structure Point where
  rest : List (List Char)
  last : List Char := []

abbrev Reading := StateT Point (Except (List Char))

def whole? (text : List Char) : Option Int :=
  match text with
  | '-' :: digits => (Text.readNumeral? 10 digits).map fun n => -(n : Int)
  | digits => (Text.readNumeral? 10 digits).map Int.ofNat

def isNull (text : List Char) : Bool :=
  text.isEmpty || (match text with
    | '-' :: digits => !digits.isEmpty && digits.all (· == '0')
    | digits => digits.all (· == '0'))

def wrong {α : Type} (message : List Char) : Reading α := throw (octets "syntax error: " ++ message)

def quoted (text : List Char) : List Char := '\'' :: text ++ ['\'']

def peek? : Reading (Option (List Char)) := return (← get).rest.head?

/-- Takes the next argument; there has to be one. -/
def take : Reading (List Char) := do
  let p ← get
  match p.rest with
  | [] => wrong (octets "missing argument after " ++ quoted p.last)
  | a :: rest => set (⟨rest, a⟩ : Point); return a

def number (text : List Char) : Reading Int :=
  match whole? text with
  | some n => return n
  | none => throw (octets "non-integer argument")

/-- What a text amounts to when its start is matched with an expression: the first group, or else
how much fits. -/
def matched (text pattern : List Char) : Reading (List Char) := do
  match Expression.read false pattern with
  | .error fault => throw (octets fault.message)
  | .ok r =>
      let hasGroup := r.groupCount != 0
      match r.longest? { rest := text } with
      | none => return if hasGroup then [] else ['0']
      | some stop =>
          return if hasGroup then (stop.groups.lookup 1).getD [] else numeral stop.index

/-- Binary operators by how tightly they bind, the loosest first. -/
def levels : List (List String) :=
  [["|"], ["&"], ["<", "<=", "=", "==", "!=", ">=", ">"], ["+", "-"], ["*", "/", "%"], [":"]]

def combined (operator : String) (a b : List Char) : Reading (List Char) := do
  let truth (holds : Bool) : Reading (List Char) := return [if holds then '1' else '0']
  let order : Ordering := match whole? a, whole? b with
    | some m, some n => compare m n
    | _, _ => if a == b then .eq else if precedes a b then .lt else .gt
  match operator with
  | "|" => return if !isNull a then a else if isNull b then ['0'] else b
  | "&" => return if isNull a || isNull b then ['0'] else a
  | "<" => truth (order == .lt)
  | "<=" => truth (order != .gt)
  | "=" | "==" => truth (order == .eq)
  | "!=" => truth (order != .eq)
  | ">=" => truth (order != .lt)
  | ">" => truth (order == .gt)
  | ":" => matched a b
  | _ =>
      let m ← number a
      let n ← number b
      match operator with
      | "+" => return signed (m + n)
      | "-" => return signed (m - n)
      | "*" => return signed (m * n)
      | _ =>
          if n == 0 then throw (octets "division by zero")
          return signed (if operator == "/" then m.tdiv n else m.tmod n)

/-- Whether the second operand matters. -/
def isOpen (operator : String) (a : List Char) : Bool :=
  match operator with
  | "|" => isNull a
  | "&" => !isNull a
  | _ => true

/-- A part of a text: from a position on, so many octets at most. -/
def part (text position count : List Char) : List Char :=
  match whole? position, whole? count with
  | some p, some n =>
      if p < 1 || n < 1 then [] else (text.drop (p.toNat - 1)).take n.toNat
  | _, _ => []

/-- Where the first octet of a set is in a text. -/
def firstIn (text set : List Char) : Nat :=
  match text.findIdx? set.contains with
  | some i => i + 1
  | none => 0

mutual

/-- An operand with the operators of a level and of tighter ones. -/
def operators (active : Bool) : Nat → List (List String) → Reading (List Char)
  | 0, _ => wrong (octets "too deep")
  | fuel + 1, [] => operand active fuel
  | fuel + 1, level :: tighter => do
      let first ← operators active fuel tighter
      further active fuel level tighter first
termination_by structural fuel => fuel

/-- What follows a first operand on a level. -/
def further (active : Bool) : Nat → List String → List (List String) → List Char →
    Reading (List Char)
  | 0, _, _, a => return a
  | fuel + 1, level, tighter, a => do
      match (← peek?).map String.ofList with
      | none => return a
      | some operator =>
          if !level.contains operator then return a
          let _ ← take
          let matters := active && isOpen operator a
          let b ← operators matters fuel tighter
          let result ← if active && (matters || operator == "|" || operator == "&") then
              combined operator a (if matters then b else [])
            else pure a
          further active fuel level tighter result
termination_by structural fuel => fuel

def operand (active : Bool) : Nat → Reading (List Char)
  | 0 => wrong (octets "too deep")
  | fuel + 1 => do
      let word ← take
      match String.ofList word with
      | "+" => take
      | "length" =>
          let text ← operand active fuel
          return numeral text.length
      | "match" =>
          let text ← operand active fuel
          let pattern ← operand active fuel
          if active then matched text pattern else return text
      | "index" =>
          let text ← operand active fuel
          let set ← operand active fuel
          return numeral (firstIn text set)
      | "substr" =>
          let text ← operand active fuel
          let position ← operand active fuel
          let count ← operand active fuel
          return part text position count
      | "(" =>
          let inner ← operators active fuel levels
          let p ← get
          match p.rest with
          | [')'] :: rest => set (⟨rest, [')']⟩ : Point); return inner
          | [] => wrong (octets "expecting ')' after " ++ quoted p.last)
          | other :: _ => wrong (octets "expecting ')' instead of " ++ quoted other)
      | ")" => wrong (octets "unexpected ')'")
      | _ => return word
termination_by structural fuel => fuel

end

def evaluate (arguments : List (List Char)) : Except (List Char) (List Char) := do
  let (result, p) ← (operators true (16 * arguments.length + 16) levels).run { rest := arguments }
  match p.rest with
  | [] => return result
  | other :: _ => throw (octets "syntax error: unexpected argument " ++ quoted other)

end Calculation

namespace Utility

def expr : Utility := fun call => do
  let arguments := if call.arguments.head? == some ['-', '-'] then call.arguments.drop 1
    else call.arguments
  if arguments.isEmpty then return ← misused call (octets "missing operand") 2
  match Calculation.evaluate arguments with
  | .error message => fail call message 2
  | .ok result =>
      print (result ++ ['\n'])
      return if Calculation.isNull result then 1 else 0

def factorsFrom : Nat → Nat → Nat → List Nat
  | 0, _, n => if 1 < n then [n] else []
  | fuel + 1, divisor, n =>
      if n < 2 then []
      else if n < divisor * divisor then [n]
      else if n % divisor == 0 then divisor :: factorsFrom fuel divisor (n / divisor)
      else factorsFrom fuel (divisor + if divisor == 2 then 1 else 2) n

/-- The factors of a number that a text writes; no more than some divisors are tried. -/
def factored? (text : List Char) : Option (List Char) :=
  let bare := text.dropWhile fun c => c == ' ' || c == '+'
  (Text.readNumeral? 10 bare).map fun n =>
    numeral n ++ ':' :: (factorsFrom 3000000 2 n).flatMap fun f => ' ' :: numeral f

def factor : Utility := fun call =>
  withOptions { letters := "" } call fun _ operands => do
    let words ← if operands.isEmpty then do
        match ← contents ['-'] with
        | .ok text => pure ((Text.pieces Char.isWhitespace text).filter fun w => !w.isEmpty)
        | .error _ => pure []
      else pure operands
    words.foldlM (fun status word => do
      match factored? word with
      | some line => print (line ++ ['\n']); return status
      | none => fail call (quoted word ++ octets " is not a valid positive integer")) 0

end Utility

end ClusterLaunch.Shell
