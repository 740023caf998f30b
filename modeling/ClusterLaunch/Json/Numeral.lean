import ClusterLaunch.Json.Fault
import ClusterLaunch.Json.Shortest

/-!
Number literals. A literal keeps its digits, so whether it is a plain integer
can be told from its form; its value is a natural number below `2 ^ 64`, a
negative integer down to `-2 ^ 63`, or else a binary64 value.
-/

namespace ClusterLaunch.Json

/-- A number literal: sign, whole digits, digits after the point, signed exponent. -/
structure Numeral where
  negative : Bool
  whole : List Char
  fraction : Option (List Char)
  exponent : Option (Bool × List Char)
  deriving DecidableEq, Repr

/-- The value of a literal. -/
inductive Number
  | natural (value : Nat)
  | negative (value : Int)
  | float (value : Float)

def Number.found : Number → Found
  | .natural n => .integer n
  | .negative n => .integer n
  | .float x => .float (Shortest.ofBits x.toBits.toNat)

namespace Numeral

/-- One more than the largest significand that is kept. -/
def wordBound : Nat := UInt64.size

/-- Whether the literal is an integer without a point and an exponent. -/
def isPlain (n : Numeral) : Bool :=
  n.fraction.isNone && n.exponent.isNone

/-- Appends digits to a significand until it would leave the word; gives what it
has become and how many digits were left over. -/
def accumulate (significand : Nat) : List Char → Nat × Nat
  | [] => (significand, 0)
  | c :: rest =>
      let more := significand * 10 + (c.toNat - 48)
      if more < wordBound then accumulate more rest else (significand, rest.length + 1)

/-- Multiplies by a power of ten, or divides by one, in binary64 arithmetic; a
power beyond `10 ^ 308` is split. None when the value leaves the finite range. -/
def scaled : Nat → Float → Int → Option Float
  | 0, x, _ => some x
  | fuel + 1, x, e =>
      let power (k : Nat) : Float := Float.ofScientific 1 false k
      if e.natAbs ≤ 308 then
        if 0 ≤ e then
          let y := x * power e.natAbs
          if y.isInf then none else some y
        else some (x / power e.natAbs)
      else if x == 0.0 then some x
      else if 0 ≤ e then none
      else scaled fuel (x / power 308) (e + 308)

/-- The binary64 value of a literal. Digits beyond the word only count towards
the exponent. -/
def float? (n : Numeral) : Option Float :=
  let (significand, left) := accumulate 0 n.whole
  let fraction := n.fraction.getD []
  let (significand, unused) := accumulate significand fraction
  let shown : Int := match n.exponent with
    | none => 0
    | some (negative, digits) =>
        let size : Int := Text.digitsValue digits
        if negative then -size else size
  let exponent : Int := left - (fraction.length - unused : Nat) + shown
  (scaled 8 (UInt64.ofNat significand).toFloat exponent).map
    fun x => if n.negative then -x else x

/-- The value of a literal; none when it is too large for a binary64. -/
def value? (n : Numeral) : Option Number :=
  if n.isPlain then
    let size := Text.digitsValue n.whole
    if !n.negative && size < wordBound then some (.natural size)
    else if n.negative && 0 < size && size ≤ Nat.pow 2 63 then some (.negative (-size))
    else n.float?.map .float
  else n.float?.map .float

def value (n : Numeral) : Except Fault Number :=
  match n.value? with
  | some number => .ok number
  | none => .error .malformed

def ofNat (n : Nat) : Numeral :=
  ⟨false, Text.numeral 10 n, none, none⟩

end Numeral

end ClusterLaunch.Json
