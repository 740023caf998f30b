import ClusterLaunch.Text.Digits

/-!
The shortest decimal numeral of a binary floating-point number. A positive value
is `mantissa * 2 ^ exponent`; the reals that round to it form an interval, whose
ends belong to it when the mantissa is even. The numeral has the fewest digits
that any decimal in the interval has, and of two such decimals it is the nearer
one. All comparisons are between natural numbers.
-/

namespace ClusterLaunch.Json.Shortest

/-- A positive value and its neighbours, over one common denominator. -/
structure Interval where
  low : Nat
  value : Nat
  high : Nat
  denominator : Nat
  closed : Bool

/-- Numerator and denominator of `n * 2 ^ e`. -/
def scale (n : Nat) (e : Int) : Nat × Nat :=
  if 0 ≤ e then (n * Nat.pow 2 e.toNat, 1) else (n, Nat.pow 2 (-e).toNat)

/-- The interval of a positive value with the given mantissa and exponent. Below
a power of two the neighbour is only half as far away. -/
def interval (mantissa : Nat) (exponent : Int) (atPower : Bool) : Interval :=
  let (value, denominator) := scale (4 * mantissa) (exponent - 2)
  let (unit, _) := scale 1 (exponent - 2)
  { low := value - (if atPower then unit else 2 * unit)
    value
    high := value + 2 * unit
    denominator
    closed := mantissa % 2 == 0 }

def Interval.holds (i : Interval) (n : Nat) (e : Int) : Bool :=
  let num := if 0 ≤ e then n * Nat.pow 10 e.toNat * i.denominator else n * i.denominator
  let den := if 0 ≤ e then 1 else Nat.pow 10 (-e).toNat
  let low := i.low * den
  let high := i.high * den
  if i.closed then low ≤ num && num ≤ high else low < num && num < high

/-- The value divided by `10 ^ e`, rounded down, and whether the upper
neighbour is nearer (a tie goes to the even one). -/
def Interval.grid (i : Interval) (e : Int) : Nat × Bool :=
  let num := if 0 ≤ e then i.value else i.value * Nat.pow 10 (-e).toNat
  let den := if 0 ≤ e then i.denominator * Nat.pow 10 e.toNat else i.denominator
  let floor := num / den
  let twice := 2 * (num - floor * den)
  (floor, den < twice || (twice == den && floor % 2 == 1))

/-- The decimal on the grid of `10 ^ e` that reads back as the value. -/
def Interval.onGrid? (i : Interval) (e : Int) : Option Nat :=
  let (floor, upper) := i.grid e
  let first := if upper then floor + 1 else floor
  let second := if upper then floor else floor + 1
  if i.holds first e then some first else if i.holds second e then some second else none

def Interval.search (i : Interval) : Nat → Int → Nat × Int
  | 0, e => ((i.grid e).1, e)
  | fuel + 1, e =>
      match i.onGrid? e with
      | some n => (n, e)
      | none => i.search fuel (e - 1)

/-- Moves factors of ten from the digits into the exponent. -/
def normalize : Nat → Nat → Int → Nat × Int
  | 0, n, e => (n, e)
  | fuel + 1, n, e => if n % 10 = 0 && n ≠ 0 then normalize fuel (n / 10) (e + 1) else (n, e)

/-- The digits and the power of ten of the shortest decimal: `n * 10 ^ e`. -/
def decimal (mantissa : Nat) (exponent : Int) (atPower : Bool) : Nat × Int :=
  let i := interval mantissa exponent atPower
  let (n, e) := i.search 700 310
  normalize 400 n e

/-- Writes `n * 10 ^ e`: positional while the leading digit stands for a power of
ten between `-5` and `15`, else with a signed exponent. -/
def layout (n : Nat) (e : Int) : String :=
  let digits := Text.numeral 10 n
  let lead : Int := e + digits.length - 1
  let zeros (count : Int) : List Char := List.replicate count.toNat '0'
  if -5 ≤ lead && lead ≤ 15 then
    if 0 ≤ e then String.ofList (digits ++ zeros e ++ ['.', '0'])
    else if 0 ≤ lead then
      let whole := (lead + 1).toNat
      String.ofList (digits.take whole ++ '.' :: digits.drop whole)
    else String.ofList ('0' :: '.' :: zeros (-lead - 1) ++ digits)
  else
    let fraction := match digits.drop 1 with
      | [] => []
      | more => '.' :: more
    let sign := if 0 ≤ lead then '+' else '-'
    String.ofList (digits.take 1 ++ fraction ++ ['e', sign] ++ Text.numeral 10 lead.natAbs)

/-- The text of a finite binary64 value, given by its bits. -/
def ofBits (bits : Nat) : String :=
  let sign := if bits / Nat.pow 2 63 % 2 = 1 then "-" else ""
  let biased := bits / Nat.pow 2 52 % Nat.pow 2 11
  let fraction := bits % Nat.pow 2 52
  if biased = 0 && fraction = 0 then sign ++ "0.0"
  else
    let mantissa := if biased = 0 then fraction else fraction + Nat.pow 2 52
    let exponent : Int := ((if biased = 0 then 1 else biased : Nat) : Int) - 1075
    let (n, e) := decimal mantissa exponent (fraction = 0 && 1 < biased)
    sign ++ layout n e

end ClusterLaunch.Json.Shortest
