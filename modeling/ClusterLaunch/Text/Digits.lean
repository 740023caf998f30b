/-!
Numerals in base ten and sixteen, written and read. Natural numbers are the
domain of every function here; a caller that has a width to keep checks it
against the bound it names.
-/

namespace ClusterLaunch.Text

def isDigit (c : Char) : Bool :=
  '0' ≤ c && c ≤ '9'

/-- The value of a digit in base sixteen, capitals included. -/
def hexValue? (c : Char) : Option Nat :=
  if '0' ≤ c && c ≤ '9' then some (c.toNat - 48)
  else if 'a' ≤ c && c ≤ 'f' then some (c.toNat - 87)
  else if 'A' ≤ c && c ≤ 'F' then some (c.toNat - 55)
  else none

def digitChar (value : Nat) : Char :=
  if value < 10 then Char.ofNat (48 + value) else Char.ofNat (87 + value)

/-- Puts the digits of `n` in the given base before `rest`; `fuel` bounds their number. -/
def digitsOnto (base : Nat) : Nat → Nat → List Char → List Char
  | 0, _, rest => rest
  | fuel + 1, n, rest =>
      if n < base then digitChar n :: rest
      else digitsOnto base fuel (n / base) (digitChar (n % base) :: rest)

/-- The numeral of `n` without leading zeros. -/
def numeral (base n : Nat) : List Char :=
  digitsOnto base (n + 1) n []

def decimal (n : Nat) : String :=
  String.ofList (numeral 10 n)

/-- The lower-case hexadecimal numeral of `n`. -/
def hexadecimal (n : Nat) : String :=
  String.ofList (numeral 16 n)

/-- The last `width` digits of `n`, with leading zeros. -/
def padded (base : Nat) : Nat → Nat → List Char
  | 0, _ => []
  | width + 1, n => padded base width (n / base) ++ [digitChar (n % base)]

def readOn (base value : Nat) : List Char → Option Nat
  | [] => some value
  | c :: rest =>
      match hexValue? c with
      | some d => if d < base then readOn base (value * base + d) rest else none
      | none => none

def readNumeral? (base : Nat) (text : List Char) : Option Nat :=
  if text.isEmpty then none else readOn base 0 text

def digitsValue (digits : List Char) : Nat :=
  digits.foldl (fun value c => value * 10 + (c.toNat - 48)) 0

theorem padded_length (base width n : Nat) : (padded base width n).length = width := by
  induction width generalizing n with
  | zero => rfl
  | succ width ih => simp [padded, ih]

end ClusterLaunch.Text
