import ClusterLaunch.Shell.Octets

/-!
Numbers with a fraction, and how they are written: with a fixed number of places,
with an exponent, or in whichever way is shorter. A number is kept as an exact ratio,
so the digits are those of its value, and a half goes to the even neighbour.
-/

namespace ClusterLaunch.Shell

inductive Figure
  | ratio (negative : Bool) (numerator denominator : Nat)
  | infinite (negative : Bool)
  | undefined (negative : Bool)
  deriving DecidableEq, Repr

namespace Figure

/-- The exact value of a binary number. -/
def ofFloat (x : Float) : Figure :=
  let bits := x.toBits.toNat
  let negative := Nat.ble (Nat.pow 2 63) bits
  let exponent := bits / Nat.pow 2 52 % 2048
  let fraction := bits % Nat.pow 2 52
  if exponent == 2047 then
    if fraction == 0 then .infinite negative else .undefined negative
  else if exponent == 0 then .ratio negative fraction (Nat.pow 2 1074)
  else
    let mantissa := fraction + Nat.pow 2 52
    if 1075 ≤ exponent then .ratio negative (mantissa * Nat.pow 2 (exponent - 1075)) 1
    else .ratio negative mantissa (Nat.pow 2 (1075 - exponent))

def ofInt (n : Int) : Figure := .ratio (decide (n < 0)) n.natAbs 1

def isNegative : Figure → Bool
  | .ratio negative _ _ | .infinite negative | .undefined negative => negative

/-- A quotient, rounded; a half goes to the even neighbour. -/
def divided (numerator denominator : Nat) : Nat :=
  let floor := numerator / denominator
  let twice := 2 * (numerator % denominator)
  if denominator < twice || (twice == denominator && floor % 2 == 1) then floor + 1 else floor

/-- The digits of a ratio with some places behind the point. -/
def places (count numerator denominator : Nat) : List Char :=
  let digits := numeral (divided (numerator * Nat.pow 10 count) denominator)
  let digits := List.replicate (count + 1 - digits.length) '0' ++ digits
  let whole := digits.take (digits.length - count)
  if count == 0 then whole else whole ++ '.' :: digits.drop (digits.length - count)

/-- The exponent of the first digit of a ratio that is not zero. -/
def magnitude (numerator denominator : Nat) : Int :=
  if numerator == 0 then 0
  else
    let guess : Int := ((numeral numerator).length : Int) - ((numeral denominator).length : Int)
    let isBelow (e : Int) : Bool :=
      -- whether the ratio is less than ten to the power
      if 0 ≤ e then Nat.blt numerator (denominator * Nat.pow 10 e.toNat)
      else Nat.blt (numerator * Nat.pow 10 (-e).toNat) denominator
    if isBelow guess then guess - 1 else guess

/-- A ratio divided by a power of ten. -/
def shifted (numerator denominator : Nat) (e : Int) : Nat × Nat :=
  if 0 ≤ e then (numerator, denominator * Nat.pow 10 e.toNat)
  else (numerator * Nat.pow 10 (-e).toNat, denominator)

/-- The digits of a ratio with some places behind the first one, and the exponent. -/
def leading (count numerator denominator : Nat) : List Char × Int :=
  let e := magnitude numerator denominator
  let (n, d) := shifted numerator denominator e
  let text := places count n d
  if text.take 2 == ['1', '0'] then
    let (n, d) := shifted numerator denominator (e + 1)
    (places count n d, e + 1)
  else (text, e)

/-- An exponent with a sign and two digits at least. -/
def exponentText (e : Int) : List Char :=
  let digits := numeral e.natAbs
  (if e < 0 then '-' else '+') :: List.replicate (2 - digits.length) '0' ++ digits

/-- A text without zeros at the end of its fraction, and without a point at its end. -/
def withoutZeros (text : List Char) : List Char :=
  if text.contains '.' then
    let bare := (text.reverse.dropWhile (· == '0')).reverse
    if bare.getLast? == some '.' then bare.dropLast else bare
  else text

/-- How a number is written: in the way of a letter, with some precision. With `full` no
zeros are left away, and a point is always there. -/
def write (letter : Char) (full : Bool) (precision : Nat) (f : Figure) : List Char :=
  let small := letter.toLower
  let cased (text : List Char) : List Char :=
    if letter == small then text else text.map Char.toUpper
  let pointed (text : List Char) : List Char :=
    if full && !text.contains '.' then text ++ ['.'] else text
  match f with
  | .infinite _ => cased "inf".toList
  | .undefined _ => cased "nan".toList
  | .ratio _ n d =>
      if small == 'f' then pointed (places precision n d)
      else if small == 'e' then
        let (text, e) := leading precision n d
        pointed text ++ cased ('e' :: exponentText e)
      else
        let count := max precision 1
        let (text, e) := leading (count - 1) n d
        if e < -4 || (count : Int) ≤ e then
          (if full then pointed text else withoutZeros text) ++ cased ('e' :: exponentText e)
        else
          let text := places ((count : Int) - 1 - e).toNat n d
          if full then pointed text else withoutZeros text

/-- The power of two that a ratio is not less than. -/
def binaryMagnitude (numerator denominator : Nat) : Int :=
  let guess : Int := (Nat.log2 numerator : Int) - (Nat.log2 denominator : Int)
  let isBelow :=
    if 0 ≤ guess then Nat.blt numerator (denominator * Nat.pow 2 guess.toNat)
    else Nat.blt (numerator * Nat.pow 2 (-guess).toNat) denominator
  if isBelow then guess - 1 else guess

/-- How numbers are held in which digits of base sixteen are written: how many bits the first
digit has, how many digits follow it, and the least power of two that it stands for. -/
structure Grid where
  bits : Nat
  digits : Nat
  least : Int

/-- A ratio in base sixteen, behind what says that it is in that base. With `full` a point is
always there. -/
def sixteens (g : Grid) (full : Bool) (precision : Option Nat) (numerator denominator : Nat) :
    List Char :=
  let e := if numerator == 0 then 0
    else max g.least (binaryMagnitude numerator denominator - ((g.bits : Int) - 1))
  let count := precision.getD g.digits
  let scale := Nat.pow 16 count
  let all := if 0 ≤ e then divided (numerator * scale) (denominator * Nat.pow 2 e.toNat)
    else divided (numerator * scale * Nat.pow 2 (-e).toNat) denominator
  let (first, e) := if all / scale == 16 then (1, e + 4) else (all / scale, e)
  let rest := Text.padded 16 count (all % scale)
  let rest := if precision.isSome then rest else (rest.reverse.dropWhile (· == '0')).reverse
  let point := if full || !rest.isEmpty then '.' :: rest else []
  Text.numeral 16 first ++ point ++ 'p' :: (if e < 0 then '-' else '+') :: numeral e.natAbs

/-- A number that is read from decimal digits: sign, digits, and how many of them are behind
the point, less the exponent. -/
structure Decimal where
  negative : Bool
  digits : Nat
  places : Int

/-- Reads a decimal number at the front of a text; gives what follows it as well. -/
def decimalAt (text : List Char) : Option (Decimal × List Char) :=
  let (negative, text) := match text with
    | '-' :: rest => (true, rest)
    | '+' :: rest => (false, rest)
    | _ => (false, text)
  let whole := text.takeWhile Text.isDigit
  let rest := text.drop whole.length
  let (part, rest) := match rest with
    | '.' :: more => (more.takeWhile Text.isDigit, more.dropWhile Text.isDigit)
    | _ => ([], rest)
  if whole.isEmpty && part.isEmpty then none
  else
    let exponentAt (more : List Char) : Option (Int × List Char) :=
      let (minus, digits) := match more with
        | '-' :: d => (true, d)
        | '+' :: d => (false, d)
        | _ => (false, more)
      let found := digits.takeWhile Text.isDigit
      if found.isEmpty then none
      else
        let n : Int := Text.digitsValue (found.take 6)
        some (if minus then -n else n, digits.drop found.length)
    let found := match rest with
      | 'e' :: more => exponentAt more
      | 'E' :: more => exponentAt more
      | _ => none
    let (e, rest) := found.getD (0, rest)
    some (⟨negative, Text.digitsValue (whole ++ part), (part.length : Int) - e⟩, rest)

def Decimal.toFloat (d : Decimal) : Float :=
  let size := if 0 ≤ d.places then Float.ofScientific d.digits true d.places.toNat
    else Float.ofScientific d.digits false (-d.places).toNat
  if d.negative then -size else size

def Decimal.figure (d : Decimal) : Figure :=
  if 0 ≤ d.places then .ratio d.negative d.digits (Nat.pow 10 d.places.toNat)
  else .ratio d.negative (d.digits * Nat.pow 10 (-d.places).toNat) 1

/-- Reads a number in base sixteen at the front of a text, without its sign. -/
def sixteensAt (text : List Char) : Option (Float × List Char) :=
  let isDigit (c : Char) : Bool := (Text.hexValue? c).isSome
  match text with
  | '0' :: x :: text =>
      let whole := text.takeWhile isDigit
      let rest := text.drop whole.length
      let (part, rest) := match rest with
        | '.' :: more => (more.takeWhile isDigit, more.dropWhile isDigit)
        | _ => ([], rest)
      if (x != 'x' && x != 'X') || (whole.isEmpty && part.isEmpty) then none
      else
        let value := ((Text.readNumeral? 16 (whole ++ part)).getD 0)
        let (e, rest) : Int × List Char := match rest with
          | p :: more =>
              let (minus, digits) := match more with
                | '-' :: d => (true, d)
                | '+' :: d => (false, d)
                | _ => (false, more)
              let found := digits.takeWhile Text.isDigit
              if (p != 'p' && p != 'P') || found.isEmpty then (0, rest)
              else
                let n : Int := Text.digitsValue (found.take 6)
                (if minus then -n else n, digits.drop found.length)
          | [] => (0, rest)
        some ((Float.ofNat value).scaleB (e - 4 * part.length), rest)
  | _ => none

/-- Reads a binary number at the front of a text, with blanks before it. -/
def floatAt (text : List Char) : Option (Float × List Char) :=
  let text := text.dropWhile Char.isWhitespace
  let sixteens? := match text with
    | '-' :: rest => (sixteensAt rest).map fun (x, rest) => (-x, rest)
    | '+' :: rest => sixteensAt rest
    | _ => sixteensAt text
  match sixteens?, decimalAt text with
  | some found, _ => some found
  | none, some (d, rest) => some (d.toFloat, rest)
  | none, none =>
      let (negative, bare) := match text with
        | '-' :: rest => (true, rest)
        | '+' :: rest => (false, rest)
        | _ => (false, text)
      let lower := String.ofList (bare.map Char.toLower)
      let signed (x : Float) : Float := if negative then -x else x
      let infinity : Float := 1.0 / 0.0
      if lower.startsWith "infinity" then some (signed infinity, bare.drop 8)
      else if lower.startsWith "inf" then some (signed infinity, bare.drop 3)
      else if lower.startsWith "nan" then some (signed (0.0 / 0.0), bare.drop 3)
      else none

end Figure

end ClusterLaunch.Shell
