import ClusterLaunch.Text.Digits
import ClusterLaunch.Text.Pieces

/-!
Addresses of version six: eight groups of four hexadecimal digits, of which one
run of zeros may be left out, and the last two of which may be written as an
address of version four. An address is written with the longest run of zeros
left out, the first of equal ones.
-/

namespace ClusterLaunch.Url.Ipv6

open Text

/-- A group of one to four digits at the beginning of a text, and what follows. -/
def group? (text : List Char) : Option (Nat × List Char) :=
  let digits := (text.take 4).takeWhile fun c => (hexValue? c).isSome
  (readNumeral? 16 digits).map fun value => (value, text.drop digits.length)

/-- One of four dotted numbers: below 256, without a zero in front. -/
def octet? (text : List Char) : Option Nat := do
  guard (text.all isDigit && text.length ≤ 3 && !(1 < text.length && text.head? == some '0'))
  let value ← readNumeral? 10 text
  guard (value < 256)
  return value

/-- The two groups that four dotted numbers make up. -/
def dotted? (text : List Char) : Option (List Nat) := do
  let octets ← (pieces (· == '.') text).mapM octet?
  let [a, b, c, d] := octets | none
  return [a * 256 + b, c * 256 + d]

/-- The groups with colons between them up to the end of the text, or up to two
colons; the second part of the answer is what follows those. -/
def run? : Nat → List Char → Option (List Nat × Option (List Char))
  | 0, _ => none
  | fuel + 1, text =>
      match group? text with
      | none => none
      | some (value, []) => some ([value], none)
      | some (value, ':' :: ':' :: rest) => some ([value], some rest)
      | some (value, ':' :: rest) =>
          (run? fuel rest).map fun (values, more) => (value :: values, more)
      | some (_, '.' :: _) => (dotted? text).map (·, none)
      | some _ => none

/-- The groups of an address in which nothing more is left out. -/
def tail? (text : List Char) : Option (List Nat) :=
  if text.isEmpty then some []
  else match run? (text.length + 1) text with
    | some (values, none) => some values
    | _ => none

/-- An address from the groups before and after those that are left out. -/
def fill? (before after : List Nat) : Option (List Nat) :=
  let held := before.length + after.length
  if held < 8 then some (before ++ List.replicate (8 - held) 0 ++ after) else none

/-- The eight groups that a text writes. -/
def parse? (text : List Char) : Option (List Nat) :=
  match text with
  | ':' :: ':' :: rest => (tail? rest).bind (fill? [])
  | _ =>
      match run? (text.length + 1) text with
      | none => none
      | some (values, none) => if values.length = 8 then some values else none
      | some (values, some rest) => (tail? rest).bind (fill? values)

/-- How many zeros the groups begin with. -/
def zeros (groups : List Nat) : Nat :=
  (groups.takeWhile (· == 0)).length

def longest (groups : List Nat) : Nat × Nat :=
  (List.range groups.length).foldl (fun (place, size) i =>
    let here := zeros (groups.drop i)
    if size < here then (i, here) else (place, size)) (0, 0)

def join (groups : List Nat) : List Char :=
  [':'].intercalate (groups.map (numeral 16))

/-- The written form of eight groups. A single zero is not left out. -/
def write (groups : List Nat) : List Char :=
  let (place, size) := longest groups
  if size < 2 then join groups
  else join (groups.take place) ++ ':' :: ':' :: join (groups.drop (place + size))

end ClusterLaunch.Url.Ipv6
