import ClusterLaunch.Text.Normal.Table
import ClusterLaunch.Text.CharSet
import Std.Data.HashMap

/-!
Canonical composition: marks are put in the order of their classes and joined
with the letter before them wherever a single character exists for both. The
texts it is applied to hold no character that is excluded from composition.
-/

namespace ClusterLaunch.Text.Normal

/-- Reads `x:y`, each side a list of numbers in base sixteen. -/
def readEntry? (separator : Char) (text : List Char) : Option (List Nat × List Nat) := do
  let [left, right] := pieces (· == ':') text | none
  let numbers (side : List Char) : Option (List Nat) :=
    (pieces (fun c => c == separator || c == ',') side).mapM (readNumeral? 16)
  return (← numbers left, ← numbers right)

def classRanges : Array (Nat × Nat × Nat) :=
  ((entries classText).filterMap fun entry =>
    match readEntry? '-' entry with
    | some ([a], [k]) => some (a, a, k)
    | some ([a, b], [k]) => some (a, b, k)
    | _ => none).toArray

/-- Looks for `n` in the ranges from `low` up to, but without, `high`. -/
def searchClass (n : Nat) : Nat → Nat → Nat → Nat
  | 0, _, _ => 0
  | fuel + 1, low, high =>
      if low < high then
        let middle := (low + high) / 2
        match classRanges[middle]? with
        | none => 0
        | some (first, last, k) =>
            if n < first then searchClass n fuel low middle
            else if last < n then searchClass n fuel (middle + 1) high
            else k
      else 0

/-- The combining class of a character. -/
def classOf (c : Char) : Nat :=
  if c.toNat < 0x300 then 0
  else searchClass c.toNat (classRanges.size + 1) 0 classRanges.size

def pairs : List (Nat × Nat × Nat) :=
  (entries pairText).filterMap fun entry =>
    match readEntry? '-' entry with
    | some ([a, b], [c]) => some (a, b, c)
    | _ => none

def composed : Std.HashMap (Nat × Nat) Nat :=
  Std.HashMap.ofList (pairs.map fun (a, b, c) => ((a, b), c))

def parts : Std.HashMap Nat (Nat × Nat) :=
  Std.HashMap.ofList (pairs.map fun (a, b, c) => (c, (a, b)))

/-! Korean syllables are composed by arithmetic: nineteen leading letters,
twenty-one vowels, and twenty-seven trailing letters or none. -/

/-- The two characters that a character is composed of. -/
def split? (c : Char) : Option (Char × Char) :=
  let n := c.toNat
  if 0xac00 ≤ n && n < 0xac00 + 11172 then
    let i := n - 0xac00
    if i % 28 = 0 then
      some (Char.ofNat (0x1100 + i / 588), Char.ofNat (0x1161 + i % 588 / 28))
    else some (Char.ofNat (n - i % 28), Char.ofNat (0x11a7 + i % 28))
  else (parts[n]?).map fun (a, b) => (Char.ofNat a, Char.ofNat b)

/-- The character that two characters compose into. -/
def join? (a b : Char) : Option Char :=
  let (m, n) := (a.toNat, b.toNat)
  if 0x1100 ≤ m && m < 0x1113 && 0x1161 ≤ n && n < 0x1176 then
    some (Char.ofNat (0xac00 + ((m - 0x1100) * 21 + (n - 0x1161)) * 28))
  else if 0xac00 ≤ m && m < 0xac00 + 11172 && (m - 0xac00) % 28 = 0 && 0x11a8 ≤ n && n < 0x11c3 then
    some (Char.ofNat (m + (n - 0x11a7)))
  else (composed[(m, n)]?).map Char.ofNat

/-- A character taken apart; no character needs more than four steps. -/
def takeApart : Nat → Char → List Char
  | 0, c => [c]
  | fuel + 1, c =>
      match split? c with
      | some (a, b) => takeApart fuel a ++ [b]
      | none => [c]

/-- Puts a mark in front of a text, past the marks of smaller classes. -/
def insert (c : Char) : List Char → List Char
  | [] => [c]
  | d :: rest =>
      if 0 < classOf d && classOf d < classOf c then d :: insert c rest else c :: d :: rest

/-- Puts neighbouring marks in the order of their classes. -/
def order : List Char → List Char
  | [] => []
  | c :: rest => insert c (order rest)

/-- Composes a text that follows the character `base` and the marks `held`, in
reverse, that did not compose with it. -/
def composeOn (base : Char) (held : List Char) : List Char → List Char
  | [] => base :: held.reverse
  | c :: rest =>
      let blocked := match held with
        | [] => false
        | last :: _ => classOf c ≤ classOf last
      match if blocked then none else join? base c with
      | some joined => composeOn joined held rest
      | none =>
          if classOf c = 0 then base :: held.reverse ++ composeOn c [] rest
          else composeOn base (c :: held) rest

/-- Composes a text that is taken apart and in order. -/
def compose : List Char → List Char
  | [] => []
  | c :: rest => if classOf c = 0 then composeOn c [] rest else c :: compose rest

def normalize (text : List Char) : List Char :=
  compose (order (text.flatMap (takeApart 4)))

end ClusterLaunch.Text.Normal
