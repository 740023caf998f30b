import ClusterLaunch.Text.Digits
import ClusterLaunch.Text.Pieces

/-!
Sets of characters given as ascending ranges of code points, the form in which
character properties are published. Membership is a binary search.
-/

namespace ClusterLaunch.Text

/-- The entries of a table, which are separated by spaces and line ends. -/
def entries (lines : List String) : List (List Char) :=
  lines.flatMap fun line => pieces (· == ' ') line.toList

/-- Ascending, disjoint ranges of code points; both ends belong to a range. -/
structure CharSet where
  ranges : Array (Nat × Nat)

namespace CharSet

/-- Reads one range: `a` alone or `a-b`, in base sixteen. -/
def readRange? (text : List Char) : Option (Nat × Nat) :=
  match pieces (· == '-') text with
  | [one] => (readNumeral? 16 one).map fun a => (a, a)
  | [first, last] => do
      let a ← readNumeral? 16 first
      let b ← readNumeral? 16 last
      return (a, b)
  | _ => none

def ofText (lines : List String) : CharSet :=
  ⟨((entries lines).filterMap readRange?).toArray⟩

/-- Looks for `n` in the ranges from `low` up to, but without, `high`. -/
def search (ranges : Array (Nat × Nat)) (n : Nat) : Nat → Nat → Nat → Bool
  | 0, _, _ => false
  | fuel + 1, low, high =>
      if low < high then
        let middle := (low + high) / 2
        match ranges[middle]? with
        | none => false
        | some (first, last) =>
            if n < first then search ranges n fuel low middle
            else if last < n then search ranges n fuel (middle + 1) high
            else true
      else false

def contains (set : CharSet) (c : Char) : Bool :=
  search set.ranges c.toNat (set.ranges.size + 1) 0 set.ranges.size

end CharSet

end ClusterLaunch.Text
