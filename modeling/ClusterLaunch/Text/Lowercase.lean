import ClusterLaunch.Text.Lowercase.Table

/-!
The full lower-case mapping of a text. Every character but one maps by itself;
the capital sigma becomes the final form at the end of a word, which depends on
the characters around it.
-/

namespace ClusterLaunch.Text

namespace Lowercase

/-- Whether a code point is one of the run's. -/
def Run.covers (run : Run) (n : Nat) : Bool :=
  run.first ≤ n && n ≤ run.last && (n - run.first) % run.step == 0

/-- The code point that a run maps `n` to. -/
def Run.image (run : Run) (n : Nat) : Nat :=
  ((n : Int) + run.shift).toNat

/-- The mapping of a character beyond `U+007F`. -/
def beyondAscii (c : Char) : List Char :=
  if c = '\u0130' then ['i', '\u0307']
  else match runs.find? fun run => run.covers c.toNat with
    | some run => [Char.ofNat (run.image c.toNat)]
    | none => [c]

/-- The mapping of a character, whatever stands around it. -/
def ofChar (c : Char) : List Char :=
  if c.toNat < 128 then [c.toLower] else beyondAscii c

/-- Whether a cased letter comes next, ignorable characters passed over. -/
def casedNext (text : List Char) : Bool :=
  match text.dropWhile ignorable.contains with
  | [] => false
  | c :: _ => cased.contains c

/-- The small sigma for a capital one between `seen`, in reverse, and `rest`. -/
def sigma (seen rest : List Char) : Char :=
  if casedNext seen && !casedNext rest then 'ς' else 'σ'

/-- Maps `rest`, when `seen` holds in reverse what stands before it. -/
def walk (seen : List Char) : List Char → List Char
  | [] => []
  | c :: rest =>
      (if c = 'Σ' then [sigma seen rest] else ofChar c) ++ walk (c :: seen) rest

end Lowercase

/-- The lower-case form of a text. -/
def lowercase (s : String) : String :=
  String.ofList (Lowercase.walk [] s.toList)

/-- Two texts are equal when the case of the letters `A` to `Z` is ignored. -/
def equalIgnoringAsciiCase (s t : String) : Bool :=
  s.toList.map Char.toLower == t.toList.map Char.toLower

end ClusterLaunch.Text
