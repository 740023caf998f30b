import ClusterLaunch.Text.Normal
import ClusterLaunch.Url.Domain.Classes
import ClusterLaunch.Url.Domain.Mapping
import ClusterLaunch.Url.Punycode

/-!
Labels of a domain name beyond `U+007F`. A label has a plain form, its Punycode
after `xn--`; it may be given in either form, and both are held to the same
conditions: which characters may stand in it, how they join, and, in a name with
letters that are written from right to left, in which order they stand.
-/

namespace ClusterLaunch.Url.Domain

open Text

/-- What every label in Punycode begins with. -/
def encodedLead : List Char := ['x', 'n', '-', '-']

def isPlain (label : List Char) : Bool :=
  label.all (·.toNat < 128)

/-- The plain characters that no label may hold. -/
def isForbidden (c : Char) : Bool :=
  c ≤ ' ' || c == '\x7f' || c ∈ ['%', '#', '/', ':', '<', '>', '?', '@', '[', '\\', ']', '^', '|']

/-- The combining class of the marks that suppress a vowel. -/
def virama : Nat := 9

/-- Whether a letter that joins to what follows it stands before, transparent
characters passed over; `seen` is what stands before, in reverse. -/
def joinsOn (seen : List Char) : Bool :=
  match seen.dropWhile transparent.contains with
  | [] => false
  | c :: _ => joinsBoth.contains c || joinsLeft.contains c

/-- Whether a letter that joins to what stands before it comes next. -/
def joinsBack (rest : List Char) : Bool :=
  match rest.dropWhile transparent.contains with
  | [] => false
  | c :: _ => joinsBoth.contains c || joinsRight.contains c

/-- Whether every joiner and non-joiner of a label stands where it has an effect:
after a virama, or, for a non-joiner, between two letters that would join. -/
def joinersFit (seen : List Char) : List Char → Bool
  | [] => true
  | c :: rest =>
      let afterVirama := match seen with
        | [] => false
        | last :: _ => Normal.classOf last == virama
      (if c == '\u200d' then afterVirama
       else if c == '\u200c' then afterVirama || (joinsOn seen && joinsBack rest)
       else true) && joinersFit (c :: seen) rest

/-- The conditions on a label beyond `U+007F`, whichever form it was given in. -/
def isSound (label : List Char) : Bool :=
  match label with
  | [] => true
  | first :: _ =>
      !mark.contains first && joinersFit [] label && (afterLead? encodedLead label).isNone

/-- The label that stands for itself: one in Punycode is decoded, and has to be
what the mapping would have left unchanged. -/
def decoded? (label : List Char) : Option (List Char) :=
  match afterLead? encodedLead label with
  | none => if isPlain label || isSound label then some label else none
  | some code => do
      guard (isPlain code && !code.isEmpty && code.getLast? != some '-' && code.length ≤ 2000)
      let shown ← Punycode.decode? code
      guard (!isPlain shown && shown.all fun c => c.toNat < 128 || standing.contains c)
      guard (Normal.normalize shown == shown && isSound shown)
      return shown

/-- The plain form of a label. A label of more than a thousand characters has none. -/
def plain? (label : List Char) : Option (List Char) :=
  if isPlain label then some label
  else if 1000 < label.length then none
  else some (encodedLead ++ Punycode.encode label)

/-! The order of directions. -/

/-- Whether a character makes a name one that is written from right to left. -/
def turns (c : Char) : Bool :=
  rightToLeft.contains c || arabicNumber.contains c

/-- Whether a character is a letter that is written from left to right. -/
def leftToRight (c : Char) : Bool :=
  !(turns c || europeanNumber.contains c || separator.contains c || neutral.contains c ||
    spacingFree.contains c || spaceOrControl.contains c)

/-- Characters that have no direction of their own. -/
def isWeak (c : Char) : Bool :=
  europeanNumber.contains c || separator.contains c || neutral.contains c || spacingFree.contains c

/-- Whether the characters of a label keep one direction: it begins with a letter,
holds none of the other direction, and ends, its marks not counted, with a letter
or a digit. Digits of both kinds do not stand together. -/
def keepsDirection (label : List Char) : Bool :=
  let last := (label.reverse.dropWhile spacingFree.contains).head?
  match label with
  | [] => true
  | first :: _ =>
      if rightToLeft.contains first then
        label.all (fun c => turns c || isWeak c) &&
          (match last with
            | none => false
            | some c => turns c || europeanNumber.contains c) &&
          !(label.any europeanNumber.contains && label.any arabicNumber.contains)
      else if leftToRight first then
        label.all (fun c => leftToRight c || isWeak c) &&
          (match last with
            | none => false
            | some c => leftToRight c || europeanNumber.contains c)
      else false

end ClusterLaunch.Url.Domain
