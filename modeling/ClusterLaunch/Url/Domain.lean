import ClusterLaunch.Url.Domain.Label

/-!
Domain names in plain characters. A name is mapped character by character,
composed, and cut into labels; every label is then given its plain form. All
conditions have to hold, else the name has no plain form.
-/

namespace ClusterLaunch.Url.Domain

open Text

def readNumbers? (separator : Char) (side : List Char) : Option (List Nat) :=
  (pieces (· == separator) side).mapM (readNumeral? 16)

def readReplacement (entry : List Char) : List (Nat × List Nat) :=
  match pieces (· == ':') entry with
  | [left, right] =>
      match readNumbers? '-' left, readNumbers? ',' right with
      | some [a], some image => [(a, image)]
      | some [a, b], some [t] => (List.range (b + 1 - a)).map fun i => (a + i, [t + i])
      | some [a, b, s], some [t] =>
          (List.range ((b - a) / s + 1)).map fun i => (a + s * i, [t + s * i])
      | _, _ => []
  | _ => []

/-- The replaced characters, each with what replaces it. -/
def replacements : Std.HashMap Nat (List Nat) :=
  Std.HashMap.ofList ((entries replacementText).flatMap readReplacement)

/-- What becomes of a character, or none if it may not occur. -/
def image? (c : Char) : Option (List Char) :=
  if c.toNat < 128 then some [c.toLower]
  else if standing.contains c then some [c]
  else if dropped.contains c then some []
  else (replacements[c.toNat]?).map fun image => image.map Char.ofNat

def mapped? (name : List Char) : Option (List Char) :=
  (name.mapM image?).map fun images => Normal.normalize images.flatten

def toPlain? (name : List Char) : Option (List Char) := do
  let labels ← (pieces (· == '.') (← mapped? name)).mapM decoded?
  guard (labels.all fun label => !label.any isForbidden)
  guard (!labels.any (·.any turns) || labels.all keepsDirection)
  return ['.'].intercalate (← labels.mapM plain?)

end ClusterLaunch.Url.Domain
