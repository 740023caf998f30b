import ClusterLaunch.Shell.Pattern

/-!
Words after their expansion. An expanded word is a list of glyphs, from which
fields, a single text or a pattern can be made. What was quoted stays together and
stands for itself; what an expansion gave outside of quotes is split at the
separators. Of these the blanks do not count at the ends of a field, and around
another separator.
-/

namespace ClusterLaunch.Shell

/-- A part of an expanded word. -/
inductive Glyph
  /-- An octet, whether it was quoted, and whether it may part fields. -/
  | octet (c : Char) (quoted splits : Bool)
  /-- The field is there even if it is empty. -/
  | mark
  /-- Fields are parted here. -/
  | gap
  /-- A value that may be split begins here. -/
  | border
  deriving DecidableEq, Repr

namespace Glyph

def ofText (text : List Char) (quoted splits : Bool) : List Glyph :=
  text.map fun c => .octet c quoted splits

/-- The separators unless a variable says otherwise. -/
def usualSeparators : List Char := [' ', '\t', '\n']

/-- What stands between parameters that are split: it parts fields whatever the separators are,
and like a blank. -/
def between : Glyph := .octet '\x00' false true

/-- How far the splitting of glyphs has come. -/
structure Progress where
  /-- The fields that are complete, the latest first. -/
  fields : List (List Glyph) := []
  /-- The field that has been begun, the latest glyph first. -/
  field : List Glyph := []
  /-- Whether a blank has just ended a field. -/
  blank : Bool := false
  /-- How many fields may still end; none if there is no limit. -/
  left : Option Nat := none
  /-- How much of the last field to keep, if separators at its end do not count. -/
  keep : Option Nat := none
  /-- Whether the last field counts even if it is empty. -/
  forced : Bool := false

namespace Progress

def finish (p : Progress) : Progress :=
  { p with fields := p.field :: p.fields, field := [] }

/-- Goes on to an octet that may part fields. -/
def step (separators : List Char) (c : Char) (g : Glyph) (p : Progress) : Progress :=
  let parts := c == '\x00' || separators.contains c
  let isBlank := parts && (c == '\x00' || usualSeparators.contains c)
  if p.left == some 0 then
    if isBlank then
      { p with field := g :: p.field, keep := some (p.keep.getD p.field.length) }
    else
      { p with
        field := g :: p.field
        keep := if parts && p.blank then p.keep else none
        blank := false }
  else if p.blank then
    if isBlank then p
    else { p with blank := false, field := if parts then [] else [g] }
  else if parts then
    if p.field.isEmpty && isBlank then p
    else
      let p := { p with blank := isBlank }
      match p.left with
      | some 1 =>
          { p with left := some 0, keep := some p.field.length, field := g :: p.field }
      | some (n + 1) => { p.finish with left := some n }
      | _ => p.finish
  else { p with field := g :: p.field, blank := false }

/-- The last field does not count any more only because fields were parted before it. -/
def forget (p : Progress) : Progress :=
  { p with forced := false }

def next (separators : List Char) (p : Progress) (g : Glyph) : Progress :=
  match g with
  | .octet c _ true => p.forget.step separators c g
  | .octet _ _ false | .mark => { p.forget with field := g :: p.field, blank := false }
  | .gap => { p.finish with blank := false, forced := true }
  | .border => { p with blank := false }

def all (p : Progress) : List (List Glyph) :=
  let last := match p.keep with
    | some n => p.field.drop (p.field.length - n)
    | none => p.field
  (if last.isEmpty && !p.forced then p.fields else last :: p.fields).reverse.map List.reverse

end Progress

/-- The fields of an expanded word. Once as many have ended as `most` says but one, the
last one takes in all that is left, but for separators at its end. -/
def fields (separators : List Char) (most : Option Nat) (glyphs : List Glyph) :
    List (List Glyph) :=
  (glyphs.foldl (Progress.next separators) { left := most }).all

def text (glyphs : List Glyph) : List Char :=
  glyphs.filterMap fun
    | .octet c _ _ => some c
    | .gap => some ' '
    | .mark | .border => none

def marked (glyphs : List Glyph) : List Marked :=
  glyphs.filterMap fun
    | .octet c quoted _ => some (c, quoted)
    | .gap => some (' ', true)
    | .mark | .border => none

def pattern (hats : Bool) (glyphs : List Glyph) : Pattern :=
  let found := marked glyphs
  Pattern.ofMarked hats (found.length + 1) found

def parts : List Marked → List (List Marked)
  | [] => [[]]
  | (c, quoted) :: rest =>
      match parts rest with
      | [] => [[(c, quoted)]]
      | first :: others =>
          if c == '/' then [] :: first :: others else ((c, quoted) :: first) :: others

end Glyph

end ClusterLaunch.Shell
