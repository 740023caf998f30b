import ClusterLaunch.Shell.Storage
import ClusterLaunch.Text.Regex

/-!
Patterns: texts in which `*` stands for any text, `?` for any octet, and brackets
for one of some octets. Octets that were quoted stand for themselves. The stars part
a pattern into runs of fixed length, so whether a text fits is found by looking for
one run after the other.
-/

namespace ClusterLaunch.Shell

/-- One place of a pattern. -/
inductive Mark
  | exact (c : Char)
  | any
  | many
  | oneOf (members : Text.Members)
  deriving DecidableEq, Repr

abbrev Pattern := List Mark

abbrev Marked := Char × Bool

namespace Pattern

/-- Reads the name of a class, behind the bracket and the colon in front of it. -/
def named? (text : List Marked) : Option (Text.Members × List Marked) :=
  let name := (text.takeWhile fun (c, _) => c.isAlpha).map Prod.fst
  match (text.drop name.length), Text.Members.ofName? name with
  | (':', _) :: (']', _) :: rest, some members => some (members, rest)
  | _, _ => none

/-- Reads the members of a bracket; `first` is whether none has been read yet. A bracket
without an end is none. -/
def members (first : Bool) (so : Text.Members) : Nat → List Marked →
    Option (Text.Members × List Marked)
  | 0, _ => none
  | _, [] => none
  | fuel + 1, (c, quoted) :: rest =>
      if c == ']' && !quoted && !first then some (so, rest)
      else
        let class? := match c, rest with
          | '[', (':', _) :: more => if quoted then none else named? more
          | _, _ => none
        match class? with
        | some (found, rest) => members false (.either so found) fuel rest
        | none =>
            let (c, rest) := match c, quoted, rest with
              | '\\', false, (d, _) :: more => (d, more)
              | _, _, _ => (c, rest)
            match rest with
            | ('-', false) :: (']', false) :: _ =>
                members false (.either so (.one c)) fuel rest
            | ('-', false) :: ('\\', false) :: (d, _) :: more =>
                members false (.either so (.range c d)) fuel more
            | ('-', false) :: (d, _) :: more =>
                members false (.either so (.range c d)) fuel more
            | _ => members false (.either so (.one c)) fuel rest

/-- The pattern of some octets; `hats` is whether a hat negates a bracket as well. -/
def ofMarked (hats : Bool) : Nat → List Marked → Pattern
  | 0, _ => []
  | _, [] => []
  | fuel + 1, (c, true) :: rest => .exact c :: ofMarked hats fuel rest
  | fuel + 1, ('\\', false) :: (c, _) :: rest => .exact c :: ofMarked hats fuel rest
  | fuel + 1, ('*', false) :: rest => .many :: ofMarked hats fuel rest
  | fuel + 1, ('?', false) :: rest => .any :: ofMarked hats fuel rest
  | fuel + 1, ('[', false) :: rest =>
      let (negated, inner) := match rest with
        | ('!', false) :: more => (true, more)
        | ('^', false) :: more => if hats then (true, more) else (false, rest)
        | _ => (false, rest)
      match members true .none (inner.length + 1) inner with
      | some (found, more) =>
          .oneOf (if negated then .not found else found) :: ofMarked hats fuel more
      | none => .exact '[' :: ofMarked hats fuel rest
  | fuel + 1, (c, false) :: rest => .exact c :: ofMarked hats fuel rest

def fitsOne (c : Char) : Mark → Bool
  | .exact d => c == d
  | .any => true
  | .many => false
  | .oneOf members => members.contains c

/-- What is left of a text after a run at its front. -/
def afterRun? : Pattern → List Char → Option (List Char)
  | [], text => some text
  | _ :: _, [] => none
  | mark :: marks, c :: text => if fitsOne c mark then afterRun? marks text else none

/-- What is left of a text after the first place where a run fits. -/
def afterFirst? (run : Pattern) : List Char → Option (List Char)
  | [] => afterRun? run []
  | c :: text =>
      match afterRun? run (c :: text) with
      | some rest => some rest
      | none => afterFirst? run text

/-- Whether a text fits runs that each follow a star; the last one is at its end. -/
def fitsRuns : List Pattern → List Char → Bool
  | [], text => text.isEmpty
  | [last], text =>
      last.length ≤ text.length && (afterRun? last (text.drop (text.length - last.length))).isSome
  | run :: runs, text =>
      match afterFirst? run text with
      | some rest => fitsRuns runs rest
      | none => false

/-- The run before the first star, and the runs that each follow a star. -/
def runs : Pattern → Pattern × List Pattern
  | [] => ([], [])
  | .many :: marks => let (first, others) := runs marks; ([], first :: others)
  | mark :: marks => let (first, others) := runs marks; (mark :: first, others)

def fits (pattern : Pattern) (text : List Char) : Bool :=
  match runs pattern with
  | (only, []) => (afterRun? only text) == some []
  | (first, runs) =>
      match afterRun? first text with
      | some rest => fitsRuns runs rest
      | none => false

/-- How long the shortest or longest part is that fits at the front of a text. -/
def atFront? (longest : Bool) (pattern : Pattern) (text : List Char) : Option Nat :=
  let lengths := List.range (text.length + 1)
  (if longest then lengths.reverse else lengths).find? fun n => fits pattern (text.take n)

/-- A text without the shortest or longest part at one end that fits a pattern. -/
def trim (atEnd longest : Bool) (pattern : Pattern) (text : List Char) : List Char :=
  if atEnd then
    let lengths := List.range (text.length + 1)
    match (if longest then lengths.reverse else lengths).find? fun n =>
        fits pattern (text.drop (text.length - n)) with
    | some n => text.take (text.length - n)
    | none => text
  else
    match atFront? longest pattern text with
    | some n => text.drop n
    | none => text

/-- A text with the longest parts that fit replaced: the first one, or all of them. -/
def replace (all : Bool) (pattern : Pattern) (replacement : List Char) : Nat → List Char → List Char
  | 0, text => text
  | fuel + 1, text =>
      let found := (atFront? true pattern text).filter fun n => n != 0
      match found, text with
      | some n, _ =>
          let rest := text.drop n
          replacement ++ if all then replace all pattern replacement fuel rest else rest
      | none, [] => []
      | none, c :: rest => c :: replace all pattern replacement fuel rest

/-- Whether some octets stand for others. -/
def isMagic (text : List Marked) : Bool :=
  text.any fun (c, quoted) => !quoted && (c == '*' || c == '?' || c == '[')

end Pattern

/-- The paths that fit a pattern, which is given in parts between slashes; `found` is the
path so far. -/
def Storage.fitting (s : Storage) (place : Nat) (hats dots : Bool) (found : List Char) :
    List (List Marked) → List (List Char)
  | [] => [found]
  | part :: rest =>
      let text := part.map Prod.fst
      let pattern := Pattern.ofMarked hats (part.length + 1) part
      let plain := pattern.all fun
        | .exact _ => true
        | _ => false
      let slash := if rest.isEmpty then [] else ['/']
      if plain then
        let text := pattern.flatMap fun
          | .exact c => [c]
          | _ => []
        let path := found ++ text ++ slash
        if !rest.isEmpty then s.fitting place hats dots path rest
        else match s.find place (if path.isEmpty then ['.'] else path) false with
          | .ok _ => [path]
          | .error _ => []
      else
        let directory := if found.isEmpty then ['.'] else found
        match s.find place directory with
        | .error _ => []
        | .ok id =>
            let hidden := text.head? == some '.'
            let special := if dots then [['.'], ['.', '.']] else []
            let names := special ++ (s.names id).map Prod.fst
            let chosen := names.filter fun name =>
              (hidden || name.head? != some '.') && pattern.fits name
            (sorted chosen).flatMap fun name =>
              s.fitting place hats dots (found ++ name ++ slash) rest

end ClusterLaunch.Shell
