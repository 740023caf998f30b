import ClusterLaunch.Text.Digits

/-!
Regular expressions and the ways in which a text fits them. The ways are listed in
the order in which a search that prefers earlier branches and eager repetitions
comes upon them. That one list serves both rules in use: the first way is the
preferred one, and the longest way is a maximum over the list. Ways that end at one
place are the same way; only the first of them is kept.
-/

namespace ClusterLaunch.Text

/-- A class of characters. -/
inductive Members
  | none
  | range (first last : Char)
  | not (others : Members)
  | either (a b : Members)
  | both (a b : Members)
  deriving DecidableEq, Repr

namespace Members

def one (c : Char) : Members := .range c c

def contains : Members → Char → Bool
  | .none, _ => false
  | .range first last, c => first ≤ c && c ≤ last
  | .not others, c => !others.contains c
  | .either a b, c => a.contains c || b.contains c
  | .both a b, c => a.contains c && b.contains c

/-- What is in the first class but not in the second one. -/
def without (a b : Members) : Members := .both a (.not b)

/-- What is in one class only. -/
def apart (a b : Members) : Members := .either (a.without b) (b.without a)

def union (all : List Members) : Members := all.foldr .either .none

def ranges (all : List (Char × Char)) : Members :=
  union (all.map fun (first, last) => .range first last)

def named : List (String × Members) :=
  let digit := ('0', '9')
  let lower := ('a', 'z')
  let upper := ('A', 'Z')
  let marks := [('!', '/'), (':', '@'), ('[', '\x60'), ('\x7b', '~')]
  [("alpha", ranges [upper, lower]), ("digit", ranges [digit]),
   ("alnum", ranges [digit, upper, lower]), ("upper", ranges [upper]), ("lower", ranges [lower]),
   ("space", ranges [('\t', '\r'), (' ', ' ')]), ("blank", ranges [('\t', '\t'), (' ', ' ')]),
   ("punct", ranges marks), ("print", ranges [(' ', '~')]), ("graph", ranges [('!', '~')]),
   ("cntrl", ranges [('\x00', '\x1f'), ('\x7f', '\x7f')]),
   ("xdigit", ranges [digit, ('A', 'F'), ('a', 'f')])]

def ofName? (name : List Char) : Option Members :=
  named.lookup (String.ofList name)

def word : Members := ranges [('0', '9'), ('A', 'Z'), ('_', '_'), ('a', 'z')]

/-- The same class whatever the case of a letter. -/
def caseless : Members → Members
  | .none => .none
  | .range first last =>
      let all := (List.range 26).flatMap fun n =>
        let small := Char.ofNat (97 + n)
        let large := Char.ofNat (65 + n)
        let has (c : Char) := (Members.range first last).contains c
        if has small || has large then [one small, one large] else []
      .either (.range first last) (union all)
  | .not others => .not others.caseless
  | .either a b => .either a.caseless b.caseless
  | .both a b => .both a.caseless b.caseless

end Members

/-- Places that an expression may ask for without taking anything. -/
inductive Edge
  | start
  | stop
  | lineStart
  | lineStop
  /-- Where lines begin or end if a carriage return ends them too; one before a line feed belongs
  to it. -/
  | ownLineStart
  | ownLineStop
  /-- Where a word begins or ends. -/
  | wordEdge
  | noWordEdge
  | wordStart
  | wordStop
  deriving DecidableEq, Repr

inductive Regex
  | empty
  | one (members : Members)
  | edge (edge : Edge)
  | both (first second : Regex)
  | either (first second : Regex)
  /-- A repetition; an eager one prefers to go on. -/
  | many (least : Nat) (most : Option Nat) (eager : Bool) (body : Regex)
  | group (index : Nat) (body : Regex)
  /-- The text that a group has taken, once more. -/
  | again (index : Nat)
  deriving DecidableEq, Repr

/-- A place in a text, and what the groups took on the way to it. -/
structure Place where
  before : Option Char := none
  rest : List Char
  index : Nat := 0
  groups : List (Nat × List Char) := []
  deriving Repr

namespace Place

/-- The place after some characters. -/
def skip (p : Place) : Nat → Place
  | 0 => p
  | n + 1 =>
      match p.rest with
      | [] => p
      | c :: rest => Place.skip { p with before := some c, rest, index := p.index + 1 } n

def upTo (p later : Place) : List Char :=
  p.rest.take (later.index - p.index)

def isWord : Option Char → Bool
  | none => false
  | some c => Members.word.contains c

def isAt (p : Place) : Edge → Bool
  | .start => p.before.isNone
  | .stop => p.rest.isEmpty
  | .lineStart => p.before.isNone || p.before == some '\n'
  | .lineStop => p.rest.isEmpty || p.rest.head? == some '\n'
  | .ownLineStart =>
      p.before.isNone || p.before == some '\n' ||
        (p.before == some '\r' && p.rest.head? != some '\n')
  | .ownLineStop =>
      p.rest.isEmpty || p.rest.head? == some '\r' ||
        (p.rest.head? == some '\n' && p.before != some '\r')
  | .wordEdge => isWord p.before != isWord p.rest.head?
  | .noWordEdge => isWord p.before == isWord p.rest.head?
  | .wordStart => !isWord p.before && isWord p.rest.head?
  | .wordStop => isWord p.before && !isWord p.rest.head?

/-- Places without those that are listed earlier. -/
def distinct : List Place → List Place
  | [] => []
  | p :: rest =>
      if rest.isEmpty then [p]
      else p :: (distinct rest).filter fun q => q.index != p.index

/-- The places to which repetitions lead, before those in `tail`. A repetition that
takes nothing is the last one. -/
def repeated (body : Place → List Place) (eager : Bool) : Nat → Place → List Place → List Place
  | 0, p, tail => p :: tail
  | fuel + 1, p, tail =>
      match eager, body p with
      | _, [] => p :: tail
      | true, [q] =>
          if q.index == p.index then p :: tail else repeated body true fuel q (p :: tail)
      | false, [q] =>
          if q.index == p.index then p :: tail else p :: repeated body false fuel q tail
      | true, all =>
          distinct ((all.flatMap fun q =>
            if q.index == p.index then [p] else repeated body true fuel q []) ++ [p]) ++ tail
      | false, all =>
          distinct (p :: all.flatMap fun q =>
            if q.index == p.index then [p] else repeated body false fuel q []) ++ tail

/-- The places to which an exact number of repetitions leads. -/
def times (body : Place → List Place) : Nat → Place → List Place
  | 0, p => [p]
  | n + 1, p =>
      match body p with
      | [] => []
      | [q] => times body n q
      | all => distinct (all.flatMap (times body n))

end Place

namespace Regex

/-- One expression after the other, and one of several. -/
def sequence : List Regex → Regex
  | [] => .empty
  | [r] => r
  | r :: rest => .both r (sequence rest)

def literal (text : List Char) : Regex :=
  sequence (text.map fun c => .one (.one c))

def groupCount : Regex → Nat
  | .both a b | .either a b => max (groupCount a) (groupCount b)
  | .many _ _ _ body => groupCount body
  | .group index body => max index (groupCount body)
  | _ => 0

/-- The places at which a text that fits may end, from a place on. -/
def ends : Regex → Place → List Place
  | .empty, p => [p]
  | .one members, p =>
      match p.rest with
      | [] => []
      | c :: rest =>
          if members.contains c then [{ p with before := some c, rest, index := p.index + 1 }]
          else []
  | .edge e, p => if p.isAt e then [p] else []
  | .both first second, p =>
      match first.ends p with
      | [] => []
      | [q] => second.ends q
      | all => Place.distinct (all.flatMap second.ends)
  | .either first second, p => Place.distinct (first.ends p ++ second.ends p)
  | .many least most eager body, p =>
      let more (q : Place) : List Place :=
        Place.repeated body.ends eager ((most.map (· - least)).getD (q.rest.length + 1)) q []
      match Place.times body.ends least p with
      | [] => []
      | [q] => more q
      | all => Place.distinct (all.flatMap more)
  | .group index body, p =>
      (body.ends p).map fun q =>
        { q with groups := (index, p.upTo q) :: q.groups.filter fun (n, _) => n != index }
  | .again index, p =>
      match p.groups.lookup index with
      | none => []
      | some text =>
          let q := p.skip text.length
          if p.upTo q == text then [q] else []

def preferred? (r : Regex) (p : Place) : Option Place :=
  (r.ends p).head?

def longest? (r : Regex) (p : Place) : Option Place :=
  (r.ends p).foldl (fun best q =>
    match best with
    | none => some q
    | some b => if b.index < q.index then some q else best) none

/-- The longest way to fit at the first place where there is any; gives where it
begins and where it ends. -/
def find? (r : Regex) (p : Place) : Option (Place × Place) :=
  go (p.rest.length + 1) p
where
  go : Nat → Place → Option (Place × Place)
    | 0, _ => none
    | fuel + 1, p =>
        match r.longest? p with
        | some q => some (p, q)
        | none => if p.rest.isEmpty then none else go fuel (p.skip 1)

end Regex

end ClusterLaunch.Text
