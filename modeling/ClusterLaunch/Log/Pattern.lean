import ClusterLaunch.Text.Blank
import ClusterLaunch.Text.Letters
import ClusterLaunch.Text.Regex

/-!
The patterns that values of fields are compared with. A pattern is a regular
expression without references back. Properties of characters beyond ASCII are not
known here, so nothing is a pattern that would need them: the classes of digits,
blanks and words, their edges, and letters of either case are only there once the
pattern has turned to octets with `(?-u)`.
-/

namespace ClusterLaunch.Log.Pattern

open Text

/-- How what comes next is understood; patterns may change that on the way. -/
structure Manner where
  /-- The case of letters does not matter: `i`. -/
  caseless : Bool := false
  /-- Lines have edges of their own: `m`. -/
  lines : Bool := false
  /-- A dot is for any character: `s`. -/
  dots : Bool := false
  /-- Repetitions are lazy unless marked: `U`. -/
  swapped : Bool := false
  /-- Characters are octets: `-u`. -/
  octets : Bool := false
  /-- A carriage return ends a line too: `R`. -/
  returns : Bool := false
  /-- Blanks and comments do not count: `x`. -/
  spaced : Bool := false

namespace Manner

/-- Turns on or off what a letter stands for. -/
def set? (m : Manner) (on : Bool) : Char → Option Manner
  | 'i' => some { m with caseless := on }
  | 'm' => some { m with lines := on }
  | 's' => some { m with dots := on }
  | 'U' => some { m with swapped := on }
  | 'u' => some { m with octets := !on }
  | 'R' => some { m with returns := on }
  | 'x' => some { m with spaced := on }
  | _ => none

/-- Reads letters up to what closes them; after a hyphen they turn things off. No
letter is there twice. -/
def read? (m : Manner) (on : Bool) (seen : List Char) : List Char → Option (Manner × List Char)
  | [] => none
  | '-' :: rest =>
      if on && (rest.head?.map fun c => c != ')' && c != ':').getD false then
        read? m false seen rest
      else none
  | c :: rest =>
      if c == ')' || c == ':' then some (m, c :: rest)
      else if seen.contains c then none
      else (m.set? on c).bind fun m => read? m on (c :: seen) rest

end Manner

/-- Where the reading of a pattern stands. -/
structure Point where
  rest : List Char
  manner : Manner := {}
  names : List (List Char) := []

abbrev Reading := StateT Point Option

def afterComment : List Char → List Char
  | [] => []
  | '\n' :: rest => rest
  | _ :: rest => afterComment rest

/-- Passes over blanks and comments. -/
def unspaced : Nat → List Char → List Char
  | 0, text => text
  | _, [] => []
  | fuel + 1, '#' :: rest => unspaced fuel (afterComment rest)
  | fuel + 1, c :: rest => if isBlank c then unspaced fuel rest else c :: rest

namespace Reading

def rest : Reading (List Char) := do
  let p ← get
  return if p.manner.spaced then unspaced (p.rest.length + 1) p.rest else p.rest

def manner : Reading Manner := return (← get).manner

def setRest (rest : List Char) : Reading Unit := modify fun p => { p with rest }

def fail {α : Type} : Reading α := fun _ => none

end Reading

open Reading

/-- The value of so many digits in base sixteen, and what follows them. -/
def hexadecimal? (count : Nat) (text : List Char) : Option (Char × List Char) :=
  let digits := text.take count
  if digits.length == count then
    (readNumeral? 16 digits).bind fun n =>
      if n.isValidChar then some (Char.ofNat n, text.drop count) else none
  else none

/-- The characters that mean something; any of them may be escaped. -/
def signs : List Char := "\\.+*?()|[]\x7b\x7d^$#&-~".toList

/-- What an escape stands for. -/
inductive Escape
  | literal (c : Char)
  | members (m : Members)
  | edge (e : Edge)

def classOf? : Char → Option Members
  | 'd' => some (.range '0' '9')
  | 's' => some (.ranges [('\t', '\r'), (' ', ' ')])
  | 'w' => some .word
  | _ => none

def edgeOf? : Char → Option (Edge × Bool)
  | 'A' => some (.start, false)
  | 'z' => some (.stop, false)
  | 'b' => some (.wordEdge, true)
  | 'B' => some (.noWordEdge, true)
  | '<' => some (.wordStart, true)
  | '>' => some (.wordStop, true)
  | _ => none

def controlOf? : Char → Option Char
  | 'a' => some '\x07'
  | 'f' => some '\x0c'
  | 't' => some '\t'
  | 'n' => some '\n'
  | 'r' => some '\r'
  | 'v' => some '\x0b'
  | _ => none

def escape? (m : Manner) : List Char → Option (Escape × List Char)
  | [] => none
  | 'x' :: rest =>
      (hexadecimal? 2 rest).bind fun (c, rest) =>
        if m.octets && '\x7f' < c then none else some (.literal c, rest)
  | 'u' :: rest => (hexadecimal? 4 rest).map fun (c, rest) => (.literal c, rest)
  | 'U' :: rest => (hexadecimal? 8 rest).map fun (c, rest) => (.literal c, rest)
  | c :: rest =>
      match classOf? c, edgeOf? c, controlOf? c with
      | some members, _, _ => if m.octets then some (.members members, rest) else none
      | _, some (edge, ofWords), _ =>
          if ofWords && !m.octets then none else some (.edge edge, rest)
      | _, _, some control => some (.literal control, rest)
      | none, none, none =>
          if signs.contains c || (c.toNat < 128 && !c.isAlphanum) then some (.literal c, rest)
          else none

def literal (m : Manner) (c : Char) : Option Regex :=
  if !m.caseless then some (.one (.one c))
  else if m.octets then some (.one (Members.one c).caseless)
  else none

/-- An operation on two classes. -/
inductive Joint
  | both
  | without
  | apart

def Joint.join (j : Joint) (a b : Members) : Members :=
  match j with
  | .both => .both a b
  | .without => a.without b
  | .apart => a.apart b

def joint? : List Char → Option (Joint × List Char)
  | '&' :: '&' :: rest => some (.both, rest)
  | '-' :: '-' :: rest => some (.without, rest)
  | '~' :: '~' :: rest => some (.apart, rest)
  | _ => none

/-- Passes over blanks and comments if they do not count. -/
def bare (m : Manner) (text : List Char) : List Char :=
  if m.spaced then unspaced (text.length + 1) text else text

/-- What a class is made of: a character, or a whole class. -/
inductive Item
  | literal (c : Char)
  | members (m : Members)

def Item.asMembers : Item → Members
  | .literal c => .one c
  | .members found => found

def item? (m : Manner) : List Char → Option (Item × List Char)
  | [] => none
  | '\\' :: rest =>
      (escape? m rest).bind fun (escape, rest) => match escape with
        | .literal c => if m.octets && '\x7f' < c then none else some (.literal c, rest)
        | .members members => some (.members members, rest)
        | .edge _ => none
  | c :: rest => if m.octets && '\x7f' < c then none else some (.literal c, rest)

def range? (m : Manner) (text : List Char) : Option (Members × List Char) := do
  let (first, rest) ← item? m text
  match bare m rest with
  | [] => none
  | '-' :: after =>
      match bare m after with
      | [] => none
      | c :: _ =>
          if c == ']' || c == '-' then return (first.asMembers, '-' :: after)
          let (last, rest) ← item? m (bare m after)
          match first, last with
          | .literal a, .literal b => if b < a then none else return (.range a b, rest)
          | _, _ => none
  | rest => return (first.asMembers, rest)

/-- Reads a class that has a name, between `[:` and `:]`. -/
def named? : List Char → Option (Members × List Char)
  | '[' :: ':' :: text =>
      let (negated, text) := match text with
        | '^' :: text => (true, text)
        | _ => (false, text)
      let name := text.takeWhile fun c => c != ':' && c != ']'
      let found := if name == "word".toList then some .word else Members.ofName? name
      match text.drop name.length, found with
      | ':' :: ']' :: rest, some members =>
          some (if negated then .not members else members, rest)
      | _, _ => none
  | _ => none

/-- The members of a class as they are listed: how many they are, and how deep classes stand in
each other among them. -/
structure Listed where
  members : Members := .none
  count : Nat := 0
  height : Nat := 0

namespace Listed

def add (l : Listed) (members : Members) (height : Nat := 0) : Listed :=
  ⟨.either l.members members, l.count + 1, max l.height height⟩

def total (l : Listed) : Nat := if l.count ≤ 1 then l.height else l.height + 1

end Listed

/-- Reads the hyphens that a class begins with. -/
def hyphens (m : Manner) (so : Listed) : Nat → List Char → Listed × List Char
  | 0, text => (so, text)
  | fuel + 1, '-' :: rest => hyphens m (so.add (.one '-')) fuel (bare m rest)
  | _, text => (so, text)

/-- What stands on the left of an operation. -/
structure Left where
  members : Members
  height : Nat
  joint : Joint

/-- The class so far, after an operation, and its height. -/
def joined (left : Option Left) (so : Listed) : Members × Nat :=
  match left with
  | none => (so.members, so.total)
  | some l => (l.joint.join l.members so.members, max l.height so.total + 1)

def finished (m : Manner) (negated : Bool) (members : Members) : Members :=
  let folded := if m.caseless then members.caseless else members
  if negated then .not folded else folded

mutual

/-- Reads a class after the bracket that opens it; gives its height too. -/
def bracket? (m : Manner) : Nat → List Char → Option ((Members × Nat) × List Char)
  | 0, _ => none
  | fuel + 1, text =>
      let text := bare m text
      let (negated, text) := match text with
        | '^' :: text => (true, bare m text)
        | _ => (false, text)
      let (so, text) := hyphens m {} (text.length + 1) text
      match so.count, text with
      | 0, ']' :: rest => inside? m negated none (so.add (.one ']')) fuel (bare m rest)
      | _, _ => inside? m negated none so fuel text

def inside? (m : Manner) (negated : Bool) (left : Option Left) (so : Listed) :
    Nat → List Char → Option ((Members × Nat) × List Char)
  | 0, _ => none
  | fuel + 1, text =>
      let text := bare m text
      match named? text, joint? text, text with
      | some (members, rest), _, _ => inside? m negated left (so.add members) fuel rest
      | _, some (j, rest), _ =>
          let (members, height) := joined left so
          inside? m negated (some ⟨members, height, j⟩) {} fuel rest
      | _, _, [] => none
      | _, _, ']' :: rest =>
          let (members, height) := joined left so
          some ((finished m negated members, height + 1), rest)
      | _, _, '[' :: rest =>
          (bracket? m fuel rest).bind fun ((inner, height), rest) =>
            inside? m negated left (so.add inner height) fuel rest
      | _, _, text =>
          (range? m text).bind fun (members, rest) =>
            inside? m negated left (so.add members) fuel rest

end

def hasHighOctets (members : Members) : Bool :=
  (List.range 128).any fun n => members.contains (Char.ofNat (128 + n))

def classed (m : Manner) (members : Members) : Option Regex :=
  if m.octets && hasHighOctets members then none else some (.one members)

def dot (m : Manner) : Option Regex :=
  if m.octets then none
  else if m.dots then some (.one (.not .none))
  else if m.returns then some (.one (.not (.ranges [('\n', '\n'), ('\r', '\r')])))
  else some (.one (.not (.one '\n')))

def groupName? (text : List Char) : Option (List Char × List Char) :=
  let name := text.takeWhile (· != '>')
  let fits (c : Char) : Bool := c == '_' || isLetterOrNumber c || ['.', '[', ']'].contains c
  match name, text.drop name.length with
  | first :: others, '>' :: rest =>
      if (first == '_' || (isLetterOrNumber first && !isDigit first)) && others.all fits then
        some (name, rest)
      else none
  | _, _ => none

def repetition? : Char → Option (Nat × Option Nat)
  | '*' => some (0, none)
  | '+' => some (1, none)
  | '?' => some (0, some 1)
  | _ => none

/-- An expression, and how deep its parts stand in each other. -/
structure Part where
  regex : Regex
  height : Nat := 0

namespace Part

/-- Some parts as one that stands around them, unless there is only one. -/
def around (join : List Regex → Regex) : List Part → Part
  | [] => ⟨.empty, 0⟩
  | [one] => one
  | parts => ⟨join (parts.map regex), (parts.map height).foldl max 0 + 1⟩

def sequence : List Part → Part := around Regex.sequence

def choice : List Regex → Regex
  | [] => .empty
  | [r] => r
  | r :: rest => .either r (choice rest)

def branches : List Part → Part := around choice

end Part

/-- How deep the parts of a pattern may stand in each other. -/
def heightLimit : Nat := 250

/-- Reads the signs of repetition behind an expression. -/
def repeated (part : Part) : Nat → Reading Part
  | 0 => fail
  | fuel + 1 => do
      let m ← manner
      match ← rest with
      | '\x7b' :: _ => fail
      | c :: more =>
          match repetition? c with
          | none => return part
          | some (least, most) =>
              let (isLazy, more) := match more with
                | '?' :: more => (true, more)
                | _ => (false, more)
              setRest more
              let r : Regex := .many least most (isLazy == m.swapped) part.regex
              repeated ⟨r, part.height + 1⟩ fuel
      | [] => return part

def edgeAt (m : Manner) (text line ownLine : Edge) : Edge :=
  if !m.lines then text else if m.returns then ownLine else line

mutual

def branches : Nat → Reading (List Part)
  | 0 => fail
  | fuel + 1 => do
      let first := Part.sequence (← parts fuel)
      match ← rest with
      | '|' :: more => setRest more; return first :: (← branches fuel)
      | _ => return [first]

def parts : Nat → Reading (List Part)
  | 0 => fail
  | fuel + 1 => do
      let m ← manner
      let text ← rest
      let goOn (part : Part) (more : List Char) : Reading (List Part) := do
        setRest more
        let part ← repeated part (more.length + 1)
        return part :: (← parts fuel)
      let go (r : Option Regex) (more : List Char) : Reading (List Part) := do
        match r with
        | none => fail
        | some r => goOn ⟨r, 0⟩ more
      match text with
      | [] | '|' :: _ | ')' :: _ => return []
      | '(' :: more =>
          setRest more
          match ← group fuel with
          | some part => goOn part (← get).rest
          | none =>
              match ← rest with
              | c :: _ =>
                  if (repetition? c).isSome then fail else return ⟨.empty, 0⟩ :: (← parts fuel)
              | [] => return [⟨.empty, 0⟩]
      | '[' :: more =>
          match bracket? m (text.length + 1) more with
          | none => fail
          | some ((members, height), more) =>
              match if m.caseless && !m.octets then none else classed m members with
              | none => fail
              | some r => goOn ⟨r, height⟩ more
      | '.' :: more => go (dot m) more
      | '^' :: more => go (some (.edge (edgeAt m .start .lineStart .ownLineStart))) more
      | '$' :: more => go (some (.edge (edgeAt m .stop .lineStop .ownLineStop))) more
      | '\\' :: more =>
          match escape? m more with
          | none => fail
          | some (.literal c, more) => go (literal m c) more
          | some (.members members, more) => go (some (.one members)) more
          | some (.edge e, more) => go (some (.edge e)) more
      | c :: more =>
          if (repetition? c).isSome || c == '\x7b' then fail else go (literal m c) more

/-- Reads a group after the bracket that opens it; none if it only changes the manner. -/
def group : Nat → Reading (Option Part)
  | 0 => fail
  | fuel + 1 => do
      let before ← manner
      let close : Reading (Option Part) := do
        let part := Part.branches (← branches fuel)
        match ← rest with
        | ')' :: more =>
            modify fun p => { p with rest := more, manner := before }
            return some ⟨part.regex, part.height + 1⟩
        | _ => fail
      let text ← rest
      let name : Option (List Char) := match text with
        | '?' :: 'P' :: '<' :: more => some more
        | '?' :: '<' :: more => if more.head? == some '=' || more.head? == some '!' then none
            else some more
        | _ => none
      match name, text with
      | some more, _ =>
          match groupName? more with
          | none => fail
          | some (name, more) =>
              if (← get).names.contains name then fail
              modify fun p => { p with rest := more, names := name :: p.names }
              close
      | none, '?' :: more =>
          match before.read? true [] more with
          | none => fail
          | some (m, ':' :: more) =>
              modify fun p => { p with rest := more, manner := m }
              close
          | some (m, _ :: after) =>
              if more.head? == some ')' then fail
              modify fun p => { p with rest := after, manner := m }
              return none
          | some (_, []) => fail
      | none, _ => setRest text; close

end

def ofText? (text : List Char) : Option Regex :=
  match (branches (3 * text.length + 4)).run { rest := text } with
  | some (all, p) =>
      let part := Part.branches all
      let rest := if p.manner.spaced then unspaced (p.rest.length + 1) p.rest else p.rest
      if rest.isEmpty && part.height ≤ heightLimit then some part.regex else none
  | none => none

/-- The preferred way to fit at the first place where there is any. -/
def found? (r : Regex) : Nat → Place → Option Place
  | 0, _ => none
  | fuel + 1, p =>
      match r.preferred? p with
      | some q => some q
      | none => if p.rest.isEmpty then none else found? r fuel (p.skip 1)

/-- Whether a value fits: what fits first in it reaches to its end. Of several ways to fit only
the preferred one counts. -/
def fits (r : Regex) (value : List Char) : Bool :=
  match found? r (value.length + 1) { rest := value } with
  | some q => q.rest.isEmpty
  | none => false

end ClusterLaunch.Log.Pattern
