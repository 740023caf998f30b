import ClusterLaunch.Shell.Octets
import ClusterLaunch.Text.Regex

/-!
Regular expressions in the two ways of writing that utilities share. In the basic
way most operators bear a backslash and are literal without it; in the extended way
it is the other way round.
-/

namespace ClusterLaunch.Shell.Expression

open Text (Regex Members)

/-- Why a text is no expression. -/
inductive Fault
  | openBracket
  | openGroup
  | closedGroup
  | openCount
  | badCount
  | badPreceding
  | badReference
  | badRange
  | badClass
  | trailingBackslash
  deriving DecidableEq, Repr

def Fault.message : Fault → String
  | .openBracket => "Unmatched [, [^, [:, [., or [="
  | .openGroup => "Unmatched ( or \\("
  | .closedGroup => "Unmatched ) or \\)"
  | .openCount => "Unmatched \\\x7b"
  | .badCount => "Invalid content of \\\x7b\\\x7d"
  | .badPreceding => "Invalid preceding regular expression"
  | .badReference => "Invalid back reference"
  | .badRange => "Invalid range end"
  | .badClass => "Invalid character class name"
  | .trailingBackslash => "Trailing backslash"

/-- Where the reading of an expression stands. -/
structure Point where
  rest : List Char
  /-- How many groups have been opened, and which ones were closed. -/
  groups : Nat := 0
  closed : List Nat := []

abbrev Reading := StateT Point (Except Fault)

/-- What may stand next in an expression. -/
inductive Sign
  | finish
  | opening
  | closing
  | bar
  | many (least : Nat) (most : Option Nat)
  | counted
  | start
  | stop
  | any
  | bracket
  | escaped (c : Char)
  | literal (c : Char)

/-- The sign at the front of a text, and what follows it. At the beginning of a branch nothing
can be repeated; there `first` holds. -/
def sign (extended first : Bool) (text : List Char) : Except Fault (Sign × List Char) :=
  match text with
  | [] => .ok (.finish, [])
  | ['\\'] => .error .trailingBackslash
  | '\\' :: c :: rest =>
      let operator : Option Sign := match c with
        | '(' => some .opening
        | ')' => some .closing
        | '\x7b' => some .counted
        | '|' => some .bar
        | '+' => some (.many 1 none)
        | '?' => some (.many 0 (some 1))
        | _ => none
      match extended, operator with
      | false, some (.many least most) =>
          .ok (if first then .literal c else .many least most, rest)
      | false, some found => .ok (found, rest)
      | true, some _ => .ok (.literal c, rest)
      | _, none => .ok (.escaped c, rest)
  | '*' :: rest => .ok (if first then .literal '*' else .many 0 none, rest)
  | '.' :: rest => .ok (.any, rest)
  | '[' :: rest => .ok (.bracket, rest)
  | '^' :: rest => .ok (if extended || first then .start else .literal '^', rest)
  | '$' :: rest =>
      let ends := extended || rest.isEmpty || begins rest "\\)" || begins rest "\\|"
      .ok (if ends then .stop else .literal '$', rest)
  | c :: rest =>
      if !extended then .ok (.literal c, rest)
      else match c with
        | '(' => .ok (.opening, rest)
        | ')' => .ok (.closing, rest)
        | '|' => .ok (.bar, rest)
        | '+' => .ok (if first then .literal c else .many 1 none, rest)
        | '?' => .ok (if first then .literal c else .many 0 (some 1), rest)
        | '\x7b' => .ok (if first then .literal c else .counted, rest)
        | _ => .ok (.literal c, rest)

/-- The class behind a bracket and a sign up to the same sign and a bracket. -/
def within? (mark : Char) : List Char → Option (List Char × List Char)
  | [] => none
  | c :: ']' :: rest =>
      if c == mark then some ([], rest)
      else (within? mark (']' :: rest)).map fun (name, after) => (c :: name, after)
  | c :: rest => (within? mark rest).map fun (name, after) => (c :: name, after)

/-- The members of a bracket, of which the first has been read unless `first` holds. -/
def members (first : Bool) (so : Members) : Nat → List Char →
    Except Fault (Members × List Char)
  | 0, _ => .error .openBracket
  | _, [] => .error .openBracket
  | fuel + 1, c :: rest =>
      if c == ']' && !first then .ok (so, rest)
      else
        let single (c : Char) (rest : List Char) : Except Fault (Members × List Char) :=
          match rest with
          | '-' :: ']' :: _ => members false (.either so (.one c)) fuel rest
          | '-' :: '[' :: '.' :: d :: '.' :: ']' :: more
          | '-' :: d :: more =>
              if d < c then .error .badRange
              else members false (.either so (.range c d)) fuel more
          | _ => members false (.either so (.one c)) fuel rest
        match c, rest with
        | '[', ':' :: more =>
            match within? ':' more with
            | none => .error .openBracket
            | some (name, after) =>
                match Members.ofName? name with
                | some found => members false (.either so found) fuel after
                | none => .error .badClass
        | '[', '=' :: d :: '=' :: ']' :: more => single d more
        | '[', '.' :: d :: '.' :: ']' :: more => single d more
        | _, _ => single c rest

def counts (extended : Bool) (text : List Char) : Except Fault ((Nat × Option Nat) × List Char) :=
  let least := text.takeWhile Text.isDigit
  let rest := text.drop least.length
  let close (most : Option Nat) (rest : List Char) :
      Except Fault ((Nat × Option Nat) × List Char) :=
    let low := Text.digitsValue least
    let after? := if extended then Text.afterLead? ['\x7d'] rest
      else Text.afterLead? ['\\', '\x7d'] rest
    match after? with
    | none => .error (if rest.isEmpty then .openCount else .badCount)
    | some after =>
        if (most.map fun m => decide (m < low)).getD false then .error .badCount
        else .ok ((low, most), after)
  match rest with
  | ',' :: more =>
      let most := more.takeWhile Text.isDigit
      close (if most.isEmpty then none else some (Text.digitsValue most)) (more.drop most.length)
  | _ => if least.isEmpty then .error .badCount else close (some (Text.digitsValue least)) rest

/-- The expression of a letter behind a backslash. -/
def escaped (c : Char) : Regex :=
  match c with
  | 'w' => .one .word
  | 'W' => .one (.not .word)
  | 's' => .one ((Members.ofName? "space".toList).getD .none)
  | 'S' => .one (.not ((Members.ofName? "space".toList).getD .none))
  | 'b' => .edge .wordEdge
  | 'B' => .edge .noWordEdge
  | '<' => .edge .wordStart
  | '>' => .edge .wordStop
  | '\x60' => .edge .start
  | '\'' => .edge .stop
  | _ => .one (.one c)

/-- How deep groups may stand in each other, and how much there may be. -/
abbrev Depth := Nat

/-- Whether signs may follow that repeat an expression, and it with them. -/
def repetitions (extended : Bool) (r : Regex) : Nat → Reading Regex
  | 0 => return r
  | fuel + 1 => do
      let p ← get
      match ← liftM (sign extended false p.rest) with
      | (.many least most, rest) =>
          set { p with rest }
          repetitions extended (.many least most true r) fuel
      | (.counted, rest) =>
          match counts extended rest with
          | .ok ((least, most), rest) =>
              set { p with rest }
              repetitions extended (.many least most true r) fuel
          | .error fault =>
              -- a brace that begins no count is literal in the extended way
              if extended && fault == .badCount then return r else throw fault
      | _ => return r

mutual

def branches (extended : Bool) (inside : Bool) : Nat → Reading Regex
  | 0 => return .empty
  | fuel + 1 => do
      let first ← branch extended inside true fuel
      let p ← get
      match ← liftM (sign extended false p.rest) with
      | (.bar, rest) =>
          set { p with rest }
          return .either first (← branches extended inside fuel)
      | _ => return first
termination_by structural fuel => fuel

def branch (extended inside first : Bool) : Nat → Reading Regex
  | 0 => return .empty
  | fuel + 1 => do
      let p ← get
      let (found, rest) ← liftM (sign extended first p.rest)
      let go (r : Regex) (repeats : Bool := true) : Reading Regex := do
        let r ← if repeats then repetitions extended r fuel else pure r
        return .both r (← branch extended inside false fuel)
      match found with
      | .finish | .bar => return .empty
      | .closing =>
          if inside then return .empty
          if extended then
            -- nothing was opened, so the bracket is literal
            set { p with rest }
            go (.one (.one ')'))
          else throw .closedGroup
      | .opening =>
          let index := p.groups + 1
          set { p with rest, groups := index }
          let body ← branches extended true fuel
          let q ← get
          match ← liftM (sign extended false q.rest) with
          | (.closing, rest) =>
              set { q with rest, closed := index :: q.closed }
              go (.group index body)
          | _ => throw .openGroup
      | .bracket =>
          let (negated, inner) := match rest with
            | '^' :: more => (true, more)
            | _ => (false, rest)
          let (so, after) ← liftM (members true .none (inner.length + 1) inner)
          set { p with rest := after }
          go (.one (if negated then .not so else so))
      | .any => set { p with rest }; go (.one (.not .none))
      | .start =>
          set { p with rest }
          return .both (.edge .start) (← branch extended inside (!extended) fuel)
      | .stop => set { p with rest }; go (.edge .stop) false
      | .counted => set { p with rest }; go (.one (.one '\x7b'))
      | .escaped c =>
          set { p with rest }
          if '1' ≤ c && c ≤ '9' then
            let index := c.toNat - 48
            if !p.closed.contains index then throw .badReference
            go (.again index)
          else go (escaped c)
      | .literal c => set { p with rest }; go (.one (.one c))
      | .many _ _ => set { p with rest }; go .empty false
termination_by structural fuel => fuel

end

/-- The same expression whatever the case of a letter. -/
def caseless : Regex → Regex
  | .one members => .one members.caseless
  | .both a b => .both (caseless a) (caseless b)
  | .either a b => .either (caseless a) (caseless b)
  | .many least most eager body => .many least most eager (caseless body)
  | .group index body => .group index (caseless body)
  | r => r

def read (extended : Bool) (text : List Char) : Except Fault Regex := do
  let (r, p) ← (branches extended false (text.length * 4 + 8)).run { rest := text }
  match p.rest with
  | [] => return r
  | _ => throw .closedGroup

/-- The first place in a text that fits, from its start on. -/
def find? (r : Regex) (text : List Char) : Option (Text.Place × Text.Place) :=
  r.find? { rest := text }

end ClusterLaunch.Shell.Expression
