import ClusterLaunch.Shell.Arithmetic
import ClusterLaunch.Shell.Storage

/-!
Conditions, as `test` and its bracket form decide them: about texts, numbers and
files, joined by `!`, `-a` and `-o`. A word that looks like an operator is still an
operand where no operator can stand.
-/

namespace ClusterLaunch.Shell.Decision

/-- What conditions about files look at: the entry that a path leads to, with its number. A link
at the end is followed if that is asked for. -/
abbrev Look := Bool → List Char → Option (Nat × Entry)

/-- The part that a word plays. -/
inductive Role
  | finish
  | operand
  | unary
  | binary
  | not
  | both
  | either
  | opening
  | closing
  deriving DecidableEq, Repr

def unaries : List String :=
  ["-r", "-w", "-x", "-e", "-f", "-d", "-c", "-b", "-p", "-u", "-g", "-k", "-s", "-t", "-z", "-n",
   "-h", "-O", "-G", "-L", "-S"]

def binaries : List String :=
  ["=", "!=", "<", ">", "-eq", "-ne", "-ge", "-gt", "-le", "-lt", "-nt", "-ot", "-ef"]

/-- Operators that only the wider dialect knows. -/
def wideUnaries : List String := ["-v", "-N"]

def wideBinaries : List String := ["=="]

def operator? (dialect : Dialect) (word : List Char) : Option Role :=
  let text := String.ofList word
  if text == "!" then some .not
  else if text == "-a" then some .both
  else if text == "-o" then some .either
  else if text == "(" then some .opening
  else if text == ")" then some .closing
  else if unaries.contains text || (dialect == .wide && wideUnaries.contains text) then
    some .unary
  else if binaries.contains text || (dialect == .wide && wideBinaries.contains text) then
    some .binary
  else none

/-- The part of the first word. An operator before one word needs that word, and a bracket needs
something behind it. -/
def role (dialect : Dialect) : List (List Char) → Role
  | [] => .finish
  | word :: rest =>
      match operator? dialect word with
      | none => .operand
      | some .unary =>
          match rest with
          | [] => .operand
          | [_] => .unary
          | next :: _ => if operator? dialect next == some .binary then .operand else .unary
      | some .opening => if rest.isEmpty then .operand else .opening
      | some role => role

/-- What conditions are decided with. -/
structure Setting where
  dialect : Dialect
  look : Look

/-- Deciding goes through the words, of which the first is the last one that was used; it stops
with what is wrong about them. -/
abbrev Deciding := ReaderT Setting (StateT (List (List Char)) (Except (List Char)))

def wrong {α : Type} (operator : List Char) (reason : String) : Deciding α :=
  throw (if operator.isEmpty then octets reason else operator ++ octets (": " ++ reason))

def number (text : List Char) : Deciding Int := do
  match Arithmetic.decimal? text with
  | some n => return n
  | none =>
      if (← read).dialect == .wide then throw (text ++ octets ": integer expression expected")
      else throw (octets "Illegal number: " ++ text)

def aboutFile (look : Look) (letter : Char) (path : List Char) : Bool :=
  match look (letter != 'h' && letter != 'L') path with
  | none => false
  | some (_, entry) =>
      match letter, entry.node with
      | 'f', .file _ | 'f', .program _ => true
      | 'd', .directory _ _ => true
      | 'c', .device _ => true
      | 'h', .link _ | 'L', .link _ => true
      | 'p', .own _ => true
      | 'x', _ => entry.isDirectory || entry.isRunnable
      | 's', _ => 0 < entry.size
      | 'e', _ | 'r', _ | 'w', _ | 'O', _ | 'G', _ | 'N', _ => true
      | 'u', _ => entry.mode &&& 0o4000 != 0
      | 'g', _ => entry.mode &&& 0o2000 != 0
      | 'k', _ => entry.mode &&& 0o1000 != 0
      | _, _ => false

def unary (operator word : List Char) : Deciding Bool := do
  match operator with
  | ['-', 'z'] => return word.isEmpty
  | ['-', 'n'] => return !word.isEmpty
  | ['-', 't'] => let _ ← number word; return false
  | _ => return aboutFile (← read).look (operator.getLast?.getD ' ') word

def binary (first operator second : List Char) : Deciding Bool := do
  let look := (← read).look true
  let compare (holds : Int → Int → Bool) : Deciding Bool := do
    let a ← number first
    let b ← number second
    return holds a b
  match String.ofList operator with
  | "=" | "==" => return first == second
  | "!=" => return first != second
  | "<" => return precedes first second
  | ">" => return precedes second first
  | "-eq" => compare fun a b => a == b
  | "-ne" => compare fun a b => a != b
  | "-ge" => compare fun a b => b ≤ a
  | "-gt" => compare fun a b => b < a
  | "-le" => compare fun a b => a ≤ b
  | "-lt" => compare fun a b => a < b
  | "-nt" =>
      match look first, look second with
      | some (_, a), some (_, b) => return decide (b.changed < a.changed)
      | _, _ => return false
  | "-ot" =>
      match look first, look second with
      | some (_, a), some (_, b) => return decide (a.changed < b.changed)
      | _, _ => return false
  | _ =>
      match look first, look second with
      | some (a, _), some (b, _) => return a == b
      | _, _ => return false

/-- Goes on by some words; gives the part of the word that is then the first. -/
def advance (count : Nat) : Deciding Role := do
  let words := (← get).drop count
  set words
  return role (← read).dialect words

/-- The part of the word after the first one. -/
def following : Deciding Role :=
  return role (← read).dialect ((← get).drop 1)

mutual

/-- Conditions joined by `-o`. All of them are decided. -/
def either (first : Role) : Nat → Deciding Bool
  | 0 => return false
  | fuel + 1 => do
      let a ← both first fuel
      if (← following) != .either then return a
      let b ← either (← advance 2) fuel
      return a || b
termination_by structural fuel => fuel

/-- Conditions joined by `-a`. -/
def both (first : Role) : Nat → Deciding Bool
  | 0 => return false
  | fuel + 1 => do
      let a ← negated first fuel
      if (← following) != .both then return a
      let b ← both (← advance 2) fuel
      return a && b
termination_by structural fuel => fuel

def negated (first : Role) : Nat → Deciding Bool
  | 0 => return false
  | fuel + 1 => do
      if first != .not then return ← single first fuel
      let next ← following
      if next != .finish then
        let _ ← advance 1
      return !(← negated next fuel)
termination_by structural fuel => fuel

def single (first : Role) : Nat → Deciding Bool
  | 0 => return false
  | fuel + 1 => do
      match first, ← get with
      | .finish, _ | _, [] => return false
      | .opening, _ =>
          let next ← advance 1
          if next == .closing then return false
          let inner ← either next fuel
          if (← advance 1) != .closing then wrong [] "closing paren expected"
          return inner
      | .unary, operator :: _ =>
          let _ ← advance 1
          match ← get with
          | [] => wrong operator "argument expected"
          | word :: _ => unary operator word
      | _, word :: _ =>
          if (← following) != .binary then return !word.isEmpty
          let _ ← advance 1
          let operator := ((← get).head?).getD []
          let _ ← advance 1
          match ← get with
          | [] => wrong operator "argument expected"
          | second :: _ => binary word operator second
termination_by structural fuel => fuel

end

/-- Decides the condition that words write. Up to four words are read by their number: a word
between two others is an operator if it can be one. -/
def decided (setting : Setting) : Nat → List (List Char) → Except (List Char) Bool
  | 0, _ => .ok false
  | fuel + 1, words => do
      if words.isEmpty then return false
      let middle := words.length == 3 &&
        ((words[1]?).bind (operator? setting.dialect)) == some .binary
      let short := words.length == 3 || words.length == 4
      let bracketed := short && words.head? == some ['('] && words.getLast? == some [')']
      if short && !middle && !bracketed && words.head? == some ['!'] then
        return !(← decided setting fuel (words.drop 1))
      let words := if !middle && bracketed then (words.drop 1).dropLast else words
      let first := if middle then .operand else role setting.dialect words
      let (found, rest) ← ((either first (words.length * 8 + 8)).run setting).run words
      match rest with
      | word :: _ :: _ => throw (word ++ octets ": unexpected operator")
      | _ => return found

/-- Decides the condition of a builtin; the bracket form ends with a bracket. -/
def ofArguments (setting : Setting) (bracket : Bool) (words : List (List Char)) :
    Except (List Char) Bool := do
  if bracket && words.getLast? != some [']'] then
    throw (octets (if setting.dialect == .wide then "missing \x60]'" else "missing ]"))
  let words := if bracket then words.dropLast else words
  decided setting (words.length + 1) words

end ClusterLaunch.Shell.Decision
