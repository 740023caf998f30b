import ClusterLaunch.Shell.Expression
import ClusterLaunch.Shell.Utility

/-!
Finding lines that fit an expression.
-/

namespace ClusterLaunch.Shell.Utility

open Act
open Text (Regex Place)

/-- What lines are looked for. -/
structure Search where
  expressions : List Regex
  /-- Whether a fit has to be a whole line, or whole words. -/
  wholeLine : Bool := false
  wholeWord : Bool := false

namespace Search

/-- The longest fit of an expression at a place. -/
def at? (s : Search) (r : Regex) (p : Place) : Option Place :=
  if s.wholeLine && p.before.isSome then none
  else if s.wholeWord && Place.isWord p.before then none
  else
    let ends := (r.ends p).filter fun q =>
      (!s.wholeLine || q.rest.isEmpty) && (!s.wholeWord || !Place.isWord q.rest.head?)
    ends.foldl (fun best q =>
      match best with
      | none => some q
      | some b => if b.index < q.index then some q else best) none

/-- The first fit from a place on, and the longest one there. -/
def from? (s : Search) : Nat → Place → Option (Place × Place)
  | 0, _ => none
  | fuel + 1, p =>
      let found := s.expressions.filterMap fun r => s.at? r p
      match found.mergeSort fun a b => Nat.ble b.index a.index with
      | q :: _ => some (p, q)
      | [] => if p.rest.isEmpty then none else from? s fuel (p.skip 1)

def finds (s : Search) (line : List Char) : Bool :=
  (s.from? (line.length + 1) { rest := line }).isSome

/-- The parts of a line that fit, each with its distance from the start. -/
def parts (s : Search) : Nat → Place → List (Nat × List Char)
  | 0, _ => []
  | fuel + 1, p =>
      match s.from? (p.rest.length + 1) p with
      | none => []
      | some (a, b) =>
          if a.index == b.index then
            if a.rest.isEmpty then [] else parts s fuel (a.skip 1)
          else (a.index, a.upTo b) :: parts s fuel b

end Search

/-- How a search is reported. -/
structure Report where
  given : Given
  named : Bool
  /-- How many lines are shown before and after one that is found. -/
  before : Nat
  after : Nat
  most : Option Nat

/-- A line that is shown: its number, its distance from the start, and whether it was found. -/
structure ShownLine where
  number : Nat
  offset : Nat
  isFound : Bool
  text : List Char

/-- Lines with a gap between those that do not follow each other. -/
def withGaps : List ShownLine → List (Option ShownLine)
  | a :: b :: rest =>
      if a.number + 1 != b.number then some a :: none :: withGaps (b :: rest)
      else some a :: withGaps (b :: rest)
  | rest => rest.map some

/-- The lines that are shown of a text; a gap is shown by none. -/
def shownLines (r : Report) (found : List Bool) (lines : List (List Char)) :
    List (Option ShownLine) :=
  let flags := found.toArray
  let isInContext := r.before + r.after != 0
  let near (i : Nat) : Bool :=
    (List.range (r.before + r.after + 1)).any fun k =>
      let j : Int := (i : Int) + (r.before : Int) - (k : Int)
      0 ≤ j && flags.getD j.toNat false
  let (rows, _) := (lines.mapIdx fun i l => (i, l)).foldl
    (fun ((rows, offset) : List ShownLine × Nat) (i, line) =>
      let hit := flags.getD i false
      let isShown := hit || (isInContext && near i)
      (if isShown then ⟨i + 1, offset, hit, line⟩ :: rows else rows, offset + line.length + 1))
    ([], 0)
  if isInContext then withGaps rows.reverse else rows.reverse.map some

/-- What a file's search prints, and whether anything was found. -/
def reportText (s : Search) (r : Report) (name text : List Char) : List Char × Bool :=
  let has (c : Char) : Bool := Utility.has r.given c
  let inverted := has 'v'
  let lines := linesOf text
  let hits := lines.map fun l => s.finds l != inverted
  let hits := match r.most with
    | none => hits
    | some most =>
        ((hits.foldl (fun ((done, n) : List Bool × Nat) h =>
          if h && n < most then (true :: done, n + 1) else (false :: done, n)) ([], 0)).1).reverse
  let count := hits.count true
  let label := if name == ['-'] then octets "(standard input)" else name
  let lead (separator : Char) : List Char := if r.named then label ++ [separator] else []
  let found := count != 0
  if has 'q' then ([], found)
  else if has 'l' then (if found then label ++ ['\n'] else [], found)
  else if has 'L' then (if found then [] else label ++ ['\n'], found)
  else if has 'c' then (lead ':' ++ numeral count ++ ['\n'], found)
  else if text.contains '\x00' && !has 'a' then
    (if found then octets "grep: " ++ label ++ octets ": binary file matches\n" else [], found)
  else
    let rows := shownLines r hits lines
    let shown := rows.flatMap fun
      | none => ['-', '-', '\n']
      | some line =>
          let mark := if line.isFound then ':' else '-'
          let place := lead mark ++ if has 'n' then numeral line.number ++ [mark] else []
          let distance (n : Nat) : List Char := if has 'b' then numeral n ++ [mark] else []
          if has 'o' then
            if inverted || !line.isFound then []
            else (s.parts (line.text.length + 2) { rest := line.text }).flatMap fun (start, part) =>
              place ++ distance (line.offset + start) ++ part ++ ['\n']
          else place ++ distance line.offset ++ line.text ++ ['\n']
    (shown, found)

def filesBelow (s : Storage) : Nat → List Char → Nat → List (List Char)
  | 0, _, _ => []
  | fuel + 1, path, id =>
      (s.names id).flatMap fun (name, child) =>
        let below := if path.getLast? == some '/' then path ++ name else path ++ '/' :: name
        if s.isDirectory child then filesBelow s fuel below child else [below]

def grepUsage : List Char :=
  octets "Usage: grep [OPTION]... PATTERNS [FILE]...\nTry 'grep --help' for more information.\n"

/-- Searches as the letter of a syntax says: basic, extended or fixed. -/
def grepAs (syntaxLetter : Char) : Utility := fun call => do
  let options : Options :=
    { letters := "EFGPivclLnoqswxhHe:f:m:rRA:B:C:abIzUTuy"
      long := [("extended-regexp", 'E'), ("fixed-strings", 'F'), ("basic-regexp", 'G'),
        ("perl-regexp", 'P'), ("ignore-case", 'i'), ("invert-match", 'v'), ("count", 'c'),
        ("files-with-matches", 'l'), ("files-without-match", 'L'), ("line-number", 'n'),
        ("only-matching", 'o'), ("quiet", 'q'), ("silent", 'q'), ("no-messages", 's'),
        ("word-regexp", 'w'), ("line-regexp", 'x'), ("no-filename", 'h'), ("with-filename", 'H'),
        ("regexp", 'e'), ("file", 'f'), ("max-count", 'm'), ("recursive", 'r'),
        ("after-context", 'A'), ("before-context", 'B'), ("context", 'C'), ("text", 'a'),
        ("byte-offset", 'b'), ("color", 'U'), ("colour", 'U'), ("line-buffered", 'u')]
      lenient := ["color", "colour"] }
  -- a number by itself is a count of lines around
  let arguments := call.arguments.flatMap fun a => match a with
    | '-' :: digits =>
        if !digits.isEmpty && digits.all Text.isDigit then [['-', 'C'], digits] else [a]
    | _ => [a]
  match options.read (arguments.length + 1) [] [] arguments with
  | .error message =>
      warn call message
      emit 2 grepUsage
      return 2
  | .ok (given, operands) =>
      let quiet := has given 's'
      let ofFiles ← (given.filter fun (c, _) => c == 'f').mapM fun (_, path) => do
        match ← contents path with
        | .ok text => return some (linesOf text)
        | .error t => blame call path t; return none
      if ofFiles.any Option.isNone then return 2
      let ofOptions := (given.filter fun (c, _) => c == 'e').map Prod.snd
      let isGiven := has given 'e' || has given 'f'
      match isGiven, operands with
      | false, [] => emit 2 grepUsage; return 2
      | _, _ =>
          let own := if isGiven then ofOptions else operands.take 1
          let names := if isGiven then operands else operands.drop 1
          let texts := (own.flatMap fun t => Text.pieces (· == '\n') t) ++
            (ofFiles.filterMap id).flatten
          let letter := ((given.filter fun (c, _) => "EFGP".toList.contains c).getLast?.map
            Prod.fst).getD syntaxLetter
          let read (text : List Char) : Except Expression.Fault Regex :=
            if letter == 'F' then .ok (Regex.literal text)
            else Expression.read (letter != 'G') text
          match texts.mapM read with
          | .error fault => warn call (octets fault.message); return 2
          | .ok found =>
              let caseless := has given 'i' || has given 'y'
              let search : Search :=
                { expressions := if caseless then found.map Expression.caseless else found
                  wholeLine := has given 'x'
                  wholeWord := has given 'w' }
              let deep := has given 'r' || has given 'R'
              let s ← storage
              let p ← process
              let names := if names.isEmpty then (if deep then [['.']] else [['-']]) else names
              let inputs := names.flatMap fun name =>
                match if deep then s.find p.place name else .error .missing with
                | .ok id =>
                    if s.isDirectory id then
                      (filesBelow s 64 name id).map fun path =>
                        if operands.length ≤ 1 && !isGiven then path.drop 2 else path
                    else [name]
                | .error _ => [name]
              let number (c : Char) : Option Nat := (last? given c).bind natural?
              let around := (number 'C').getD 0
              let report : Report :=
                { given
                  named := !has given 'h' && (has given 'H' || deep || 1 < names.length)
                  before := (number 'B').getD around
                  after := (number 'A').getD around
                  most := number 'm' }
              let (found, failed) ← inputs.foldlM
                (fun ((found, failed) : Bool × Bool) name => do
                  match ← contents name with
                  | .error t =>
                      if !quiet then blame call name t
                      return (found, true)
                  | .ok text =>
                      let (shown, hit) := reportText search report name text
                      print shown
                      return (found || (hit != has given 'L'), failed)) (false, false)
              return if failed && !(found && has given 'q') then 2 else if found then 0 else 1

def grep : Utility := grepAs 'G'

def egrep : Utility := fun call => do
  emit 2 (octets "egrep: warning: egrep is obsolescent; using grep -E\n")
  grepAs 'E' { call with name := octets "grep" }

def fgrep : Utility := fun call => do
  emit 2 (octets "fgrep: warning: fgrep is obsolescent; using grep -F\n")
  grepAs 'F' { call with name := octets "grep" }

end ClusterLaunch.Shell.Utility
