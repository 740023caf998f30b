import ClusterLaunch.Shell.Figure
import ClusterLaunch.Shell.Utility

/-!
Putting lines in order by keys. A key is a part of the line, and a way to compare; lines
that are equal in all keys are compared as a whole, unless their order is to be kept.
-/

namespace ClusterLaunch.Shell.Utility

open Act

/-- Where a key begins or ends: a field and an octet in it, counted from one. -/
structure KeyPoint where
  field : Nat
  octet : Nat := 0

/-- A key: its ends, and the letters that say how it is compared. -/
structure Key where
  start : KeyPoint := ⟨1, 1⟩
  stop : Option KeyPoint := none
  letters : List Char := []
  /-- Whether blanks are passed over at its start and at its end. -/
  skipsStart : Bool := false
  skipsStop : Bool := false

namespace Key

/-- Reads the number of a field or of an octet; says what is wrong with it. -/
def count (what : String) (text : List Char) : Except (List Char) (Nat × List Char) :=
  let digits := text.takeWhile Text.isDigit
  if digits.isEmpty then
    .error (octets (what ++ ": invalid count at start of ") ++ quoted text)
  else .ok (Text.digitsValue digits, text.drop digits.length)

/-- Reads a point, and what stands behind it. -/
def point (whole : List Char) (what : String) (first : Bool) (text : List Char) :
    Except (List Char) (KeyPoint × List Char) := do
  let wrong (reason : String) : Except (List Char) (KeyPoint × List Char) :=
    .error (octets (reason ++ ": invalid field specification ") ++ quoted whole)
  let (field, rest) ← count what text
  if field == 0 then wrong "field number is zero"
  else match rest with
    | '.' :: rest =>
        let (octet, rest) ← count "invalid number after '.'" rest
        if first && octet == 0 then wrong "character offset is zero"
        else return (⟨field, octet⟩, rest)
    | _ => return (⟨field, if first then 1 else 0⟩, rest)

/-- Reads a key such as `2.3n,4`. -/
def ofText (text : List Char) : Except (List Char) Key := do
  let isLetter (c : Char) : Bool := "bdfgiMhnRrV".toList.contains c
  let (start, rest) ← point text "invalid number at field start" true text
  let letters := rest.takeWhile isLetter
  let (stop, more) ← match rest.drop letters.length with
    | ',' :: rest => do
        let (stop, rest) ← point text "invalid number after ','" false rest
        pure (some stop, rest)
    | rest => pure (none, rest)
  let others := if stop.isSome then more.takeWhile isLetter else []
  if others.length < more.length then
    .error (octets "stray character in field spec: invalid field specification " ++ quoted text)
  else return {
    start
    stop
    letters := letters ++ others
    skipsStart := letters.contains 'b'
    skipsStop := others.contains 'b' }

/-- Where each field of a line begins and ends. Without a separator a field begins with the
blanks before it. -/
def fieldEnds (separator : Option Char) (line : List Char) : List (Nat × Nat) :=
  match separator with
  | some mark =>
      ((Text.pieces (· == mark) line).foldl (fun ((ends, place) : List (Nat × Nat) × Nat) f =>
        ((place, place + f.length) :: ends, place + f.length + 1)) ([], 0)).1.reverse
  | none =>
      let rec go : Nat → Nat → List Char → List (Nat × Nat)
        | 0, _, _ => []
        | _, _, [] => []
        | fuel + 1, place, text =>
            let blanks := text.takeWhile fun c => c == ' ' || c == '\t'
            let rest := text.drop blanks.length
            let word := rest.takeWhile fun c => !(c == ' ' || c == '\t')
            let stop := place + blanks.length + word.length
            (place, stop) :: go fuel stop (rest.drop word.length)
      go (line.length + 1) 0 line

def ofLine (k : Key) (separator : Option Char) (line : List Char) : List Char :=
  let ends := fieldEnds separator line
  let size := line.length
  let blanksAt (n : Nat) : Nat :=
    ((line.drop n).takeWhile fun c => c == ' ' || c == '\t').length
  let start := match ends[k.start.field - 1]? with
    | none => size
    | some (first, last) =>
        let first := if k.skipsStart then first + blanksAt first else first
        min (max last first) (first + (k.start.octet - 1))
  let stop := match k.stop with
    | none => size
    | some p =>
        match ends[p.field - 1]? with
        | none => size
        | some (first, last) =>
            if p.octet == 0 then last
            else
              let first := if k.skipsStop then first + blanksAt first else first
              min size (first + p.octet)
  (line.drop start).take (stop - start)

end Key

/-- The number at the front of a text, as a ratio to some power of ten. -/
def leadingNumber (text : List Char) : Int × Nat :=
  let text := text.dropWhile fun c => c == ' ' || c == '\t'
  let (sign, text) : Int × List Char := match text with
    | '-' :: rest => (-1, rest)
    | _ => (1, text)
  let whole := text.takeWhile Text.isDigit
  let part := match text.drop whole.length with
    | '.' :: rest => rest.takeWhile Text.isDigit
    | _ => []
  (sign * (Text.digitsValue (whole ++ part) : Nat), part.length)

def compareNumbers (a b : Int × Nat) : Ordering :=
  compare (a.1 * (Nat.pow 10 b.2 : Nat)) (b.1 * (Nat.pow 10 a.2 : Nat))

/-- The rank of the letter behind a number that stands for a multiple. -/
def unitRank (text : List Char) : Nat :=
  let rest := (text.dropWhile fun c => c == ' ' || c == '\t').dropWhile fun c =>
    Text.isDigit c || c == '.' || c == '-'
  match rest.head? with
  | some c =>
      let c := if c == 'k' then 'K' else c
      (("KMGTPEZY".toList).idxOf? c).elim 0 (· + 1)
  | none => 0

def compareTexts (a b : List Char) : Ordering :=
  if precedes a b then .lt else if precedes b a then .gt else .eq

/-- Compares texts whose numbers count as numbers. -/
def compareVersions : Nat → List Char → List Char → Ordering
  | 0, _, _ => .eq
  | _, [], [] => .eq
  | _, [], _ => .lt
  | _, _, [] => .gt
  | fuel + 1, a :: as, b :: bs =>
      if Text.isDigit a && Text.isDigit b then
        let x := (a :: as).takeWhile Text.isDigit
        let y := (b :: bs).takeWhile Text.isDigit
        match compare (Text.digitsValue x) (Text.digitsValue y) with
        | .eq => compareVersions fuel ((a :: as).drop x.length) ((b :: bs).drop y.length)
        | found => found
      else if a == b then compareVersions fuel as bs
      else
        let rank (c : Char) : Nat :=
          if c == '~' then 0 else if Text.isDigit c then 1 else if c.isAlpha then 2 + c.toNat
          else 1000 + c.toNat
        compare (rank a) (rank b)

def months : List String :=
  ["JAN", "FEB", "MAR", "APR", "MAY", "JUN", "JUL", "AUG", "SEP", "OCT", "NOV", "DEC"]

def monthRank (text : List Char) : Nat :=
  let bare := text.dropWhile fun c => c == ' ' || c == '\t'
  (months.idxOf? (String.ofList ((bare.take 3).map Char.toUpper))).elim 0 (· + 1)

def compareKeys (letters : List Char) (a b : List Char) : Ordering :=
  let has (c : Char) : Bool := letters.contains c
  let found :=
    if has 'n' then compareNumbers (leadingNumber a) (leadingNumber b)
    else if has 'h' then
      let sign (t : List Char) : Int :=
        let n := (leadingNumber t).1
        if n < 0 then -1 else if n == 0 then 0 else 1
      match compare (sign a) (sign b) with
      | .eq =>
          match compare ((unitRank a : Int) * sign a) ((unitRank b : Int) * sign b) with
          | .eq => compareNumbers (leadingNumber a) (leadingNumber b)
          | found => found
      | found => found
    else if has 'g' then
      let value (t : List Char) : Option Float := (Figure.floatAt t).map Prod.fst
      match value a, value b with
      | none, none => .eq
      | none, _ => .lt
      | _, none => .gt
      | some x, some y => if x < y then .lt else if y < x then .gt else .eq
    else if has 'M' then compare (monthRank a) (monthRank b)
    else if has 'V' then compareVersions (a.length + b.length + 1) a b
    else
      let plain (t : List Char) : List Char :=
        let t := if has 'd' then t.filter fun c => c.isAlphanum || c == ' ' || c == '\t'
          else if has 'i' then t.filter fun c => 32 ≤ c.toNat && c.toNat < 127 else t
        if has 'f' then t.map Char.toUpper else t
      compareTexts (plain a) (plain b)
  if has 'r' then found.swap else found

/-- A line behind its keys. -/
abbrev Keyed := List (List Char) × List Char

/-- The least of the first lines of files, which is the earliest of several that are equal. -/
def leastFirst (before : Keyed → Keyed → Bool) (files : List (List Keyed)) :
    Option (Nat × Keyed) :=
  (files.mapIdx fun i file => (i, file.head?)).foldl (fun best (i, line) =>
    match best, line with
    | none, some line => some (i, line)
    | some (j, least), some line => if before least line then some (j, least) else some (i, line)
    | best, none => best) none

def mergedFiles (before : Keyed → Keyed → Bool) : Nat → List (List Keyed) → List Keyed
  | 0, files => files.flatten
  | fuel + 1, files =>
      match leastFirst before files with
      | none => []
      | some (i, line) => line :: mergedFiles before fuel (files.modify i (·.drop 1))

def sort : Utility := fun call =>
  withOptions
    { letters := "bdfghiMnRrVcCmo:k:st:uzS:T:"
      long := [("ignore-leading-blanks", 'b'), ("dictionary-order", 'd'), ("ignore-case", 'f'),
        ("general-numeric-sort", 'g'), ("human-numeric-sort", 'h'), ("month-sort", 'M'),
        ("numeric-sort", 'n'), ("reverse", 'r'), ("version-sort", 'V'), ("check", 'c'),
        ("merge", 'm'), ("output", 'o'), ("key", 'k'), ("stable", 's'), ("field-separator", 't'),
        ("unique", 'u'), ("zero-terminated", 'z')]
      status := 2 } call fun given names => do
    let globals := (given.map Prod.fst).filter fun c => "bdfghiMnRrV".toList.contains c
    let separator := match last? given 't' with
      | some ['\\', '0'] => some '\x00'
      | some (c :: _) => some c
      | _ => none
    let texts := (given.filter fun (c, _) => c == 'k').map Prod.snd
    let ways := globals.filter fun c => "gMhnV".toList.contains c
    match texts.mapM Key.ofText, last? given 't' with
    | .error message, _ => fail call message 2
    | _, some [] => fail call (octets "empty tab") 2
    | .ok own, mark =>
        if (mark.map fun m => decide (1 < m.length && m != ['\\', '0'])).getD false then
          return ← fail call (octets "multi-character tab " ++ quoted (mark.getD [])) 2
        if 1 < ways.eraseDups.length then
          return ← fail call (octets "options '-" ++
            (sorted (ways.eraseDups.map fun c => [c])).flatten ++ octets "' are incompatible") 2
        if (has given 'c' || has given 'C') && 1 < names.length then
          return ← fail call (octets "extra operand " ++ quoted (names.getD 1 []) ++
            octets " not allowed with -" ++ [if has given 'c' then 'c' else 'C']) 2
        let keys := (if own.isEmpty && !globals.isEmpty then [{}] else own).map fun (k : Key) =>
          if k.letters.isEmpty then
            { k with
              letters := globals
              skipsStart := globals.contains 'b'
              skipsStop := globals.contains 'b' }
          else k
        let byKeys (a b : List (List Char)) : Ordering :=
          let rec go : List Key → List (List Char) → List (List Char) → Ordering
            | k :: keys, x :: xs, y :: ys =>
                match compareKeys k.letters x y with
                | .eq => go keys xs ys
                | found => found
            | _, _, _ => .eq
          go keys a b
        let whole (a b : List Char) : Ordering :=
          let found := compareTexts a b
          if globals.contains 'r' then found.swap else found
        let compareLines (a b : List (List Char) × List Char) : Ordering :=
          match byKeys a.1 b.1 with
          | .eq => if has given 's' || has given 'u' then
              (if keys.isEmpty then whole a.2 b.2 else .eq) else whole a.2 b.2
          | found => found
        let mark := if has given 'z' then '\x00' else '\n'
        let (files, status) ← (if names.isEmpty then [['-']] else names).foldlM
          (fun ((files, status) : List (List (List Char)) × Nat) name => do
            match ← contents name with
            | .ok text =>
                let pieces := Text.pieces (· == mark) text
                let own := if text.isEmpty || text.getLast? == some mark then pieces.dropLast
                  else pieces
                return (files ++ [own], status)
            | .error t =>
                warn call (octets (if t == .isDirectory then "read failed: " else "cannot read: ")
                  ++ named name ++ octets ": " ++ t.text)
                return (files, 2)) ([], 0)
        if status != 0 then return status
        let withKeys (lines : List (List Char)) : List Keyed :=
          lines.map fun l => (keys.map fun k => k.ofLine separator l, l)
        let keyed := withKeys files.flatten
        if has given 'c' || has given 'C' then
          let rec disorder (n : Nat) : List Keyed → Option (Nat × List Char)
            | a :: b :: rest =>
                let found := compareLines a b
                if found == .gt || (found == .eq && has given 'u') then some (n + 1, b.2)
                else disorder (n + 1) (b :: rest)
            | _ => none
          match disorder 1 keyed with
          | none => return 0
          | some (n, line) =>
              if has given 'c' then
                warn call (named (names.headD ['-']) ++ ':' :: numeral n ++
                  octets ": disorder: " ++ line)
              return 1
        else
          let inOrder :=
            if has given 'm' then
              mergedFiles (fun a b => compareLines a b != .gt) (keyed.length + 1)
                (files.map withKeys)
            else keyed.mergeSort fun a b => compareLines a b != .gt
          let rec distinct : List Keyed → List Keyed
            | a :: b :: rest =>
                if compareLines a b == .eq then distinct (a :: rest) else a :: distinct (b :: rest)
            | rest => rest
          let kept := if has given 'u' then distinct inOrder else inOrder
          let output := kept.flatMap fun (_, l) => l ++ [mark]
          match last? given 'o' with
          | none => print output; return 0
          | some path =>
              match ← openPath path .write with
              | .ok index => setChannel fileChannel index; emit fileChannel output; return 0
              | .error t =>
                  fail call (octets "open failed: " ++ named path ++ octets ": " ++ t.text) 2

end ClusterLaunch.Shell.Utility
