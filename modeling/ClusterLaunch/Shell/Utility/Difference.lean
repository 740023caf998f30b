import ClusterLaunch.Shell.Utility.Lines
import ClusterLaunch.Shell.Utility.Places
import ClusterLaunch.Shell.Utility.Time

/-!
Differences of files: the first octets that differ, or the lines that are left out of the
one text and put into the other. Of the ways with the fewest such lines the one is taken
that is found first from both ends; then each run of lines is moved as far down as it
goes, or to where the other text has a run of its own.
-/

namespace ClusterLaunch.Shell.Utility

open Act

/-- Says how the utility is called wrongly, each line under its name. -/
def misusedTwice (call : Call) (message : List Char) : Act Nat := do
  warn call message
  fail call (octets "Try '" ++ call.name ++ octets " --help' for more information.") 2

/-! Octets. -/

/-- How two texts differ octet by octet. -/
inductive OctetVerdict
  | same
  /-- They differ at a place on a line. -/
  | differ (place line : Nat) (left right : Char)
  /-- One ends after so many octets, on a line; at its end if `whole`. -/
  | ended (second : Bool) (after line : Nat) (whole : Bool)

/-- Finds the first difference from a place on a line on. -/
def octetVerdict (place line : Nat) (whole : Bool) : List Char → List Char → OctetVerdict
  | [], [] => .same
  | [], _ => .ended false (place - 1) line whole
  | _, [] => .ended true (place - 1) line whole
  | a :: left, b :: right =>
      if a == b then
        octetVerdict (place + 1) (if a == '\n' then line + 1 else line) (a == '\n') left right
      else .differ place line a b

/-- Octets of a text from a place on, with the other one's. -/
def octetPairs (place : Nat) : List Char → List Char → List (Nat × Char × Char)
  | a :: left, b :: right =>
      if a == b then octetPairs (place + 1) left right
      else (place, a, b) :: octetPairs (place + 1) left right
  | _, _ => []

def inEights (c : Char) : List Char := padLeft 3 (Text.numeral 8 c.toNat)

def cmp : Utility := fun call => do
  let o : Options :=
    { letters := "bi:ln:sv"
      long := [("print-bytes", 'b'), ("ignore-initial", 'i'), ("verbose", 'l'), ("bytes", 'n'),
        ("quiet", 's'), ("silent", 's')] }
  match o.read (call.arguments.length + 1) [] [] call.arguments with
  | .error message => misusedTwice call message
  | .ok (_, []) => misusedTwice call (octets "missing operand after " ++ quoted call.name)
  | .ok (given, first :: others) =>
      let second := others.headD ['-']
      let skips := match last? given 'i' with
        | some text => (Text.pieces (· == ':') text).map fun t => (multiple? t).getD 0
        | none => (others.drop 1).map fun t => (multiple? t).getD 0
      if 3 < others.length then
        misusedTwice call (octets "extra operand " ++ quoted (others.getD 3 []))
      else
        match ← contents first, ← contents second with
        | .error t, _ => blame call first t; return 2
        | _, .error t => blame call second t; return 2
        | .ok left, .ok right =>
            let cut (text : List Char) : List Char :=
              match (last? given 'n').bind multiple? with
              | some n => text.take n
              | none => text
            let left := cut (left.drop (skips.getD 0 0))
            let usual := if has given 'i' then skips.getD 0 0 else 0
            let right := cut (right.drop (skips.getD 1 usual))
            let verdict := octetVerdict 1 1 true left right
            let silent := has given 's'
            if has given 'l' && !silent then
              -- what is printed is held back, so that it comes behind the complaint
              if left.length != right.length then
                let (short, length) := if left.length < right.length then (first, left.length)
                  else (second, right.length)
                warn call (octets "EOF on " ++ short ++
                  if length == 0 then octets " which is empty"
                  else octets " after byte " ++ numeral length)
              let width := (numeral (min left.length right.length)).length
              print ((octetPairs 1 left right).flatMap fun (place, a, b) =>
                padLeft width (numeral place) ++ ' ' :: inEights a ++
                  (if has given 'b' then ' ' :: padRight 4 (visible false true [a]) else []) ++
                  ' ' :: inEights b ++
                  (if has given 'b' then ' ' :: visible false true [b] else []) ++ ['\n'])
            match verdict with
            | .same => return 0
            | .differ place line a b =>
                if !silent && !has given 'l' then
                  let word := if has given 'b' then "byte " else "char "
                  print (first ++ ' ' :: second ++ octets (" differ: " ++ word) ++ numeral place ++
                    octets ", line " ++ numeral line ++
                    (if has given 'b' then
                      octets " is " ++ inEights a ++ ' ' :: visible false true [a] ++
                        ' ' :: inEights b ++ ' ' :: visible false true [b]
                    else []) ++ ['\n'])
                return 1
            | .ended isSecond after line whole =>
                if !silent && !has given 'l' then
                  let name := if isSecond then second else first
                  warn call (octets "EOF on " ++ name ++
                    if after == 0 then octets " which is empty"
                    else octets " after byte " ++ numeral after ++
                      if whole then octets ", line " ++ numeral (line - 1)
                      else octets ", in line " ++ numeral line)
                return 1

/-! The lines that agree. -/

/-- Two lists of lines. -/
structure Sides where
  left : Array (List Char)
  right : Array (List Char)

namespace Sides

/-- Whether two lines are the same. -/
def agree (s : Sides) (x y : Int) : Bool := s.left[x.toNat]? == s.right[y.toNat]?

end Sides

/-- Some lines of either list, up to an end. -/
structure Region where
  left : Int
  leftEnd : Int
  right : Int
  rightEnd : Int

namespace Region

/-- Leaves out the lines that agree at the start. -/
def withoutStart (s : Sides) : Nat → Region → Region
  | 0, r => r
  | fuel + 1, r =>
      if r.left < r.leftEnd && r.right < r.rightEnd && s.agree r.left r.right then
        withoutStart s fuel { r with left := r.left + 1, right := r.right + 1 }
      else r

/-- Leaves out the lines that agree at the end. -/
def withoutEnd (s : Sides) : Nat → Region → Region
  | 0, r => r
  | fuel + 1, r =>
      if r.left < r.leftEnd && r.right < r.rightEnd && s.agree (r.leftEnd - 1) (r.rightEnd - 1) then
        withoutEnd s fuel { r with leftEnd := r.leftEnd - 1, rightEnd := r.rightEnd - 1 }
      else r

/-- Leaves out the lines that agree at either end. -/
def trimmed (s : Sides) (r : Region) : Region :=
  let fuel := (r.leftEnd - r.left).toNat
  (r.withoutStart s fuel).withoutEnd s fuel

/-- The diagonal that is farthest to the right, on which no line is put in before. -/
def greatest (r : Region) : Int := r.leftEnd - r.right

/-- The diagonal on which all lines are put in before. -/
def least (r : Region) : Int := r.left - r.rightEnd

end Region

/-- How far ways have got from one end, by the number of lines that were put in less those that
were left out, which is a diagonal. -/
structure Front where
  least : Int
  greatest : Int
  base : Int
  reached : Array Int

namespace Front

def start (r : Region) (x y : Int) : Front :=
  let size := (r.greatest - r.least + 3).toNat
  let base := 1 - r.least
  ⟨x - y, x - y, base, (Array.replicate size 0).setIfInBounds (x - y + base).toNat x⟩

/-- The farthest line of the first list on a diagonal. -/
def farthest (f : Front) (d : Int) : Int := f.reached.getD (d + f.base).toNat 0

def put (f : Front) (d x : Int) : Front :=
  { f with reached := f.reached.setIfInBounds (d + f.base).toNat x }

/-- The front of ways with one more line; beyond its edges stands a value that never counts. -/
def widened (f : Front) (r : Region) (never : Int) : Front :=
  let f := if r.least < f.least then { f.put (f.least - 2) never with least := f.least - 1 }
    else { f with least := f.least + 1 }
  if f.greatest < r.greatest then
    { f.put (f.greatest + 2) never with greatest := f.greatest + 1 }
  else { f with greatest := f.greatest - 1 }

def diagonals (f : Front) : List Int :=
  (List.range ((f.greatest - f.least) / 2 + 1).toNat).map fun (i : Nat) =>
    f.greatest - 2 * (i : Int)

def covers (f : Front) (d : Int) : Bool := f.least ≤ d && d ≤ f.greatest

end Front

/-- Goes down a diagonal while lines agree. -/
def goDown (s : Sides) (r : Region) (d : Int) : Nat → Int → Int
  | 0, x => x
  | fuel + 1, x =>
      if x < r.leftEnd && x - d < r.rightEnd && s.agree x (x - d) then goDown s r d fuel (x + 1)
      else x

/-- Goes up a diagonal while lines agree. -/
def goUp (s : Sides) (r : Region) (d : Int) : Nat → Int → Int
  | 0, x => x
  | fuel + 1, x =>
      if r.left < x && r.right < x - d && s.agree (x - 1) (x - d - 1) then goUp s r d fuel (x - 1)
      else x

/-- The place where ways from both ends meet first. -/
def meeting? (s : Sides) (r : Region) : Nat → Front → Front → Option (Int × Int)
  | 0, _, _ => none
  | fuel + 1, down, up =>
      let steps := (r.leftEnd - r.left).toNat
      let odd := (r.left - r.right - (r.leftEnd - r.rightEnd)) % 2 != 0
      let goneDown : Except (Int × Int) Front :=
        let wide := down.widened r (-1)
        wide.diagonals.foldlM (fun f d =>
          let (low, high) := (f.farthest (d - 1), f.farthest (d + 1))
          let x := goDown s r d steps (if low < high then high else low + 1)
          if odd && up.covers d && up.farthest d ≤ x then .error (x, x - d)
          else .ok (f.put d x)) wide
      match goneDown with
      | .error place => some place
      | .ok down =>
          let goneUp : Except (Int × Int) Front :=
            let wide := up.widened r (r.leftEnd + r.rightEnd + 2)
            wide.diagonals.foldlM (fun f d =>
              let (low, high) := (f.farthest (d - 1), f.farthest (d + 1))
              let x := goUp s r d steps (if low < high then low else high - 1)
              if !odd && down.covers d && x ≤ down.farthest d then .error (x, x - d)
              else .ok (f.put d x)) wide
          match goneUp with
          | .error place => some place
          | .ok up => meeting? s r fuel down up

def between (start stop : Int) : List Nat :=
  (List.range (stop - start).toNat).map fun i => start.toNat + i

/-- The lines that are left out of the one list and put into the other. -/
def unlike (s : Sides) : Nat → Region → List Nat × List Nat
  | 0, r => (between r.left r.leftEnd, between r.right r.rightEnd)
  | fuel + 1, r =>
      let r := r.trimmed s
      if r.left == r.leftEnd then ([], between r.right r.rightEnd)
      else if r.right == r.rightEnd then (between r.left r.leftEnd, [])
      else
        let most := (r.greatest - r.least).toNat
        match meeting? s r (most + 1) (.start r r.left r.right)
            (.start r r.leftEnd r.rightEnd) with
        | none => (between r.left r.leftEnd, between r.right r.rightEnd)
        | some (x, y) =>
            let (a, b) := unlike s fuel { r with leftEnd := x, rightEnd := y }
            let (c, d) := unlike s fuel { r with left := x, right := y }
            (a ++ c, b ++ d)

/-! The runs of lines, moved. -/

/-- A mark of a line; beyond either end there is none. -/
def marked (marks : Array Bool) (i : Int) : Bool :=
  if i < 0 then false else marks.getD i.toNat false

/-- The first line from one on that has no mark. -/
def firstUnmarked (marks : Array Bool) : Nat → Int → Int
  | 0, i => i
  | fuel + 1, i => if marked marks i then firstUnmarked marks fuel (i + 1) else i

/-- The first line from one back that has no mark. -/
def lastUnmarked (marks : Array Bool) : Nat → Int → Int
  | 0, i => i
  | fuel + 1, i => if marked marks i then lastUnmarked marks fuel (i - 1) else i

/-- A run of marked lines, with the place in the other list that is opposite its end, and the
last end at which the other list had a run opposite. -/
structure Run where
  marks : Array Bool
  start : Int
  stop : Int
  place : Int
  opposite : Int

namespace Run

/-- Marks a line or takes its mark away. -/
def set (run : Run) (i : Int) (mark : Bool) : Run :=
  { run with marks := run.marks.setIfInBounds i.toNat mark }

def raised (other : Array Bool) (run : Run) : Run :=
  let run := (run.set (run.start - 1) true).set (run.stop - 1) false
  let fuel := run.marks.size + other.size
  { run with
    start := lastUnmarked run.marks fuel (run.start - 2) + 1
    stop := run.stop - 1
    place := lastUnmarked other fuel (run.place - 1) }

/-- Moves the run up as far as it goes; it grows by runs that it meets. -/
def allRaised (lines : Array (List Char)) (other : Array Bool) : Nat → Run → Run
  | 0, run => run
  | fuel + 1, run =>
      if 0 < run.start && lines[(run.start - 1).toNat]? == lines[(run.stop - 1).toNat]? then
        allRaised lines other fuel (run.raised other)
      else run

/-- Moves the run down as far as it goes. -/
def allLowered (lines : Array (List Char)) (other : Array Bool) : Nat → Run → Run
  | 0, run => run
  | fuel + 1, run =>
      if run.stop < lines.size && lines[run.start.toNat]? == lines[run.stop.toNat]? then
        let run := (run.set run.start false).set run.stop true
        let most := run.marks.size + other.size
        let stop := firstUnmarked run.marks most (run.stop + 1)
        let place := firstUnmarked other most (run.place + 1)
        allLowered lines other fuel
          { run with
            start := run.start + 1
            stop
            place
            opposite := if place == run.place + 1 then run.opposite else stop }
      else run

/-- Moves the run up and down until it grows no more. -/
def grown (lines : Array (List Char)) (other : Array Bool) : Nat → Run → Run
  | 0, run => run
  | fuel + 1, run =>
      let most := lines.size + 1
      let up := run.allRaised lines other most
      let down := { up with
        opposite := if marked other (up.place - 1) then up.stop else lines.size }.allLowered
          lines other most
      if down.stop - down.start == run.stop - run.start then down else grown lines other fuel down

/-- Moves the run back to where the other list has one too. -/
def aligned (other : Array Bool) : Nat → Run → Run
  | 0, run => run
  | fuel + 1, run => if run.opposite < run.stop then aligned other fuel (run.raised other) else run

end Run

/-- Moves every run of marked lines from a line on, opposite a place in the other list. -/
def shifted (lines : Array (List Char)) (other : Array Bool) :
    Nat → Int → Int → Array Bool → Array Bool
  | 0, _, _, marks => marks
  | fuel + 1, i, place, marks =>
      let most := lines.size + other.size + 1
      if lines.size ≤ i then marks
      else if !marked marks i then
        shifted lines other fuel (i + 1) (firstUnmarked other most place + 1) marks
      else
        let stop := firstUnmarked marks most i
        let run : Run := ⟨marks, i, stop, firstUnmarked other most place, lines.size⟩
        let run := (run.grown lines other most).aligned other most
        shifted lines other fuel run.stop run.place run.marks

/-! The differences. -/

/-- Lines that are left out and lines that are put in at one place. -/
structure Hunk where
  left : Nat
  leftCount : Nat
  right : Nat
  rightCount : Nat

/-- The hunks that marks make, from two lines on. -/
def hunksOf (left right : Array Bool) : Nat → Nat → Nat → List Hunk
  | 0, _, _ => []
  | fuel + 1, i, j =>
      if left.size ≤ i && right.size ≤ j then []
      else
        let most := left.size + right.size + 1
        let a := (firstUnmarked left most i).toNat
        let b := (firstUnmarked right most j).toNat
        if a == i && b == j then hunksOf left right fuel (i + 1) (j + 1)
        else ⟨i, a - i, j, b - j⟩ :: hunksOf left right fuel a b

/-- A list of marks for the lines of some numbers. -/
def marksAt (size : Nat) (places : List Nat) : Array Bool :=
  places.foldl (fun marks i => marks.setIfInBounds i true) (Array.replicate size false)

def shared (lines other : Array (List Char)) : Array (Nat × List Char) :=
  (lines.mapIdx fun i line => (i, line)).filter fun (_, line) => other.contains line

/-- The hunks in which two texts differ. Lines that agree at either end are left out but for so
many around the rest. Of those that remain, only lines that both texts have are compared. -/
def hunks (around : Nat) (left right : Array (List Char)) : List Hunk :=
  let whole : Region := ⟨0, left.size, 0, right.size⟩
  let inner := whole.trimmed ⟨left, right⟩
  let (x, y) := (inner.left.toNat - around, inner.right.toNat - around)
  let a := left.extract x (inner.leftEnd.toNat + around)
  let b := right.extract y (inner.rightEnd.toNat + around)
  let (keptLeft, keptRight) := (shared a b, shared b a)
  let (apartLeft, apartRight) := unlike ⟨keptLeft.map Prod.snd, keptRight.map Prod.snd⟩
    (a.size + b.size + 1) ⟨0, keptLeft.size, 0, keptRight.size⟩
  let marks (size : Nat) (kept : Array (Nat × List Char)) (places : List Nat) : Array Bool :=
    let agreeing := marksAt kept.size places
    (kept.mapIdx fun i (place, _) => (i, place)).foldl (fun all (i, place) =>
      all.setIfInBounds place (marked agreeing i)) (Array.replicate size true)
  let first := marks a.size keptLeft apartLeft
  let second := marks b.size keptRight apartRight
  let most := a.size + b.size + 1
  let first := shifted a second most 0 0 first
  let second := shifted b first most 0 0 second
  (hunksOf first second most 0 0).map fun h => { h with left := h.left + x, right := h.right + y }

/-! How they are written. -/

/-- How lines are compared and differences written. -/
structure Manner where
  caseless : Bool := false
  /-- How many blanks there are does not matter. -/
  spaced : Bool := false
  /-- Blanks do not matter at all. -/
  blind : Bool := false
  /-- The number of lines around a difference that are shown too. -/
  around : Option Nat := none
  brief : Bool := false
  /-- It is told when files are the same. -/
  tells : Bool := false
  deep : Bool := false
  /-- Files that are not there are empty. -/
  lenient : Bool := false
  /-- Everything is text. -/
  text : Bool := false
  labels : List (List Char) := []
  /-- The options as they were given. -/
  options : List (List Char) := []

namespace Manner

/-- A blank for each run of blanks, none at the end. -/
def squeezedBlanks : List Char → List Char
  | [] => []
  | c :: rest =>
      let after := squeezedBlanks rest
      if c.isWhitespace then
        match after with
        | [] => []
        | d :: _ => if d == ' ' then after else ' ' :: after
      else c :: after

def key (m : Manner) (line : List Char) : List Char :=
  let line := if m.blind then line.filter fun c => !c.isWhitespace
    else if m.spaced then squeezedBlanks line else line
  if m.caseless then line.map Char.toLower else line

end Manner

def fullLines (text : List Char) : Array (List Char) :=
  let lines := linesOf text
  let ends := text.getLast? == some '\n'
  (lines.mapIdx fun i line =>
    if i + 1 == lines.length && !ends then line else line ++ ['\n']).toArray

/-- A line behind a sign. -/
def signedLine (sign line : List Char) : List Char :=
  sign ++ line ++
    if line.getLast? == some '\n' then [] else octets "\n\\ No newline at end of file\n"

/-- Some lines of a text behind a sign. -/
def signedLines (sign : List Char) (lines : Array (List Char)) (start count : Nat) : List Char :=
  (lines.extract start (start + count)).toList.flatMap (signedLine sign)

def lineRange (start count : Nat) : List Char :=
  if count == 0 then numeral start
  else if count == 1 then numeral (start + 1)
  else numeral (start + 1) ++ ',' :: numeral (start + count)

/-- A difference with the lines of both sides. -/
def plainHunk (left right : Array (List Char)) (h : Hunk) : List Char :=
  let sign := if h.leftCount == 0 then 'a' else if h.rightCount == 0 then 'd' else 'c'
  lineRange h.left h.leftCount ++ sign :: lineRange h.right h.rightCount ++ ['\n'] ++
    signedLines ['<', ' '] left h.left h.leftCount ++
    (if sign == 'c' then octets "---\n" else []) ++
    signedLines ['>', ' '] right h.right h.rightCount

/-- Differences that are so near each other that they are shown as one. -/
def gathered (around : Nat) : List Hunk → List (List Hunk)
  | [] => []
  | h :: rest =>
      match gathered around rest with
      | (next :: others) :: groups =>
          if next.left - (h.left + h.leftCount) ≤ 2 * around then (h :: next :: others) :: groups
          else [h] :: (next :: others) :: groups
      | groups => [h] :: groups

/-- Where some lines begin and how many they are. -/
def lineSpan (start count : Nat) : List Char :=
  if count == 1 then numeral (start + 1)
  else numeral (if count == 0 then start else start + 1) ++ ',' :: numeral count

/-- The differences of a group with the lines around them; `place` is the line that is next. -/
def joinedHunks (left right : Array (List Char)) : Nat → List Hunk → Nat × List Char
  | place, [] => (place, [])
  | place, h :: rest =>
      let (last, text) := joinedHunks left right (h.left + h.leftCount) rest
      (last, signedLines [' '] left place (h.left - place) ++
        signedLines ['-'] left h.left h.leftCount ++
        signedLines ['+'] right h.right h.rightCount ++ text)

def joinedGroup (around : Nat) (left right : Array (List Char)) (group : List Hunk) :
    List Char :=
  match group, group.getLast? with
  | first :: _, some last =>
      let before := min around first.left
      let after := min around (left.size - (last.left + last.leftCount))
      let (start, stop) := (first.left - before, last.left + last.leftCount + after)
      let (other, otherStop) := (first.right - before, last.right + last.rightCount + after)
      let (place, text) := joinedHunks left right start group
      octets "@@ -" ++ lineSpan start (stop - start) ++ octets " +" ++
        lineSpan other (otherStop - other) ++ octets " @@\n" ++ text ++
        signedLines [' '] left place (stop - place)
  | _, _ => []

/-- The name of a file with the time of its last change. -/
def dated (path : List Char) : Act (List Char) := do
  let now ← clock
  let changed : Int ← match ← find path with
    | .ok (_, e) => pure (if path == ['-'] then now else e.changed)
    | .error _ => pure now
  let millis := (clockStart * 1000 + changed).toNat
  let format := octets "%Y-%m-%d %H:%M:%S.%N %z"
  return path ++ '\t' :: shownDate (millis / 1000) (millis % 1000 * 1000000)
    (format.length + 1) format

/-- Writes in what two texts differ; gives the status. -/
def writeDifference (m : Manner) (title : List Char) (first second : List Char)
    (a b : List Char) : Act Nat := do
  let binary := !m.text && (a.contains '\x00' || b.contains '\x00')
  let (left, right) := (fullLines a, fullLines b)
  let found := if a == b then [] else if binary then [⟨0, 1, 0, 1⟩]
    else hunks (m.around.getD 0) (left.map m.key) (right.map m.key)
  if found.isEmpty then
    if m.tells then
      print (octets "Files " ++ first ++ octets " and " ++ second ++ octets " are identical\n")
    return 0
  else if m.brief || binary then
    print (octets (if m.brief then "Files " else "Binary files ") ++ first ++ octets " and " ++
      second ++ octets " differ\n")
    return if m.brief then 1 else 2
  else
    print title
    match m.around with
    | none => print (found.flatMap (plainHunk left right))
    | some around =>
        let name (i : Nat) (path : List Char) : Act (List Char) :=
          match m.labels[i]? with
          | some label => pure label
          | none => dated path
        print (octets "--- " ++ (← name 0 first) ++ octets "\n+++ " ++ (← name 1 second) ++ ['\n'])
        print ((gathered around found).flatMap (joinedGroup around left right))
    return 1

def textFor (call : Call) (m : Manner) (path : List Char) : Act (Option (List Char)) := do
  match ← contents path with
  | .ok text => return some text
  | .error t =>
      if m.lenient && t == .missing then return some []
      else blame call path t; return none

/-- What a path is when it is compared; none if there is nothing. -/
def isDirectoryAt? (path : List Char) : Act (Option Bool) := do
  if path == ['-'] then return some false
  match ← find path with
  | .ok (_, e) => return some e.isDirectory
  | .error _ => return none

def namesIn (path : List Char) : Act (List (List Char)) := do
  match ← find path with
  | .ok (id, _) => return ((← storage).names id).map Prod.fst
  | .error _ => return []

/-- Compares two files or directories; within directories, under a title. -/
def comparePaths (call : Call) (m : Manner) : Nat → Bool → List Char → List Char → Act Nat
  | 0, _, _, _ => return 2
  | fuel + 1, inner, first, second => do
      let (a, b) := (← isDirectoryAt? first, ← isDirectoryAt? second)
      match a, b with
      | some true, some true =>
          if inner && !m.deep then
            print (octets "Common subdirectories: " ++ first ++ octets " and " ++ second ++ ['\n'])
            return 0
          let (left, right) := (← namesIn first, ← namesIn second)
          let names := sorted (left ++ right.filter fun n => !left.contains n)
          names.foldlM (fun status name => do
            let (inLeft, inRight) := (left.contains name, right.contains name)
            if (inLeft && inRight) || m.lenient then
              return max status (← comparePaths call m fuel true (beside first name)
                (beside second name))
            print (octets "Only in " ++ (if inLeft then first else second) ++ octets ": " ++ name ++
              ['\n'])
            return max status 1) 0
      | some true, some false =>
          if inner then
            print (octets "File " ++ first ++ octets " is a directory while file " ++ second ++
              octets " is a regular file\n")
            return 1
          comparePaths call m fuel false (beside first (baseName second)) second
      | some false, some true =>
          if inner then
            print (octets "File " ++ first ++ octets " is a regular file while file " ++ second ++
              octets " is a directory\n")
            return 1
          comparePaths call m fuel false first (beside second (baseName first))
      | _, _ =>
          match ← textFor call m first, ← textFor call m second with
          | some left, some right =>
              let title := if inner then
                  [' '].intercalate (octets "diff" :: m.options ++ [first, second]) ++ ['\n']
                else []
              writeDifference m title first second left right
          | _, _ => return 2

def diff : Utility := fun call => do
  let o : Options :=
    { letters := "qsuU:ibwrNaL:"
      long := [("brief", 'q'), ("report-identical-files", 's'), ("unified", 'U'),
        ("ignore-case", 'i'), ("ignore-space-change", 'b'), ("ignore-all-space", 'w'),
        ("recursive", 'r'), ("new-file", 'N'), ("text", 'a'), ("label", 'L')]
      lenient := ["unified"] }
  match o.read (call.arguments.length + 1) [] [] call.arguments with
  | .error message => misusedTwice call message
  | .ok (given, operands) =>
      match operands with
      | [first, second] =>
          let m : Manner :=
            { caseless := has given 'i'
              spaced := has given 'b'
              blind := has given 'w'
              around := match last? given 'U' with
                | some text => some ((natural? text).getD 3)
                | none => if has given 'u' then some 3 else none
              brief := has given 'q'
              tells := has given 's'
              deep := has given 'r'
              lenient := has given 'N'
              text := has given 'a'
              labels := (given.filter fun (c, _) => c == 'L').map Prod.snd
              options := call.arguments.filter fun a => a.head? == some '-' && a.length != 1 }
          comparePaths call m 64 false first second
      | [] => misusedTwice call (octets "missing operand after " ++ quoted call.name)
      | [only] => misusedTwice call (octets "missing operand after " ++ quoted only)
      | _ => misusedTwice call (octets "extra operand " ++ quoted (operands.getD 2 []))

end ClusterLaunch.Shell.Utility
