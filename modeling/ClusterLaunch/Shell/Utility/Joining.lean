import ClusterLaunch.Shell.Utility.Lines

/-!
Utilities that put lines beside lines: those of several files in turn, those of two files
in order, those of two files with a field in common, and a line beside the one before it.
-/

namespace ClusterLaunch.Shell.Utility

open Act

def linesBy (finish : Char) (text : List Char) : List (List Char) :=
  let all := Text.pieces (· == finish) text
  match all.reverse with
  | [] :: rest => rest.reverse
  | _ => all

/-! In turn. -/

/-- What stands between the columns; none stands for nothing. -/
def pasteMarks : List Char → Option (List (Option Char))
  | [] => some []
  | ['\\'] => none
  | '\\' :: c :: rest =>
      let mark : Option Char := match c with
        | '0' => none
        | 'b' => some '\x08'
        | 'f' => some '\x0c'
        | 'n' => some '\n'
        | 'r' => some '\r'
        | 't' => some '\t'
        | 'v' => some '\x0b'
        | _ => some c
      (pasteMarks rest).map (mark :: ·)
  | c :: rest => (pasteMarks rest).map (some c :: ·)

/-- Lines with marks between them, which are taken in turn. -/
def pasted (marks : List (Option Char)) (lines : List (List Char)) : List Char :=
  (lines.mapIdx fun i line =>
    if i == 0 then line
    else (marks[(i - 1) % max 1 marks.length]?.join).toList ++ line).flatten

/-- A line from each source in turn, as often as there is any. Places that share a source take
turns at it. -/
def dealt (places : List Nat) : Nat → List (List (List Char)) → List (List (List Char))
  | 0, _ => []
  | fuel + 1, sources =>
      let (row, rest) := places.foldl
        (fun ((row, sources) : List (Option (List Char)) × List (List (List Char))) place =>
          let source := sources.getD place []
          (row ++ [source.head?], sources.set place (source.drop 1))) ([], sources)
      if row.all Option.isNone then []
      else row.map (·.getD []) :: dealt places fuel rest

def paste : Utility := fun call =>
  withOptions
    { letters := "d:sz"
      long := [("delimiters", 'd'), ("serial", 's'), ("zero-terminated", 'z')] } call
    fun given names => do
      let names := if names.isEmpty then [['-']] else names
      let finish := lineEnd given
      let wanted := (last? given 'd').getD ['\t']
      match pasteMarks (if wanted.isEmpty then ['\\', '0'] else wanted) with
      | none =>
          fail call (octets "delimiter list ends with an unescaped backslash: " ++ wanted)
      | some marks =>
          let write (lines : List (List Char)) : Act Unit := print (pasted marks lines ++ [finish])
          if has given 's' then
            eachInput call names fun _ text => write (linesBy finish text)
          else
            let distinct := names.foldl (fun all name =>
              if name == ['-'] && all.contains name then all else all ++ [name]) []
            let sources : List (Option (List (List Char))) ← distinct.mapM fun name => do
              match ← contents name with
              | .ok text => return some (linesBy finish text)
              | .error t => blame call name t; return none
            match sources.mapM id with
            | none => return 1
            | some sources =>
                let places := (names.foldl
                  (fun ((places, next) : List Nat × Nat) name =>
                    match (if name == ['-'] then distinct.idxOf? name else none) with
                    | some shared =>
                        (places ++ [shared], if shared < next then next else next + 1)
                    | none => (places ++ [next], next + 1)) ([], 0)).1
                let most := (sources.map List.length).foldl (· + ·) 1
                (dealt places most sources).forM write
                return 0

/-! In order. -/

/-- Whether the order of lines is looked at: never, once lines differ, or always. -/
inductive OrderCheck
  | never
  | later
  | always
  deriving BEq

def OrderCheck.ofGiven (given : Given) : OrderCheck :=
  match (given.filter fun (c, _) => c == 'K' || c == 'N').getLast? with
  | some ('K', _) => .always
  | some _ => .never
  | none => .later

/-- How far two files have been compared. -/
structure Comparing where
  first : List (List Char)
  second : List (List Char)
  /-- A line stood in one of them only. -/
  apart : Bool := false
  /-- The files that were told to be out of order. -/
  told : List Nat := []
  counts : List Nat := [0, 0, 0]

namespace Comparing

/-- Looks at the order of two lines; says whether it goes on. -/
def check (call : Call) (order : OrderCheck) (s : Comparing) (file : Nat) (a b : List Char) :
    Act (Comparing × Bool) := do
  let looks := match order with
    | .never => false
    | .later => s.apart
    | .always => true
  if looks && !s.told.contains file && precedes b a then
    warn call (octets "file " ++ numeral file ++ octets " is not in sorted order")
    return ({ s with told := file :: s.told }, order != .always)
  return (s, true)

/-- Looks at the order around the first line that is left of a file. -/
def checkNext (call : Call) (order : OrderCheck) (s : Comparing) (file : Nat)
    (before : Option (List Char)) (line : List Char) (rest : List (List Char)) :
    Act (Comparing × Bool) := do
  match rest, before with
  | next :: _, _ => s.check call order file line next
  | [], some before => s.check call order file before line
  | [], none => return (s, true)

end Comparing

def comm : Utility := fun call =>
  withOptions
    { letters := "123zO:"
      long := [("zero-terminated", 'z'), ("check-order", 'K'), ("nocheck-order", 'N'),
        ("output-delimiter", 'O'), ("total", 'T')] } call fun given names => do
    match names with
    | [first, second] =>
        match ← contents first with
        | .error t => blame call first t; return 1
        | .ok a =>
            match ← contents second with
            | .error t => blame call second t; return 1
            | .ok b =>
                let finish := lineEnd given
                let order := OrderCheck.ofGiven given
                let mark := (last? given 'O').getD ['\t']
                let shows (n : Nat) : Bool := !has given (Char.ofNat (48 + n))
                let lead (n : Nat) : List Char :=
                  (((List.range (n - 1)).filter fun i => shows (i + 1)).map fun _ => mark).flatten
                let tell (s : Comparing) (n : Nat) (line : List Char) : Act Comparing := do
                  if shows n then print (lead n ++ line ++ [finish])
                  return { s with
                    counts := s.counts.modify (n - 1) (· + 1)
                    apart := s.apart || n != 3 }
                let total (s : Comparing) : Act Unit := do
                  if has given 'T' then
                    print (mark.intercalate (s.counts.map numeral) ++ mark ++ octets "total" ++
                      [finish])
                let leave (s : Comparing) : Act Nat := do
                  total s
                  if s.told.isEmpty then return 0
                  fail call (octets "input is not in sorted order")
                let lines (text : List Char) : List (List Char) := linesBy finish text
                let most := (lines a).length + (lines b).length + 1
                let rec go (fuel : Nat) (s : Comparing) (lastOne lastTwo : Option (List Char)) :
                    Act Nat := do
                  match fuel with
                  | 0 => leave s
                  | fuel + 1 =>
                      match s.first, s.second with
                      | [], [] => leave s
                      | x, y =>
                          let n := match x, y with
                            | l :: _, r :: _ => if l == r then 3 else if precedes l r then 1 else 2
                            | _ :: _, [] => 1
                            | [], _ => 2
                          let line := (if n == 2 then y else x).headD []
                          let s ← tell s n line
                          let (x, one) := if n == 2 then (x, lastOne) else (x.drop 1, x.head?)
                          let (y, two) := if n == 1 then (y, lastTwo) else (y.drop 1, y.head?)
                          let s := { s with first := x, second := y }
                          let (s, goes) ←
                            if n != 2 then s.checkNext call order 1 lastOne line x
                            else pure (s, true)
                          if !goes then return 1
                          let (s, goes) ←
                            if n != 1 then s.checkNext call order 2 lastTwo line y
                            else pure (s, true)
                          if !goes then return 1
                          go fuel s one two
                go most { first := lines a, second := lines b } none none
    | [] => lacking call
    | [only] => misused call (octets "missing operand after " ++ quoted only)
    | _ => misused call (octets "extra operand " ++ quoted (names.getD 2 []))

/-! With a field in common. -/

/-- A line with its fields. -/
structure Joined where
  line : List Char
  fields : List (List Char)

/-- The fields of a line between marks, or between blanks. -/
def joinFields (mark : Option Char) (line : List Char) : List (List Char) :=
  match mark with
  | some c => if line.isEmpty then [] else Text.pieces (· == c) line
  | none =>
      let isGap (c : Char) : Bool := c == ' ' || c == '\t'
      let rec words : Nat → List Char → List (List Char)
        | 0, _ => []
        | fuel + 1, text =>
            let word := text.takeWhile fun c => !isGap c
            match text.drop word.length with
            | [] => [word]
            | rest => word :: words fuel (rest.dropWhile isGap)
      match line.dropWhile isGap with
      | [] => []
      | text => words (text.length + 1) text

/-- A field that is written: the common one, or one of a file. -/
inductive JoinField
  | common
  | own (file place : Nat)

def joinFields? (text : List Char) : Except (List Char) (List JoinField) :=
  ((Text.pieces (fun c => c == ',' || c == ' ' || c == '\t') text).filter fun p =>
      !p.isEmpty).mapM fun part =>
    match part with
    | ['0'] => .ok .common
    | file :: '.' :: place =>
        if file != '1' && file != '2' then
          .error (octets "invalid file number in field spec: " ++ quoted part)
        else match natural? place with
          | some n =>
              if n == 0 then .error (octets "invalid field number: " ++ quoted place)
              else .ok (.own (if file == '1' then 1 else 2) n)
          | none => .error (octets "invalid field number: " ++ quoted place)
    | _ => .error (octets "invalid field specifier: " ++ quoted part)

/-- How two files are joined. -/
structure Joint where
  mark : Option Char := none
  firstField : Nat := 1
  secondField : Nat := 1
  caseless : Bool := false
  filler : List Char := []
  shown : Option (List JoinField) := none
  /-- The files whose lines are written even if they have no partner. -/
  alone : List Nat := []
  pairs : Bool := true
  finish : Char := '\n'

namespace Joint

def key (j : Joint) (file : Nat) (l : Joined) : List Char :=
  l.fields.getD ((if file == 1 then j.firstField else j.secondField) - 1) []

def order (j : Joint) (a b : List Char) : Ordering :=
  let (a, b) := if j.caseless then (a.map Char.toLower, b.map Char.toLower) else (a, b)
  if a == b then .eq else if precedes a b then .lt else .gt

/-- The line of two partners, of which one may be missing. -/
def text (j : Joint) (a b : Option Joined) : List Char :=
  let filled (field : Option (List Char)) : List Char :=
    match field with
    | some text => if text.isEmpty then j.filler else text
    | none => j.filler
  let common : List Char := match a, b with
    | some a, _ => filled (some (j.key 1 a))
    | none, some b => filled (some (j.key 2 b))
    | none, none => []
  let others (l : Option Joined) (place : Nat) : List (List Char) :=
    match l with
    | none => []
    | some l => ((l.fields.mapIdx fun i f => (i + 1, f)).filter fun (n, _) => n != place).map
        fun (_, f) => filled (some f)
  let fields := match j.shown with
    | some fields => fields.map fun field =>
        match field with
        | .common => common
        | .own 1 place => filled (a.bind fun l => l.fields[place - 1]?)
        | .own _ place => filled (b.bind fun l => l.fields[place - 1]?)
    | none => common :: others a j.firstField ++ others b j.secondField
  [j.mark.getD ' '].intercalate fields ++ [j.finish]

end Joint

/-- How far two files have been joined: what is left of them, the numbers of their lines that
were read, whether a line had no partner, and which were told to be out of order. -/
structure Joins where
  first : List Joined
  second : List Joined
  numbers : Nat × Nat := (1, 1)
  apart : Bool := false
  told : List Nat := []

/-- Reads on in a file; says whether its order lets it go on. -/
def joinNext (call : Call) (j : Joint) (order : OrderCheck) (names : List (List Char))
    (file : Nat) (s : Joins) : Act (Joins × Bool) := do
  let lines := if file == 1 then s.first else s.second
  let number := (if file == 1 then s.numbers.1 else s.numbers.2) + 1
  let s := if file == 1 then { s with first := lines.drop 1, numbers := (number, s.numbers.2) }
    else { s with second := lines.drop 1, numbers := (s.numbers.1, number) }
  match lines with
  | before :: next :: _ =>
      let looks := match order with
        | .never => false
        | .later => s.apart
        | .always => true
      if looks && !s.told.contains file &&
          j.order (j.key file before) (j.key file next) == .gt then
        warn call (names.getD (file - 1) [] ++ ':' :: numeral number ++
          octets ": is not sorted: " ++ next.line)
        return ({ s with told := file :: s.told }, order != .always)
      return (s, true)
  | _ => return (s, true)

/-- Reads on so many times. -/
def joinOn (call : Call) (j : Joint) (order : OrderCheck) (names : List (List Char))
    (file : Nat) : Nat → Joins → Act (Joins × Bool)
  | 0, s => return (s, true)
  | count + 1, s => do
      let (s, goes) ← joinNext call j order names file s
      if goes then joinOn call j order names file count s else return (s, false)

/-- Joins what is left of two files. -/
def joinAll (call : Call) (j : Joint) (order : OrderCheck) (names : List (List Char)) :
    Nat → Joins → Act Nat
  | 0, _ => return 0
  | fuel + 1, s => do
      let alone (file : Nat) (l : Joined) : Act Unit := do
        if j.alone.contains file then
          print (if file == 1 then j.text (some l) none else j.text none (some l))
      match s.first, s.second with
      | [], [] =>
          if s.told.isEmpty then return 0
          fail call (octets "input is not in sorted order")
      | a :: _, [] =>
          alone 1 a
          let (s, goes) ← joinNext call j order names 1 s
          if goes then joinAll call j order names fuel s else return 1
      | [], b :: _ =>
          alone 2 b
          let (s, goes) ← joinNext call j order names 2 s
          if goes then joinAll call j order names fuel s else return 1
      | a :: _, b :: _ =>
          match j.order (j.key 1 a) (j.key 2 b) with
          | .lt =>
              alone 1 a
              let (s, goes) ← joinNext call j order names 1 s
              if goes then joinAll call j order names fuel { s with apart := true } else return 1
          | .gt =>
              alone 2 b
              let (s, goes) ← joinNext call j order names 2 s
              if goes then joinAll call j order names fuel { s with apart := true } else return 1
          | .eq =>
              let left := s.first.takeWhile fun l => j.order (j.key 1 l) (j.key 2 b) == .eq
              let right := s.second.takeWhile fun l => j.order (j.key 1 a) (j.key 2 l) == .eq
              let (s, goes) ← joinOn call j order names 1 left.length s
              if !goes then return 1
              let (s, goes) ← joinOn call j order names 2 right.length s
              if !goes then return 1
              if j.pairs then
                print (left.flatMap fun l => right.flatMap fun r => j.text (some l) (some r))
              joinAll call j order names fuel s

def join : Utility := fun call =>
  withOptions
    { letters := "1:2:j:t:a:v:e:o:iz"
      long := [("ignore-case", 'i'), ("zero-terminated", 'z'), ("header", 'H'),
        ("check-order", 'K'), ("nocheck-order", 'N')] } call fun given names => do
    let field (letter : Char) : Option (List Char) := (last? given letter).or (last? given 'j')
    let wrong := (given.filter fun (c, _) => c == '1' || c == '2' || c == 'j').find?
      fun (_, text) => ((natural? text).getD 0) == 0
    let files (letters : List Char) : List (List Char) :=
      (given.filter fun (c, _) => letters.contains c).map Prod.snd
    let badFile := (files ['a', 'v']).find? fun t => t != ['1'] && t != ['2']
    let marks := (last? given 't').map fun t => if t == ['\\', '0'] then ['\x00'] else t
    let shown := (last? given 'o').map joinFields?
    match wrong, badFile, marks, shown, names with
    | some (_, text), _, _, _, _ => fail call (octets "invalid field number: " ++ quoted text)
    | _, some text, _, _, _ => fail call (octets "invalid field number: " ++ quoted text)
    | _, _, some (_ :: _ :: _), _, _ =>
        fail call (octets "multi-character tab " ++ quoted ((last? given 't').getD []))
    | _, _, _, some (.error message), _ => fail call message
    | _, _, _, _, [] => lacking call
    | _, _, _, _, [only] => misused call (octets "missing operand after " ++ quoted only)
    | _, _, _, _, [first, second] =>
        let j : Joint :=
          { mark := match marks with
              | some [] => some '\n'
              | some (c :: _) => some c
              | none => none
            firstField := ((field '1').bind natural?).getD 1
            secondField := ((field '2').bind natural?).getD 1
            caseless := has given 'i'
            filler := (last? given 'e').getD []
            shown := match shown with
              | some (.ok fields) => some fields
              | _ => none
            alone := (files ['a', 'v']).filterMap natural?
            pairs := (files ['v']).isEmpty
            finish := lineEnd given }
        match ← contents first with
        | .error t => blame call first t; return 1
        | .ok a =>
            match ← contents second with
            | .error t => blame call second t; return 1
            | .ok b =>
                let read (text : List Char) : List Joined :=
                  (linesBy j.finish text).map fun line => ⟨line, joinFields j.mark line⟩
                let (left, right) := (read a, read b)
                let order := OrderCheck.ofGiven given
                let most := left.length + right.length + 2
                if has given 'H' then
                  if left.isEmpty && right.isEmpty then return 0
                  print (j.text left.head? right.head?)
                  joinAll call j order names most
                    { first := left.drop 1, second := right.drop 1, numbers := (2, 2) }
                else joinAll call j order names most { first := left, second := right }
    | _, _, _, _, _ => misused call (octets "extra operand " ++ quoted (names.getD 2 []))

/-! Beside the one before. -/

/-- Lines next to each other that count as the same. -/
def equalRuns (key : List Char → List Char) : List (List Char) → List (List (List Char))
  | [] => []
  | line :: rest =>
      match equalRuns key rest with
      | (next :: others) :: runs =>
          if key line == key next then (line :: next :: others) :: runs
          else [line] :: (next :: others) :: runs
      | runs => [line] :: runs

/-- Where empty lines stand between the runs that are written. -/
inductive Separation
  | none
  | before
  | between
  | after
  | around

/-- Runs with empty lines as they are wanted. -/
def separated (separation : Separation) (finish : Char) (runs : List (List Char)) : List Char :=
  match separation with
  | .none => runs.flatten
  | .before => runs.flatMap (finish :: ·)
  | .between => [finish].intercalate runs
  | .after => runs.flatMap (· ++ [finish])
  | .around => if runs.isEmpty then [] else finish :: runs.flatMap (· ++ [finish])

def Separation.ofWord? (word : List Char) : Option Separation :=
  [("none", Separation.none), ("prepend", .before), ("separate", .between), ("append", .after),
    ("both", .around)].lookup (String.ofList word)

def uniq : Utility := fun call =>
  withOptions
    { letters := "cduDif:s:w:zG:A:"
      long := [("count", 'c'), ("repeated", 'd'), ("unique", 'u'), ("ignore-case", 'i'),
        ("skip-fields", 'f'), ("skip-chars", 's'), ("check-chars", 'w'), ("zero-terminated", 'z'),
        ("group", 'G'), ("all-repeated", 'A')]
      lenient := ["group", "all-repeated"] } call
    fun given names => do
      let count (letter : Char) : Nat := ((last? given letter).bind natural?).getD 0
      let finish := lineEnd given
      let skipField (line : List Char) : List Char :=
        (line.dropWhile Char.isWhitespace).dropWhile fun c => !c.isWhitespace
      let key (line : List Char) : List Char :=
        let line := (Nat.repeat skipField (count 'f') line).drop (count 's')
        let line := match last? given 'w' with
          | some _ => line.take (count 'w')
          | none => line
        if has given 'i' then line.map Char.toLower else line
      let wrong := given.findSome? fun (c, text) =>
        let what := [('f', "fields to skip"), ('s', "bytes to skip"),
          ('w', "bytes to compare")].lookup c
        what.bind fun what => if (natural? text).isSome then none else some (text, what)
      let word (letter : Char) : Option (List Char) := last? given letter
      let all := has given 'D' || has given 'A'
      match wrong, names with
      | some (text, what), _ => fail call (text ++ octets (": invalid number of " ++ what))
      | none, _ :: _ :: extra :: _ => misused call (octets "extra operand " ++ quoted extra)
      | none, _ =>
          if has given 'G' && (all || ['c', 'd', 'u'].any (has given)) then
            misused call (octets "--group is mutually exclusive with -c/-d/-D/-u")
          else if all && has given 'c' then
            misused call
              (octets "printing all duplicated lines and repeat counts is meaningless")
          else match ← contents (names.headD ['-']) with
          | .error t => blame call (names.headD ['-']) t; return 1
          | .ok text =>
              let runs := equalRuns key (linesBy finish text)
              let written (lines : List (List Char)) : List Char := lines.flatMap (· ++ [finish])
              let output :=
                if has given 'G' then
                  let separation := ((word 'G').bind Separation.ofWord?).getD .between
                  separated separation finish (runs.map written)
                else if all then
                  let separation := ((word 'A').bind Separation.ofWord?).getD .none
                  let kept := runs.filter fun run => 1 < run.length
                  separated separation finish (kept.map written)
                else
                  let kept := runs.filter fun run =>
                    (!has given 'd' || 1 < run.length) && (!has given 'u' || run.length == 1)
                  kept.flatMap fun run =>
                    (if has given 'c' then padLeft 7 (numeral run.length) ++ [' '] else []) ++
                      run.headD [] ++ [finish]
              match names with
              | _ :: target :: _ =>
                  match ← openPath target .write with
                  | .ok index => setChannel fileChannel index; emit fileChannel output; return 0
                  | .error t => blame call target t; return 1
              | _ => print output; return 0

end ClusterLaunch.Shell.Utility
