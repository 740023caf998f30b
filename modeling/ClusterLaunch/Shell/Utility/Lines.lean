import ClusterLaunch.Shell.Expression
import ClusterLaunch.Shell.Figure
import ClusterLaunch.Shell.Utility

/-!
Utilities that pass lines on: all of them, the first or last ones, counted or
numbered, and lines that they make themselves.
-/

namespace ClusterLaunch.Shell.Utility

open Act

/-- How unprintable octets are shown. -/
def visible (ends tabs : Bool) (text : List Char) : List Char :=
  text.flatMap fun c =>
    let n := c.toNat
    let low (n : Nat) : List Char :=
      if n < 32 then ['^', Char.ofNat (n + 64)] else if n == 127 then ['^', '?'] else [Char.ofNat n]
    if c == '\n' then (if ends then ['$', '\n'] else ['\n'])
    else if c == '\t' then (if tabs then ['^', 'I'] else ['\t'])
    else if n < 128 then low n
    else 'M' :: '-' :: low (n - 128)

/-- Numbers lines from a number on; gives the next number as well. -/
def numbered (skipsEmpty : Bool) (start : Nat) (text : List Char) : List Char × Nat :=
  let ends := text.getLast? == some '\n'
  let lines := linesOf text
  let count := lines.length
  let (parts, next) := (lines.mapIdx fun i l => (i, l)).foldl
    (fun ((parts, n) : List (List Char) × Nat) (i, line) =>
      let finish := if i + 1 == count && !ends then [] else ['\n']
      if skipsEmpty && line.isEmpty then ((line ++ finish) :: parts, n)
      else ((padLeft 6 (numeral n) ++ '\t' :: line ++ finish) :: parts, n + 1)) ([], start)
  (parts.reverse.flatten, next)

/-- Lets only one of several empty lines stand. -/
def squeezed : List (List Char) → List (List Char)
  | [] :: [] :: rest => squeezed ([] :: rest)
  | line :: rest => line :: squeezed rest
  | [] => []

def cat : Utility := fun call =>
  withOptions
    { letters := "AbeEnstTuv"
      long := [("show-all", 'A'), ("number-nonblank", 'b'), ("show-ends", 'E'), ("number", 'n'),
        ("squeeze-blank", 's'), ("show-tabs", 'T'), ("show-nonprinting", 'v')] } call
    fun given names => do
      let plain := given.all fun (c, _) => c == 'u'
      if plain then
        (if names.isEmpty then [['-']] else names).foldlM (fun status name => do
          let copied ← withInput name fun channel =>
            iterate (fun () => do
              match ← readSome channel portion with
              | .error t => return .inr (some t)
              | .ok [] => return .inr none
              | .ok text => print text; return .inl ()) manyTimes ()
          match copied with
          | .ok none => return status
          | .ok (some t) | .error t => blame call name t; return 1) 0
      else
        let (text, status) ← allInput call names
        let text := if has given 's' then
            let all := unlines (squeezed (linesOf text))
            if text.getLast? == some '\n' || text.isEmpty then all else all.dropLast
          else text
        let text := if has given 'b' then (numbered true 1 text).1
          else if has given 'n' then (numbered false 1 text).1 else text
        let all := has given 'A'
        let shows := all || has given 'v' || has given 'e' || has given 't'
        let ends := all || has given 'E' || has given 'e'
        let tabs := all || has given 'T' || has given 't'
        print (if shows then visible ends tabs text
          else text.flatMap fun c =>
            if c == '\n' && ends then ['$', '\n']
            else if c == '\t' && tabs then ['^', 'I'] else [c])
        return status

/-- A number that may have a letter for a multiple behind it. -/
def multiple? (text : List Char) : Option Nat :=
  let digits := text.takeWhile Text.isDigit
  let factor := match String.ofList (text.drop digits.length) with
    | "" => some 1
    | "b" => some 512
    | "kB" => some 1000
    | "K" | "k" | "KiB" => some 1024
    | "MB" => some 1000000
    | "M" | "m" | "MiB" => some 1048576
    | "GB" => some 1000000000
    | "G" | "GiB" => some 1073741824
    | _ => none
  if digits.isEmpty then none else factor.map (· * Text.digitsValue digits)

def shownName (name : List Char) : List Char :=
  if name == ['-'] then octets "standard input" else name

/-- Writes the parts of files, each under its name if there are several. -/
def headed (call : Call) (given : Given) (names : List (List Char))
    (part : Nat → Act (Except Trouble Unit)) : Act Nat := do
  let names := if names.isEmpty then [['-']] else names
  let titled := has given 'v' || (1 < names.length && !has given 'q')
  let (_, status) ← names.foldlM (fun ((first, status) : Bool × Nat) name => do
    let done ← withInput name fun channel => do
      if titled then
        print ((if first then [] else ['\n']) ++ octets "==> " ++ shownName name ++
          octets " <==\n")
      part channel
    match done with
    | .ok (.ok ()) => return (false, status)
    | .ok (.error t) =>
        warn call (octets "error reading " ++ quoted (shownName name) ++ octets ": " ++ t.text)
        return (false, 1)
    | .error t =>
        warn call (octets "cannot open " ++ quoted name ++ octets " for reading: " ++ t.text)
        return (first, 1)) (true, 0)
  return status

/-- Arguments in which a count by itself is made an option. -/
def withCount (signs : List Char) : List (List Char) → List (List Char)
  | (sign :: c :: rest) :: others =>
      if signs.contains sign && Text.isDigit c then
        let digits := (c :: rest).takeWhile Text.isDigit
        let letters := (c :: rest).drop digits.length
        let count := if sign == '+' then '+' :: digits else digits
        let unit := if letters.contains 'c' then ['-', 'c'] else ['-', 'n']
        unit :: count :: (if letters.contains 'f' then [['-', 'f']] else []) ++ others
      else (sign :: c :: rest) :: others
  | arguments => arguments

def countOptions : Options :=
  { letters := "n:c:qvzfF"
    long := [("lines", 'n'), ("bytes", 'c'), ("quiet", 'q'), ("silent", 'q'), ("verbose", 'v'),
      ("zero-terminated", 'z'), ("follow", 'f')] }

/-- Reads so many lines, or octets, and writes them. -/
def passFirst (lines : Bool) (count : Nat) (channel : Nat) : Act (Except Trouble Unit) := do
  let result ← iterate (fun ((parts, left) : List (List Char) × Nat) => do
    let finish (result : Except Trouble (List Char)) :
        Act ((List (List Char) × Nat) ⊕ Except Trouble (List Char)) :=
      return .inr result
    if left == 0 then finish (.ok parts.reverse.flatten)
    else
      match ← if lines then readLine channel else readSome channel (min left portion) with
      | .error t => finish (.error t)
      | .ok [] => finish (.ok parts.reverse.flatten)
      | .ok text =>
          return .inl (text :: parts, if lines then left - 1 else left - text.length))
    manyTimes ([], count)
  match result with
  | .error t => return .error t
  | .ok text =>
      if lines then readAhead channel
      print text
      return .ok ()

def lineEnd (given : Given) : Char := if has given 'z' then '\x00' else '\n'

/-- The lines of a text with what ends them; the last one may lack it. -/
def endedLines (finish : Char) (text : List Char) : List (List Char) :=
  let all := Text.pieces (· == finish) text
  let ended := all.dropLast.map (· ++ [finish])
  match all.getLast? with
  | some (c :: rest) => ended ++ [c :: rest]
  | _ => ended

def counted (finish : Char) (lines : Bool) (text : List Char) : List (List Char) :=
  if lines then endedLines finish text else text.map fun c => [c]

/-- The first parts of a text. -/
def firstOf (finish : Char) (lines : Bool) (count : Nat) (text : List Char) : List Char :=
  ((counted finish lines text).take count).flatten

/-- What is left of a text without its last parts. -/
def withoutLast (finish : Char) (lines : Bool) (count : Nat) (text : List Char) : List Char :=
  let all := counted finish lines text
  (all.take (all.length - count)).flatten

/-- The last parts of a text. -/
def lastOf (finish : Char) (lines : Bool) (count : Nat) (text : List Char) : List Char :=
  let all := counted finish lines text
  (all.drop (all.length - count)).flatten

def fromOn (finish : Char) (lines : Bool) (count : Nat) (text : List Char) : List Char :=
  ((counted finish lines text).drop (count - 1)).flatten

def head : Utility := fun call =>
  let call := { call with arguments := withCount ['-'] call.arguments }
  withOptions countOptions call fun given names => do
    let chosen := (given.reverse.find? fun (c, _) => c == 'n' || c == 'c')
    let lines := (chosen.map Prod.fst) != some 'c'
    let value := (chosen.map Prod.snd).getD ['1', '0']
    let (negative, digits) := match value with
      | '-' :: rest => (true, rest)
      | '+' :: rest => (false, rest)
      | _ => (false, value)
    match multiple? digits with
    | none =>
        fail call (octets (if lines then "invalid number of lines: " else
          "invalid number of bytes: ") ++ quoted value)
    | some count =>
        headed call given names fun channel => do
          if negative || has given 'z' then
            match ← readAll channel with
            | .error t => return .error t
            | .ok text =>
                let take := if negative then withoutLast else firstOf
                print (take (lineEnd given) lines count text)
                return .ok ()
          else passFirst lines count channel

def tail : Utility := fun call =>
  let call := { call with arguments := withCount ['-', '+'] call.arguments }
  withOptions { countOptions with letters := "n:c:qvzfFs:", lenient := ["follow"] } call
    fun given names => do
      let chosen := (given.reverse.find? fun (c, _) => c == 'n' || c == 'c')
      let lines := (chosen.map Prod.fst) != some 'c'
      let value := (chosen.map Prod.snd).getD ['1', '0']
      let (onward, digits) := match value with
        | '+' :: rest => (true, rest)
        | '-' :: rest => (false, rest)
        | _ => (false, value)
      match multiple? digits with
      | none =>
          fail call (octets (if lines then "invalid number of lines: " else
            "invalid number of bytes: ") ++ quoted value)
      | some count =>
          let status ← headed call given names fun channel => do
            match ← readAll channel with
            | .error t => return .error t
            | .ok text =>
                let take := if onward then fromOn else lastOf
                print (take (lineEnd given) lines count text)
                return .ok ()
          if has given 'f' || has given 'F' then Act.sleep 1000000000000
          return status

def tee : Utility := fun call =>
  withOptions { letters := "aip", long := [("append", 'a')] } call fun given names => do
    let opened ← names.mapM fun name => do
      match ← openPath name (if has given 'a' then .append else .write) with
      | .ok index => return (name, some index)
      | .error t => blame call name t; return (name, none)
    let outer ← process
    let copied ← iterate (fun () => do
      match ← readSome 0 portion with
      | .ok [] => return .inr none
      | .error t => return .inr (some t)
      | .ok text =>
          print text
          opened.forM fun (_, index) => do
            match index with
            | none => pure ()
            | some index =>
                setChannel fileChannel index
                emit fileChannel text
          return .inl ()) manyTimes ()
    modifyProcess fun p => { p with channels := outer.channels }
    match copied with
    | some t => blame call ['-'] t; return 1
    | none => return if opened.any fun (_, index) => index.isNone then 1 else 0

def yes : Utility := fun call =>
  withOptions { letters := "", mixed := false } call fun _ words => do
    let line := (if words.isEmpty then ['y'] else [' '].intercalate words) ++ ['\n']
    let block := (List.replicate (8192 / line.length + 1) line).flatten
    iterate (fun () => do
      tick
      match ← write 1 block with
      | .ok () => return .inl ()
      | .error t =>
          warn call (octets "standard output: " ++ t.text)
          return .inr 1) manyTimes ()

/-- A number as a whole number of units, and how many places it has. -/
def decimal? (text : List Char) : Option (Int × Nat) :=
  let (negative, bare) := match text with
    | '-' :: rest => (true, rest)
    | '+' :: rest => (false, rest)
    | _ => (false, text)
  match bare with
  | '0' :: 'x' :: digits =>
      (Text.readNumeral? 16 digits).map fun n => (if negative then -(n : Int) else n, 0)
  | _ =>
  match Figure.decimalAt text with
  | some (d, []) =>
      let sign : Int := if d.negative then -1 else 1
      if d.places < 0 then some (sign * (d.digits * Nat.pow 10 (-d.places).toNat : Nat), 0)
      else some (sign * (d.digits : Nat), d.places.toNat)
  | _ => none

/-- The text of a number of units with some places behind the point. -/
def decimalText (units : Int) (places : Nat) : List Char :=
  let digits := numeral units.natAbs
  let digits := List.replicate (places + 1 - digits.length) '0' ++ digits
  let whole := digits.take (digits.length - places)
  let sign := if units < 0 then ['-'] else []
  let part := digits.drop (digits.length - places)
  if places == 0 then sign ++ whole else sign ++ whole ++ '.' :: part

/-- Arguments behind options, where a negative number is none. -/
def seqArguments : List (List Char) → List (List Char)
  | [] => []
  | argument :: rest =>
      match argument with
      | ['-', '-'] => argument :: rest
      | '-' :: c :: _ =>
          if Text.isDigit c || c == '.' then ['-', '-'] :: argument :: rest
          else if ["-s", "-f"].contains (String.ofList argument) then
            match rest with
            | value :: rest => argument :: value :: seqArguments rest
            | [] => [argument]
          else argument :: seqArguments rest
      | _ => ['-', '-'] :: argument :: rest

/-- A format up to its first directive, with what stands behind the sign that begins that. -/
def untilDirective : List Char → List Char × List Char
  | [] => ([], [])
  | '%' :: '%' :: rest =>
      let (lead, rest) := untilDirective rest
      ('%' :: lead, rest)
  | '%' :: rest => ([], rest)
  | c :: rest =>
      let (lead, rest) := untilDirective rest
      (c :: lead, rest)

def hasDirective : List Char → Bool
  | [] => false
  | '%' :: '%' :: rest => hasDirective rest
  | '%' :: _ => true
  | _ :: rest => hasDirective rest

/-- What is wrong with a format that is to show a number. -/
def formatFault? (format : List Char) : Option (List Char) :=
  if !hasDirective format then some (octets " has no % directive")
  else
    let rest := (untilDirective format).2.dropWhile fun c => ['0', '-', '+', ' ', '#'].contains c
    let rest := rest.dropWhile Text.isDigit
    let rest := match rest with
      | '.' :: rest => rest.dropWhile Text.isDigit
      | _ => rest
    match rest with
    | [] => some (octets " ends in %")
    | letter :: rest =>
        if not (['e', 'f', 'g', 'a', 'E', 'F', 'G', 'A'].contains letter) then
          some (octets " has unknown %" ++ letter :: octets " directive")
        else if hasDirective rest then some (octets " has too many % directives")
        else none

def seq : Utility := fun call =>
  let call := { call with arguments := seqArguments call.arguments }
  withOptions
    { letters := "s:wf:"
      long := [("separator", 's'), ("equal-width", 'w'), ("format", 'f')]
      mixed := false } call fun given operands => do
    if operands.isEmpty then lacking call
    else if 3 < operands.length then
      misused call (octets "extra operand " ++ quoted (operands.getD 3 []))
    else match operands.find? (fun o => (decimal? o).isNone),
        (last? given 'f').bind formatFault? with
      | some wrong, _ =>
          let what := if wrong.map Char.toLower == octets "nan" then "'not-a-number'"
            else "floating point"
          misused call (octets ("invalid " ++ what ++ " argument: ") ++ quoted wrong)
      | none, some fault =>
          fail call (octets "format " ++ quoted ((last? given 'f').getD []) ++ fault)
      | none, none =>
          if has given 'f' && has given 'w' then
            misused call (octets
              "format string may not be specified when printing equal width strings")
          else
          let numbers := operands.filterMap decimal?
          let (first, step, last) := match numbers with
            | [last] => ((1, 0), (1, 0), last)
            | [first, last] => (first, (1, 0), last)
            | first :: step :: last :: _ => (first, step, last)
            | [] => ((1, 0), (1, 0), (0, 0))
          let places := max first.2 step.2
          let all := max places last.2
          let units (n : Int × Nat) : Int := n.1 * (Nat.pow 10 (all - n.2) : Nat)
          let (a, d, b) := (units first, units step, units last)
          if d == 0 then
            misused call (octets "invalid Zero increment value: " ++ quoted (operands.getD 1 []))
          else
            let count := if 0 < d then (if b < a then 0 else ((b - a) / d).toNat + 1)
              else if a < b then 0 else ((a - b) / (-d)).toNat + 1
            let scale : Int := (Nat.pow 10 (all - places) : Nat)
            let shown (i : Nat) : List Char := decimalText ((a + d * (i : Int)) / scale) places
            let widest := max (shown 0).length (shown (count - 1)).length
            let width := if has given 'w' then widest else 0
            let padded (text : List Char) : List Char :=
              match text with
              | '-' :: digits => '-' :: List.replicate (width - text.length) '0' ++ digits
              | _ => List.replicate (width - text.length) '0' ++ text
            let formed (i : Nat) : List Char :=
              match last? given 'f' with
              | none => padded (shown i)
              | some format =>
                  let (lead, rest) := untilDirective format
                  let flags := rest.takeWhile fun c => ['0', '-', '+', ' ', '#'].contains c
                  let rest := rest.drop flags.length
                  let digits := rest.takeWhile Text.isDigit
                  let rest := rest.drop digits.length
                  let (precision, rest) := match rest with
                    | '.' :: rest =>
                        let p := rest.takeWhile Text.isDigit
                        (some (Text.digitsValue p), rest.drop p.length)
                    | _ => (none, rest)
                  let n := a + d * (i : Int)
                  let figure := Figure.ratio (decide (n < 0)) n.natAbs (Nat.pow 10 all)
                  let letter := (rest.head?).getD 'g'
                  let body := figure.write letter false (precision.getD 6)
                  let body := if n < 0 then '-' :: body else body
                  let size := Text.digitsValue digits
                  let body := if flags.contains '-' then padRight size body
                    else if flags.contains '0' then
                      List.replicate (size - body.length) '0' ++ body
                    else padLeft size body
                  lead ++ body ++ (untilDirective (rest.drop 1)).1
            if 3000000 < count then throw .endless
            let separator := (last? given 's').getD ['\n']
            if 0 < count then
              print (separator.intercalate ((List.range count).map formed) ++ ['\n'])
            return 0

def wordCount (text : List Char) : Nat :=
  (text.foldl (fun ((count, inside) : Nat × Bool) c =>
    if c.isWhitespace || c == '\x0b' || c == '\x0c' then (count, false)
    else (if inside then count else count + 1, true)) (0, false)).1

/-- How wide a line is when it is shown. -/
def lineWidth (line : List Char) : Nat :=
  (line.foldl (fun ((widest, column) : Nat × Nat) c =>
    let column := if c == '\t' then column + (8 - column % 8)
      else if c == '\r' || c == '\x0c' then 0
      else if 32 ≤ c.toNat && c.toNat < 127 then column + 1 else column
    (max widest column, column)) (0, 0)).1

def wc : Utility := fun call =>
  withOptions
    { letters := "clmwL"
      long := [("bytes", 'c'), ("chars", 'm'), ("lines", 'l'), ("words", 'w'),
        ("max-line-length", 'L')] } call fun given names => do
    let wanted := if given.isEmpty then ['l', 'w', 'c']
      else ['l', 'w', 'm', 'c', 'L'].filter (has given)
    let count (text : List Char) (letter : Char) : Nat :=
      match letter with
      | 'l' => text.count '\n'
      | 'w' => wordCount text
      | 'L' => ((linesOf text).map lineWidth).foldl max 0
      | _ => text.length
    let inputs := if names.isEmpty then [['-']] else names
    -- numbers are as wide as the total size, or seven if that is not known beforehand
    let sizes ← inputs.mapM fun name => do
      let entry ← if name == ['-'] then do
          match ← opened? 0 with
          | some (_, { goal := .entry id, .. }) => pure ((← storage).at? id)
          | _ => pure none
        else do
          match ← find name with
          | .ok (_, entry) => pure (some entry)
          | .error _ => pure (some { node := .file {} })
      return match entry with
        | some { node := .file content, .. } => some content.size
        | _ => none
    let total := sizes.foldl (fun total size => total + size.getD 0) 0
    let width := if wanted.length == 1 && inputs.length == 1 then 1
      else max (numeral total).length (if sizes.any Option.isNone then 7 else 1)
    let row (name : Option (List Char)) (counts : List Nat) : Act Unit :=
      print ([' '].intercalate (counts.map fun n => padLeft width (numeral n)) ++
        (name.map (' ' :: ·)).getD [] ++ ['\n'])
    let (totals, status) ← inputs.foldlM (fun ((totals, status) : List Nat × Nat) name => do
      let shown := if names.isEmpty then none else some name
      match ← contents name with
      | .ok text =>
          let counts := wanted.map (count text)
          row shown counts
          return (List.zipWith (· + ·) totals counts, status)
      | .error t =>
          blame call name t
          if t == .isDirectory then row shown (wanted.map fun _ => 0)
          return (totals, 1)) (wanted.map fun _ => 0, 0)
    if 1 < inputs.length then row (some (octets "total")) totals
    return status

/-! Numbered lines. -/

/-- Which lines of a section are numbered. -/
inductive Numbered
  | all
  | filled
  | none
  | fitting (r : Text.Regex)

def Numbered.ofText? (text : List Char) : Option Numbered :=
  match text with
  | ['a'] => some .all
  | ['t'] => some .filled
  | ['n'] => some .none
  | 'p' :: pattern => (Expression.read false pattern).toOption.map .fitting
  | _ => Option.none

/-- The section that a line begins: the head of a page, its body or its foot. -/
def section? (mark line : List Char) : Option Nat :=
  if line == mark ++ mark ++ mark then some 0
  else if line == mark ++ mark then some 1
  else if line == mark then some 2
  else none

/-- Where the numbering stands: the section, the next number, and how many empty lines came. -/
structure Numbering where
  part : Nat := 1
  next : Int
  empty : Nat := 0

def nl : Utility := fun call =>
  withOptions
    { letters := "b:n:w:s:v:i:h:f:d:l:p"
      long := [("body-numbering", 'b'), ("number-format", 'n'), ("number-width", 'w'),
        ("number-separator", 's'), ("starting-line-number", 'v'), ("line-increment", 'i'),
        ("header-numbering", 'h'), ("footer-numbering", 'f'), ("section-delimiter", 'd'),
        ("join-blank-lines", 'l'), ("no-renumber", 'p')] } call fun given names => do
    let style (letter : Char) (usual : Numbered) : Option Numbered :=
      match last? given letter with
      | some text => Numbered.ofText? text
      | none => some usual
    let wrongStyle := [('b', "body"), ('h', "header"), ('f', "footer")].find? fun (c, _) =>
      (style c .all).isNone
    let number (letter : Char) : Option Int := (last? given letter).bind readSigned?
    let wrongNumber := [('v', "starting line number"), ('i', "line number increment"),
      ('l', "line number of blank lines"), ('w', "line number field width")].find? fun (c, _) =>
        has given c && (number c).isNone
    let format := ((last? given 'n').map String.ofList).getD "rn"
    match wrongStyle, wrongNumber with
    | some (c, what), _ =>
        misused call (octets ("invalid " ++ what ++ " numbering style: ") ++
          quoted ((last? given c).getD []))
    | none, some (c, what) =>
        fail call (octets ("invalid " ++ what ++ ": ") ++ quoted ((last? given c).getD []))
    | none, none =>
        if not (["ln", "rn", "rz"].contains format) then
          misused call (octets "invalid line numbering format: " ++ quoted (octets format))
        else
          let (text, status) ← allInput call names
          let width := ((number 'w').getD 6).toNat
          let separator := (last? given 's').getD ['\t']
          let start := (number 'v').getD 1
          let step := (number 'i').getD 1
          let group := ((number 'l').getD 1).toNat
          let mark := match last? given 'd' with
            | some [c] => [c, ':']
            | some text => text
            | none => ['\\', ':']
          let shownNumber (n : Int) : List Char :=
            let digits := signed n
            if format == "ln" then padRight width digits
            else if format == "rz" then
              let bare := digits.filter (· != '-')
              (if n < 0 then ['-'] else []) ++ List.replicate (width - digits.length) '0' ++ bare
            else padLeft width digits
          let styles := [style 'h' .none, style 'b' .filled, style 'f' .none]
          let step (state : List (List Char) × Numbering) (line : List Char) :
              List (List Char) × Numbering :=
            let (parts, s) := state
            match section? mark line with
            | some part =>
                let next := if has given 'p' then s.next else start
                ([] :: parts, { part, next })
            | none =>
                let empty := if line.isEmpty then s.empty + 1 else 0
                let counts := match (styles.getD s.part none).getD .none with
                  | .all => !line.isEmpty || group ≤ 1 || empty == group
                  | .filled => !line.isEmpty
                  | .none => false
                  | .fitting r => (Expression.find? r line).isSome
                if counts then
                  ((shownNumber s.next ++ separator ++ line) :: parts,
                    { s with next := s.next + step, empty := 0 })
                else
                  ((List.replicate (width + separator.length) ' ' ++ line) :: parts,
                    { s with empty })
          print (unlines ((linesOf text).foldl step ([], { next := start })).1.reverse)
          return status

/-! Turned round. -/

def markedParts (mark : List Char) (before : Bool) :
    Nat → List Char → List Char → List (List Char)
  | 0, part, text => [part.reverse ++ text]
  | _, part, [] => if part.isEmpty then [] else [part.reverse]
  | fuel + 1, part, c :: rest =>
      match Text.afterLead? mark (c :: rest) with
      | some more =>
          if before then
            let ended := if part.isEmpty then [] else [part.reverse]
            ended ++ markedParts mark before fuel mark.reverse more
          else (part.reverse ++ mark) :: markedParts mark before fuel [] more
      | none => markedParts mark before fuel (c :: part) rest

def tac : Utility := fun call =>
  withOptions
    { letters := "brs:", long := [("before", 'b'), ("regex", 'r'), ("separator", 's')] } call
    fun given names => do
      let mark := (last? given 's').getD ['\n']
      let mark := if mark.isEmpty then ['\x00'] else mark
      (if names.isEmpty then [['-']] else names).foldlM (fun status name => do
        match ← contents name with
        | .ok text =>
            print (markedParts mark (has given 'b') (text.length + 1) [] text).reverse.flatten
            return status
        | .error .isDirectory =>
            fail call (named name ++ octets ": read error: Invalid argument")
        | .error t =>
            fail call
              (octets "failed to open " ++ quoted name ++ octets " for reading: " ++ t.text))
        0

def rev : Utility := fun call =>
  withOptions { letters := "" } call fun _ names => do
    eachInput call names fun _ text => do
      let all := unlines ((linesOf text).map List.reverse)
      print (if text.getLast? == some '\n' || text.isEmpty then all else all.dropLast)

end ClusterLaunch.Shell.Utility
