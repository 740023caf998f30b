import ClusterLaunch.Shell.Arithmetic
import ClusterLaunch.Shell.Figure

/-!
What `echo` and `printf` write: texts in which backslashes stand before escapes,
and formats whose places take arguments.
-/

namespace ClusterLaunch.Shell.Format

def letterEscape? : Char → Option Char
  | 'a' => some '\x07'
  | 'b' => some '\x08'
  | 'e' => some '\x1b'
  | 'f' => some '\x0c'
  | 'n' => some '\n'
  | 'r' => some '\r'
  | 't' => some '\t'
  | 'v' => some '\x0b'
  | '\\' => some '\\'
  | _ => none

def isOctal (c : Char) : Bool := '0' ≤ c && c ≤ '7'

/-- An octet from at most `width` octal digits, and what follows them. -/
def octal (width : Nat) (text : List Char) : Char × List Char :=
  let digits := (text.take width).takeWhile isOctal
  (Char.ofNat ((digits.foldl (fun n c => n * 8 + (c.toNat - 48)) 0) % 256), text.drop digits.length)

/-- The octets of an escape in base sixteen, and what follows it. -/
def hexadecimal? (letter : Char) (text : List Char) : Option (List Char × List Char) :=
  let most := if letter == 'x' then some 2 else if letter == 'u' then some 4
    else if letter == 'U' then some 8 else none
  most.bind fun most =>
    let digits := (text.take most).takeWhile fun c => (Text.hexValue? c).isSome
    (Text.readNumeral? 16 digits).map fun n =>
      (if letter == 'x' then [Char.ofNat n] else octets (String.singleton (Char.ofNat n)),
        text.drop digits.length)

/-- Reads what follows a backslash: the octets that are meant, and what follows them. The
wider dialect knows numbers in base sixteen as well. -/
def escape (dialect : Dialect) (text : List Char) : List Char × List Char :=
  match text with
  | [] => (['\\'], [])
  | c :: rest =>
      if isOctal c then
        let (octet, rest) := octal 3 text
        ([octet], rest)
      else
        let wide := if dialect == .wide then hexadecimal? c rest else none
        match letterEscape? c, wide with
        | some octet, _ => ([octet], rest)
        | none, some found => found
        | none, none => (['\\'], text)

/-- A text with its escapes replaced, and whether it ends early at `\c`. Numbers may have a
zero in front of their digits. -/
def unescaped (dialect : Dialect) : Nat → List Char → List Char × Bool
  | 0, text => (text, false)
  | _, [] => ([], false)
  | _, '\\' :: 'c' :: _ => ([], true)
  | fuel + 1, '\\' :: rest =>
      let rest := match rest with
        | '0' :: d :: more => if isOctal d then d :: more else rest
        | _ => rest
      let (octets, rest) := escape dialect rest
      let (more, ends) := unescaped dialect fuel rest
      (octets ++ more, ends)
  | fuel + 1, c :: rest =>
      let (more, ends) := unescaped dialect fuel rest
      (c :: more, ends)

/-- What `echo` writes in the plain dialect, where escapes are always replaced. -/
def echo (arguments : List (List Char)) : List Char :=
  let (quiet, arguments) := match arguments with
    | ['-', 'n'] :: rest => (true, rest)
    | _ => (false, arguments)
  let text := [' '].intercalate arguments
  let (shown, ends) := unescaped .plain (text.length + 1) text
  if quiet || ends then shown else shown ++ ['\n']

/-- What `echo` writes where escapes are replaced only if that is asked for. -/
def echoPlainly (escapes : Bool) (arguments : List (List Char)) : List Char :=
  let rec go (quiet escapes : Bool) : List (List Char) → List Char
    | [] => if quiet then [] else ['\n']
    | a :: rest =>
        if a.head? == some '-' && 1 < a.length &&
            (a.drop 1).all fun c => c == 'n' || c == 'e' || c == 'E' then
          let last := (a.filter fun c => c == 'e' || c == 'E').getLast?
          go (quiet || a.contains 'n') ((last.map (· == 'e')).getD escapes) rest
        else
          let text := [' '].intercalate (a :: rest)
          let (shown, ends) := if escapes then unescaped .wide (text.length + 1) text
            else (text, false)
          if quiet || ends then shown else shown ++ ['\n']
  go false escapes arguments

/-- A text in quotes that the shell reads back. -/
def requoted (text : List Char) : List Char :=
  let isPlain (c : Char) : Bool :=
    c.isAlphanum || ['_', '-', '.', '/', ':', '@', '%', '+', ',', '='].contains c
  if text.isEmpty then ['\'', '\'']
  else text.flatMap fun c => if isPlain c then [c] else ['\\', c]

/-- How one place of a format is filled. -/
structure Shape where
  flags : List Char := []
  width : Nat := 0
  precision : Option Nat := none

namespace Shape

def has (s : Shape) (flag : Char) : Bool := s.flags.contains flag

def fill (s : Shape) (text : List Char) : List Char :=
  if s.has '-' then padRight s.width text else padLeft s.width text

/-- Fills a number up to the width of a place, with zeros behind its sign if that is asked for. -/
def fillNumber (s : Shape) (zeros : Bool) (sign digits : List Char) : List Char :=
  let gap := s.width - (sign.length + digits.length)
  if zeros && s.has '0' && !s.has '-' then sign ++ List.replicate gap '0' ++ digits
  else s.fill (sign ++ digits)

def sign (s : Shape) (negative : Bool) : List Char :=
  if negative then ['-'] else if s.has '+' then ['+'] else if s.has ' ' then [' '] else []

/-- What a whole number looks like in a place. -/
def whole (s : Shape) (letter : Char) (n : Int) : List Char :=
  let unsigned := (n % (UInt64.size : Int)).toNat
  let (sign, digits) := match letter with
    | 'o' =>
        let digits := Text.numeral 8 unsigned
        ([], if s.has '#' && digits.head? != some '0' then '0' :: digits else digits)
    | 'x' =>
        (if s.has '#' && unsigned != 0 then ['0', 'x'] else [], Text.numeral 16 unsigned)
    | 'X' =>
        (if s.has '#' && unsigned != 0 then ['0', 'X'] else [],
          (Text.numeral 16 unsigned).map Char.toUpper)
    | 'u' => ([], numeral unsigned)
    | _ => (s.sign (decide (n < 0)), numeral n.natAbs)
  let digits := match s.precision with
    | none => digits
    | some least =>
        if least == 0 && digits == ['0'] then []
        else List.replicate (least - digits.length) '0' ++ digits
  s.fillNumber s.precision.isNone sign digits

/-- What a number with a fraction looks like in a place. -/
def fraction (s : Shape) (letter : Char) (f : Figure) : List Char :=
  let text := f.write letter (s.has '#') (s.precision.getD 6)
  let finite := match f with
    | .ratio _ _ _ => true
    | _ => false
  s.fillNumber finite (s.sign f.isNegative) text

def grid : Dialect → Figure.Grid
  | .plain => ⟨1, 13, -1022⟩
  | .wide => ⟨4, 15, -16385⟩

/-- What a number with a fraction looks like in base sixteen. -/
def sixteens (s : Shape) (dialect : Dialect) (letter : Char) (f : Figure) : List Char :=
  match f with
  | .ratio negative n d =>
      let text := Figure.sixteens (grid dialect) (s.has '#') s.precision n d
      let cased (t : List Char) : List Char := if letter == 'A' then t.map Char.toUpper else t
      s.fillNumber true (s.sign negative ++ cased ['0', 'x']) (cased text)
  | _ => s.fraction (if letter == 'A' then 'F' else 'f') f

end Shape

/-- What may be wrong with an argument that is to be a number. -/
inductive Wrong
  | noNumber
  | leftOver
  | outOfRange
  deriving DecidableEq, Repr

/-- How far the filling of a format has come. -/
structure Filling where
  arguments : List (List Char)
  /-- How many arguments were used up. -/
  used : Nat := 0
  /-- What was written, the latest part first. -/
  parts : List (List Char) := []
  wrong : List (List Char × Wrong) := []
  /-- A place that cannot be filled. -/
  invalid : Option (List Char) := none
  /-- Whether the text ends early. -/
  ends : Bool := false

namespace Filling

def text (f : Filling) : List Char := f.parts.reverse.flatten

def put (f : Filling) (text : List Char) : Filling :=
  { f with parts := text :: f.parts }

def take (f : Filling) : Option (List Char) × Filling :=
  match f.arguments with
  | [] => (none, f)
  | a :: rest => (some a, { f with arguments := rest, used := f.used + 1 })

/-- Keeps in mind what is wrong with an argument that was read up to some rest. -/
def check (f : Filling) (argument : List Char) (read : Option (List Char)) (fits : Bool) :
    Filling :=
  match read with
  | none =>
      if argument.isEmpty then f else { f with wrong := (argument, .noNumber) :: f.wrong }
  | some [] => if fits then f else { f with wrong := (argument, .outOfRange) :: f.wrong }
  | some _ => { f with wrong := (argument, .leftOver) :: f.wrong }

/-- The next argument as a whole number; a quote in front gives the octet after it. -/
def takeWhole (f : Filling) (isSigned : Bool) : Int × Filling :=
  match f.take with
  | (none, f) => (0, f)
  | (some argument, f) =>
      match argument with
      | '"' :: rest | '\'' :: rest => ((((rest.head?).map Char.toNat).getD 0 : Nat), f)
      | _ =>
          match Arithmetic.numberAt argument with
          | none => (0, f.check argument none true)
          | some (n, rest) =>
              let kept := if isSigned then Arithmetic.clamp n
                else if (UInt64.size : Int) ≤ n.natAbs then (UInt64.size : Int) - 1 else n
              (kept, f.check argument (some rest) (kept == n))

/-- Whether a number is held as exactly as others are: it has not become infinite, and has not
lost digits because it is small. -/
def isHeld (dialect : Dialect) (argument : List Char) (x : Float) : Bool :=
  let front := argument.takeWhile fun c => c != 'e' && c != 'E'
  let size := x.abs
  dialect == .wide || !front.any (fun c => '1' ≤ c && c ≤ '9') ||
    (size < 1.0 / 0.0 && 2.2250738585072014e-308 ≤ size)

def takeFraction (dialect : Dialect) (f : Filling) : Float × Filling :=
  match f.take with
  | (none, f) => (0, f)
  | (some argument, f) =>
      match argument with
      | '"' :: rest | '\'' :: rest => ((((rest.head?).map Char.toNat).getD 0).toFloat, f)
      | _ =>
          match Figure.floatAt argument with
          | none => (0, f.check argument none true)
          | some (x, rest) => (x, f.check argument (some rest) (isHeld dialect argument x))

/-- Reads a width or a precision: digits, or a star for an argument. -/
def takeSize (f : Filling) (format : List Char) : Option Int × Filling × List Char :=
  match format with
  | '*' :: rest =>
      let (n, f) := f.takeWhole true
      (some n, f, rest)
  | _ =>
      let digits := format.takeWhile Text.isDigit
      (if digits.isEmpty then none else some (Text.digitsValue digits : Nat), f,
        format.drop digits.length)

/-- Fills the place behind a percent sign; gives what follows it in the format. -/
def place (dialect : Dialect) (f : Filling) (format : List Char) : Filling × List Char :=
  let flags := format.takeWhile fun c => ['#', '-', '+', ' ', '0'].contains c
  let (width, f, rest) := f.takeSize (format.drop flags.length)
  let (precision, f, rest) : Option Int × Filling × List Char := match rest with
    | '.' :: rest =>
        let (n, f, rest) := f.takeSize rest
        (some (n.getD 0), f, rest)
    | _ => (none, f, rest)
  let left := ((width.map fun n => decide (n < 0)).getD false)
  let s : Shape :=
    { flags := if left then '-' :: flags else flags
      width := (width.getD 0).natAbs
      precision := precision.bind fun n => if n < 0 then none else some n.toNat }
  match rest with
  | [] => ({ f with invalid := some [] }, [])
  | letter :: rest =>
      if letter == 's' then
        let (argument, f) := f.take
        let text := argument.getD []
        (f.put (s.fill ((s.precision.map text.take).getD text)), rest)
      else if letter == 'c' then
        let (argument, f) := f.take
        (f.put (s.fill [((argument.getD []).head?).getD '\x00']), rest)
      else if letter == 'b' then
        let (argument, f) := f.take
        let (text, ends) := unescaped dialect ((argument.getD []).length + 1) (argument.getD [])
        ({ f.put (s.fill ((s.precision.map text.take).getD text)) with ends }, rest)
      else if letter == 'q' && dialect == .wide then
        let (argument, f) := f.take
        (f.put (s.fill (requoted (argument.getD []))), rest)
      else if letter == 'd' || letter == 'i' then
        let (n, f) := f.takeWhole true
        (f.put (s.whole letter n), rest)
      else if ['o', 'u', 'x', 'X'].contains letter then
        let (n, f) := f.takeWhole false
        (f.put (s.whole letter n), rest)
      else if ['e', 'E', 'f', 'F', 'g', 'G'].contains letter then
        let (x, f) := f.takeFraction dialect
        (f.put (s.fraction letter (.ofFloat x)), rest)
      else if letter == 'a' || letter == 'A' then
        let (x, f) := f.takeFraction dialect
        (f.put (s.sixteens dialect letter (.ofFloat x)), rest)
      else ({ f with invalid := some ('%' :: format.take (format.length - rest.length)) }, [])

/-- Fills the places of a format once. -/
def once (dialect : Dialect) : Nat → Filling → List Char → Filling
  | 0, f, _ => f
  | _, f, [] => f
  | fuel + 1, f, '\\' :: rest =>
      if dialect == .wide && rest.head? == some 'c' then { f with ends := true }
      else
        let (octets, rest) := escape dialect rest
        once dialect fuel (f.put octets) rest
  | fuel + 1, f, '%' :: '%' :: rest => once dialect fuel (f.put ['%']) rest
  | fuel + 1, f, '%' :: rest =>
      let (f, rest) := f.place dialect rest
      if f.ends || f.invalid.isSome then f else once dialect fuel f rest
  | fuel + 1, f, c :: rest => once dialect fuel (f.put [c]) rest

/-- Fills the places of a format, over and over while it uses up arguments. -/
def fill (dialect : Dialect) (format : List Char) : Nat → Filling → Filling
  | 0, f => f
  | fuel + 1, f =>
      let after := f.once dialect (format.length + 1) format
      if after.ends || after.invalid.isSome || after.arguments.isEmpty ||
          after.used == f.used then after
      else fill dialect format fuel after

end Filling

def printf (dialect : Dialect) (format : List Char) (arguments : List (List Char)) : Filling :=
  let f := Filling.fill dialect format (arguments.length + 1) { arguments }
  { f with wrong := f.wrong.reverse }

end ClusterLaunch.Shell.Format
