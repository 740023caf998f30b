import ClusterLaunch.Json.Numeral

/-!
The tokens of a JSON text. Lexing never fails: the first place that is not a
token becomes a broken one, and nothing after it is looked at. A token that is
broken, and a string whose escapes do not pair up, give two answers, one for a
reader that wants the value and one for a reader that only passes over it.
-/

namespace ClusterLaunch.Json

inductive Token
  | comma
  | colon
  | openArray
  | closeArray
  | openObject
  | closeObject
  | null
  | bool (value : Bool)
  | number (literal : Numeral)
  /-- A string: its content, and whether it can be passed over. -/
  | text (content : Except Fault String) (skip : Except Fault Unit)
  /-- Not a token: the fault for a reader, and the fault for passing over it. -/
  | broken (read skip : Fault)

namespace Token

/-- The blanks that may stand between tokens. -/
def isGap (c : Char) : Bool :=
  c == ' ' || c == '\n' || c == '\t' || c == '\r'

/-! Strings are first cut into items: characters, and units of UTF-16 given by
their number. -/

inductive Item
  | char (c : Char)
  | unit (value : Nat)

/-- Where the items of a string end. -/
inductive Ending
  | closed (rest : List Char)
  | stopped (fault : Fault)

def escape? : Char → Option Char
  | '"' => some '"'
  | '\\' => some '\\'
  | '/' => some '/'
  | 'b' => some '\x08'
  | 'f' => some '\x0c'
  | 'n' => some '\n'
  | 'r' => some '\r'
  | 't' => some '\t'
  | _ => none

/-- The number that four hexadecimal digits write. -/
def unit? (a b c d : Char) : Option Nat :=
  Text.readNumeral? 16 [a, b, c, d]

/-- The fault of an escape by number that is not four digits: it counts as cut
short when fewer than four octets are left. -/
def unitFault (rest : List Char) : Fault :=
  if (rest.flatMap String.utf8EncodeChar).length < 4 then .ended else .malformed

def items : List Char → List Item × Ending
  | [] => ([], .stopped .ended)
  | ['\\'] => ([], .stopped .ended)
  | '\\' :: 'u' :: a :: b :: c :: d :: rest =>
      match unit? a b c d with
      | some n => let (more, ending) := items rest; (.unit n :: more, ending)
      | none => ([], .stopped (unitFault (a :: b :: c :: d :: rest)))
  | '\\' :: 'u' :: rest => ([], .stopped (unitFault rest))
  | '\\' :: e :: rest =>
      match escape? e with
      | some c => let (more, ending) := items rest; (.char c :: more, ending)
      | none => ([], .stopped .malformed)
  | c :: rest =>
      if c = '"' then ([], .closed rest)
      else if c < ' ' then ([], .stopped .malformed)
      else let (more, ending) := items rest; (.char c :: more, ending)

def isLead (n : Nat) : Bool := 0xd800 ≤ n && n < 0xdc00

/-- A number below `2 ^ 16` that ends a pair. -/
def isTrail (n : Nat) : Bool := 0xdc00 ≤ n && n < 0xe000

/-- The characters of the items, up to the first unit that stands alone. In the
second place: nothing is wrong, a unit is alone, or the items end after a lead. -/
inductive Pairing
  | complete
  | alone
  | open
  deriving DecidableEq

def characters : List Item → List Char × Pairing
  | [] => ([], .complete)
  | .char c :: rest => let (more, state) := characters rest; (c :: more, state)
  | [.unit n] =>
      if isTrail n then ([], .alone)
      else if isLead n then ([], .open)
      else ([Char.ofNat n], .complete)
  | .unit n :: .unit m :: rest =>
      if isTrail n then ([], .alone)
      else if isLead n then
        if isTrail m then
          let (more, state) := characters rest
          (Char.ofNat ((n - 0xd800) * 0x400 + (m - 0xdc00) + 0x10000) :: more, state)
        else ([], .alone)
      else let (more, state) := characters (.unit m :: rest); (Char.ofNat n :: more, state)
  | .unit n :: .char c :: rest =>
      if isTrail n || isLead n then ([], .alone)
      else let (more, state) := characters (.char c :: rest); (Char.ofNat n :: more, state)

/-- The string token after an opening quote, and what follows it. -/
def lexText (text : List Char) : Token × List Char :=
  let (parts, ending) := items text
  let (content, state) := characters parts
  match ending, state with
  | .closed rest, .complete => (.text (.ok (String.ofList content)) (.ok ()), rest)
  | .closed rest, _ => (.text (.error .malformed) (.ok ()), rest)
  | .stopped fault, .alone => (.text (.error .malformed) (.error fault), [])
  | .stopped fault, _ => (.text (.error fault) (.error fault), [])

/-- A broken number: a reader that finds the end of the text says so. -/
def brokenNumber (rest : List Char) : Token × List Char :=
  (.broken (if rest.isEmpty then .ended else .malformed) .malformed, [])

def lexExponent (n : Numeral) (text : List Char) : Token × List Char :=
  let digits (negative : Bool) (rest : List Char) : Token × List Char :=
    let run := rest.takeWhile Text.isDigit
    if run.isEmpty then brokenNumber rest
    else (.number { n with exponent := some (negative, run) }, rest.dropWhile Text.isDigit)
  match text with
  | c :: rest =>
      if c = 'e' || c = 'E' then
        match rest with
        | '+' :: more => digits false more
        | '-' :: more => digits true more
        | _ => digits false rest
      else (.number n, text)
  | [] => (.number n, [])

def lexFraction (n : Numeral) (text : List Char) : Token × List Char :=
  match text with
  | '.' :: rest =>
      let run := rest.takeWhile Text.isDigit
      if run.isEmpty then brokenNumber rest
      else lexExponent { n with fraction := some run } (rest.dropWhile Text.isDigit)
  | _ => lexExponent n text

def lexNumber (negative : Bool) (text : List Char) : Token × List Char :=
  let run := text.takeWhile Text.isDigit
  match run with
  | [] => brokenNumber text
  | c :: more =>
      if c = '0' && !more.isEmpty then (.broken .malformed .malformed, [])
      else lexFraction ⟨negative, run, none, none⟩ (text.dropWhile Text.isDigit)

/-- A word of the grammar: what is left of it must follow. -/
def lexWord (token : Token) : List Char → List Char → Token × List Char
  | [], rest => (token, rest)
  | _ :: _, [] => (.broken .ended .ended, [])
  | a :: more, c :: rest =>
      if a = c then lexWord token more rest else (.broken .malformed .malformed, [])

/-- The token that begins with the character `c`, and what follows it. -/
def next (c : Char) (rest : List Char) : Token × List Char :=
  if c = ',' then (.comma, rest)
  else if c = ':' then (.colon, rest)
  else if c = '[' then (.openArray, rest)
  else if c = ']' then (.closeArray, rest)
  else if c = '\x7b' then (.openObject, rest)
  else if c = '\x7d' then (.closeObject, rest)
  else if c = '"' then lexText rest
  else if c = '-' then lexNumber true rest
  else if Text.isDigit c then lexNumber false (c :: rest)
  else if c = 'n' then lexWord .null ['u', 'l', 'l'] rest
  else if c = 't' then lexWord (.bool true) ['r', 'u', 'e'] rest
  else if c = 'f' then lexWord (.bool false) ['a', 'l', 's', 'e'] rest
  else (.broken .malformed .malformed, [])

/-- Lexes at most `fuel` tokens and gaps. -/
def listFrom : Nat → List Char → List Token
  | 0, _ => []
  | _, [] => []
  | fuel + 1, c :: rest =>
      if isGap c then listFrom fuel rest
      else
        let (token, more) := next c rest
        token :: listFrom fuel more

/-- The tokens of a text; every step takes at least one character. -/
def list (text : List Char) : List Token :=
  listFrom text.length text

end Token

end ClusterLaunch.Json
