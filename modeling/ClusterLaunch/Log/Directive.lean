import ClusterLaunch.Log.Pattern
import ClusterLaunch.Text.Octets
import ClusterLaunch.Trail

/-!
Directives that say what passes into the log. A directive names a level, and may
be limited to the reporters whose path begins with its target, and to the spans
with its name and its field: `target[span{field=value}]=level`.

The parts of a directive are found in its text without the blanks around it, but
are then cut out at the same distances from the start of the text as it stands.
Blanks before a directive thus shift its parts, and blanks after it belong to its
last part.
-/

namespace ClusterLaunch.Log

/-- The least level that passes; none lets nothing pass. -/
abbrev Threshold := Option Level

namespace Threshold

/-- A rank of thresholds: the more passes, the higher. -/
def rank : Threshold → Nat
  | none => 0
  | some level => level.depth + 1

def passes (t : Threshold) (level : Level) : Bool :=
  level.depth < t.rank

def max (a b : Threshold) : Threshold :=
  if a.rank < b.rank then b else a

/-- The threshold that lets most pass, of those listed. -/
def maximum (all : List Threshold) : Threshold :=
  all.foldl max none

def ofText? (text : List Char) : Option Threshold :=
  let name := String.ofList (text.map Char.toUpper)
  let number := match text with
    | '+' :: digits => Text.readNumeral? 10 digits
    | digits => Text.readNumeral? 10 digits
  match number with
  | some 0 => some none
  | some (n + 1) => (Level.all[n]?).map some
  | none =>
      if name == "OFF" then some none
      else (Level.all.find? fun level => level.name == name).map some

end Threshold

/-- What is asked of the value of a field. -/
inductive Wanted
  /-- A truth value or a number. The values of spans are texts, and never such. -/
  | typed
  | pattern (r : Text.Regex)
  deriving DecidableEq, Repr

namespace Wanted

def isNumber (text : List Char) : Bool :=
  let unsigned := match text with
    | '+' :: rest | '-' :: rest => rest
    | _ => text
  let words := ["inf", "infinity", "nan"].map String.toList
  let whole := unsigned.takeWhile Text.isDigit
  let afterWhole := unsigned.drop whole.length
  let (part, afterPart) := match afterWhole with
    | '.' :: rest => (rest.takeWhile Text.isDigit, rest.dropWhile Text.isDigit)
    | rest => ([], rest)
  let isExponent (digits : List Char) : Bool := !digits.isEmpty && digits.all Text.isDigit
  words.contains (unsigned.map Char.toLower) ||
    (!(whole.isEmpty && part.isEmpty) && match afterPart with
      | [] => true
      | e :: '+' :: rest | e :: '-' :: rest => (e == 'e' || e == 'E') && isExponent rest
      | e :: rest => (e == 'e' || e == 'E') && isExponent rest)

def ofText? (text : List Char) : Option Wanted :=
  if text == "true".toList || text == "false".toList || isNumber text then some .typed
  else (Pattern.ofText? text).map .pattern

def fits : Wanted → List Char → Bool
  | .typed, _ => false
  | .pattern r, value => Pattern.fits r value

end Wanted

/-- A field that is asked for, with its value if that is given too. -/
structure Asked where
  name : List Char
  /-- The value as it was given, and what it asks for. -/
  value : Option (List Char × Wanted) := none
  deriving DecidableEq, Repr

structure Directive where
  threshold : Threshold := some .trace
  target : Option (List Char) := none
  span : Option (List Char) := none
  field : Option Asked := none
  deriving DecidableEq, Repr

namespace Asked

/-- Reads a field; what follows a second sign of equality does not count. -/
def ofText? (text : List Char) : Option Asked :=
  match Text.pieces (· == '=') text with
  | [] => none
  | [name] => some ⟨name, none⟩
  | name :: value :: _ => (Wanted.ofText? value).map fun wanted => ⟨name, some (value, wanted)⟩

end Asked

namespace Directive

def slice (text : String) (first last : Nat) : List Char :=
  let octets := Text.Octets.encode text
  (Text.Octets.decodeLossy ((octets.take last).drop first)).toList

/-- What the reading of a directive has come to, with the distance at which a part began. -/
inductive Stage
  | start
  | levelOrTarget
  | span (first : Nat)
  | field (first : Nat)
  | fields
  | target
  | level (first : Nat)

def beginsTarget (c : Char) : Bool :=
  ['-', ':', '_'].contains c || Text.isLetterOrNumber c

/-- Goes on to the next character of a directive, which is at some distance from the start. -/
def advance (text : String) (d : Directive) (place : Nat) (c : Char) :
    Stage → Option (Directive × Stage)
  | .start =>
      if c == '[' then some (d, .span (place + 1))
      else if beginsTarget c then some (d, .levelOrTarget)
      else none
  | .levelOrTarget =>
      if c == '=' then some ({ d with target := some (slice text 0 place) }, .level (place + 1))
      else if c == '[' then some ({ d with target := some (slice text 0 place) }, .span (place + 1))
      else some (d, .levelOrTarget)
  | .span first =>
      let name := slice text first place
      if c == ']' then some ({ d with span := some name }, .target)
      else if c == '\x7b' then
        some ({ d with span := if name.isEmpty then none else some name }, .field (place + 1))
      else some (d, .span first)
  | .field first =>
      if c == '\x7d' then
        let asked := slice text first place
        if asked.isEmpty then none
        else (Asked.ofText? asked).map fun field => ({ d with field := some field }, .fields)
      else some (d, .field first)
  | .fields => if c == ']' then some (d, .target) else none
  | .target => if c == '=' then some (d, .level (place + 1)) else none
  | .level first => some (d, .level first)

def readOn (text : String) (d : Directive) (place : Nat) : Stage → List Char → Option Directive
  | stage, c :: rest =>
      (d.advance text place c stage).bind fun (d, stage) =>
        readOn text d (place + c.utf8Size) stage rest
  | .levelOrTarget, [] =>
      match Threshold.ofText? text.toList with
      | some threshold => some { d with threshold }
      | none => some { d with target := some text.toList }
  | .level first, [] =>
      let level := slice text first text.utf8ByteSize
      if level.isEmpty then some d
      else (Threshold.ofText? level).map fun threshold => { d with threshold }
  | .target, [] => some d
  | _, [] => none

def ofText? (text : List Char) : Option Directive :=
  readOn (String.ofList text) {} 0 .start (Text.trim text)

def isAboutSpans (d : Directive) : Bool :=
  d.span.isSome || d.field.isSome

def asksForValue (d : Directive) : Bool :=
  (d.field.bind Asked.value).isSome

/-- Whether the directive says something about notices wherever they are made. -/
def isGeneral (d : Directive) : Bool :=
  d.span.isNone && !d.asksForValue

def isFor (d : Directive) (path : String) : Bool :=
  match d.target with
  | none => true
  | some target => (Text.afterLead? target path.toList).isSome

def finds (d : Directive) (fields : List (String × Detail)) : Bool :=
  match d.field with
  | none => true
  | some asked => fields.any fun (given, _) => given.toList == asked.name

def shown : Detail → List Char
  | .text value => value.toList
  | .number value => Text.numeral 10 value

def agrees (d : Directive) (fields : List (String × Detail)) : Bool :=
  match d.field with
  | some ⟨name, some (_, wanted)⟩ =>
      fields.any fun (given, detail) => given.toList == name && wanted.fits (shown detail)
  | _ => true

/-- Whether two directives are about the same spans: the later one then takes the
place of the other. -/
def isAboutSameSpans (d other : Directive) : Bool :=
  d.target == other.target && d.span == other.span &&
    (d.field.map fun asked => (asked.name, asked.value.map Prod.fst)) ==
      (other.field.map fun asked => (asked.name, asked.value.map Prod.fst))

/-- How specific the directive is: a longer target first, then a field that is asked
for, and then the texts of both. -/
def rank (d : Directive) : List Nat :=
  let codes (text : List Char) : List Nat := text.map Char.toNat
  let target := (d.target.map fun target => (String.ofList target).utf8ByteSize + 1).getD 0
  let field := (d.field.map Asked.name).getD []
  [target, if d.field.isSome then 1 else 0] ++ codes (d.target.getD []) ++ codes field

/-- Whether a list comes before another one, number by number. -/
def isBefore : List Nat → List Nat → Bool
  | [], other => !other.isEmpty
  | _ :: _, [] => false
  | a :: rest, b :: others => Nat.blt a b || (a == b && isBefore rest others)

/-- Whether the directive is at least as specific as another one. -/
def outranks (d other : Directive) : Bool :=
  !isBefore d.rank other.rank

end Directive

end ClusterLaunch.Log
