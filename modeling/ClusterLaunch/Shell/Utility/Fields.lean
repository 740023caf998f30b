import ClusterLaunch.Shell.Utility
import ClusterLaunch.Text.Regex

/-!
Utilities about the fields and octets of lines: cutting them out and replacing them.
-/

namespace ClusterLaunch.Shell.Utility

open Act

/-- Numbers from a first one to a last one, if there is a last one. -/
abbrev Span := Nat × Option Nat

/-- The spans of a list such as `1,3-5,7-`; says what is wrong with it. -/
def spans (text : List Char) (what : String) : Except String (List Span) :=
  (Text.pieces (fun c => c == ',' || c == ' ') text).mapM fun part => do
    let low := part.takeWhile Text.isDigit
    let rest := part.drop low.length
    let bad : Except String Span :=
      .error (if part.any fun c => !Text.isDigit c && c != '-' then
          (if what == "field" then "invalid field value "
           else "invalid byte/character position ")
            ++ shown (quoted (part.dropWhile fun c => Text.isDigit c || c == '-'))
        else if part == ['-'] then "invalid range with no endpoint: -"
        else if what == "field" then "fields are numbered from 1"
        else "byte/character positions are numbered from 1")
    let n := Text.digitsValue low
    match rest with
    | [] => if low.isEmpty || n == 0 then bad else return (n, some n)
    | '-' :: high =>
        if !high.all Text.isDigit || (low.isEmpty && high.isEmpty) || (!low.isEmpty && n == 0) then
          bad
        else
          let m := Text.digitsValue high
          let first := if low.isEmpty then 1 else n
          if !high.isEmpty && m < first then .error "invalid decreasing range"
          else return (first, if high.isEmpty then none else some m)
    | _ => bad

def within (all : List Span) (n : Nat) : Bool :=
  all.any fun (first, last) => first ≤ n && (last.map fun l => decide (n ≤ l)).getD true

def cut : Utility := fun call =>
  withOptions
    { letters := "b:c:f:d:snO:Cz"
      long := [("bytes", 'b'), ("characters", 'c'), ("fields", 'f'), ("delimiter", 'd'),
        ("only-delimited", 's'), ("complement", 'C'), ("output-delimiter", 'O')] } call
    fun given names => do
      let lists := given.filter fun (c, _) => c == 'b' || c == 'c' || c == 'f'
      match lists with
      | [] =>
          misused call (octets "you must specify a list of bytes, characters, or fields")
      | _ :: _ :: _ => misused call (octets "only one list may be specified")
      | [(kind, list)] =>
          let byField := kind == 'f'
          let delimiter := last? given 'd'
          if !byField && delimiter.isSome then
            misused call
              (octets "an input delimiter may be specified only when operating on fields")
          else if !byField && has given 's' then
            misused call (octets
              "suppressing non-delimited lines makes sense\n\tonly when operating on fields")
          else if (delimiter.map List.length).getD 1 > 1 then
            misused call (octets "the delimiter must be a single character")
          else match spans list (if byField then "field" else "byte") with
            | .error message => misused call (octets message)
            | .ok all =>
                let chosen (n : Nat) : Bool := within all n != has given 'C'
                let mark := ((delimiter.bind List.head?)).getD '\t'
                let between := (last? given 'O').getD [mark]
                let line (text : List Char) : Option (List Char) :=
                  if byField then
                    let fields := Text.pieces (· == mark) text
                    if fields.length ≤ 1 then if has given 's' then none else some text
                    else
                      let all := fields.mapIdx fun i f => (i + 1, f)
                      let kept := all.filter fun (n, _) => chosen n
                      some (between.intercalate (kept.map Prod.snd))
                  else
                    some (((text.mapIdx fun i c => (i + 1, c)).filter fun (n, _) => chosen n).map
                      Prod.snd)
                eachInput call names fun _ text =>
                  print (unlines ((linesOf text).filterMap line))

def setEscape (text : List Char) : Char × List Char :=
  match text with
  | [] => ('\\', [])
  | c :: rest =>
      match c with
      | 'a' => ('\x07', rest)
      | 'b' => ('\x08', rest)
      | 'f' => ('\x0c', rest)
      | 'n' => ('\n', rest)
      | 'r' => ('\r', rest)
      | 't' => ('\t', rest)
      | 'v' => ('\x0b', rest)
      | _ =>
          let digits := (text.take 3).takeWhile fun d => '0' ≤ d && d ≤ '7'
          if digits.isEmpty then (c, rest)
          else (Char.ofNat ((Text.readNumeral? 8 digits).getD 0 % 256), text.drop digits.length)

/-- One part of a set of octets. -/
inductive SetPart
  | octet (c : Char)
  | range (first last : Char)
  | named (name : List Char)
  /-- An octet so many times; as often as is needed if the number is zero. -/
  | repeated (c : Char) (count : Nat)

def setParts : Nat → List Char → Except String (List SetPart)
  | 0, _ => .ok []
  | _, [] => .ok []
  | fuel + 1, '[' :: ':' :: rest =>
      let name := rest.takeWhile (· != ':')
      match rest.drop name.length with
      | ':' :: ']' :: rest =>
          if (Text.Members.ofName? name).isNone then
            .error s!"invalid character class {shown (quoted name)}"
          else (setParts fuel rest).map (.named name :: ·)
      | _ => (setParts fuel (':' :: rest)).map (.octet '[' :: ·)
  | fuel + 1, '[' :: '=' :: c :: '=' :: ']' :: rest => (setParts fuel rest).map (.octet c :: ·)
  | fuel + 1, text =>
      let single (text : List Char) : Char × List Char :=
        match text with
        | '\\' :: rest => setEscape rest
        | c :: rest => (c, rest)
        | [] => ('\x00', [])
      let repetition? : Option (SetPart × List Char) := match text with
        | '[' :: inner =>
            let (c, rest) := single inner
            match rest with
            | '*' :: rest =>
                let digits := rest.takeWhile Text.isDigit
                match rest.drop digits.length with
                | ']' :: rest =>
                    let base := if digits.head? == some '0' then 8 else 10
                    some (.repeated c ((Text.readNumeral? base digits).getD 0), rest)
                | _ => none
            | _ => none
        | _ => none
      match repetition? with
      | some (part, rest) => (setParts fuel rest).map (part :: ·)
      | none =>
          let (c, rest) := single text
          match rest with
          | '-' :: more =>
              if more.isEmpty then (setParts fuel rest).map (.octet c :: ·)
              else
                let (d, rest) := single more
                if d < c then
                  .error (s!"range-endpoints of '{shown [c]}-{shown [d]}'" ++
                    " are in reverse collating sequence order")
                else (setParts fuel rest).map (.range c d :: ·)
          | _ => (setParts fuel rest).map (.octet c :: ·)

/-- The octets of a set in order; what is repeated as needed fills it up to a size. -/
def setOctets (size : Nat) (parts : List SetPart) : List Char :=
  let octetsOf (fill : Nat) : SetPart → List Char
    | .octet c => [c]
    | .range first last =>
        (List.range (last.toNat + 1 - first.toNat)).map fun i => Char.ofNat (first.toNat + i)
    | .named name =>
        let members := (Text.Members.ofName? name).getD .none
        ((List.range 256).map Char.ofNat).filter members.contains
    | .repeated c 0 => List.replicate fill c
    | .repeated c count => List.replicate count c
  let fixed := (parts.map fun p => (octetsOf 0 p).length).foldl (· + ·) 0
  parts.flatMap (octetsOf (size - fixed))

/-- A part of a set beside that of another one: a class of letters of a case as a whole, or an
octet. -/
def casePart (part : SetPart) : List Bool :=
  match part with
  | .named name =>
      if name == octets "upper" || name == octets "lower" then [true]
      else List.replicate (setOctets 0 [part]).length false
  | .repeated _ 0 => []
  | _ => List.replicate (setOctets 0 [part]).length false

/-- Whether each class of letters of a case in the second set stands beside one in the first. -/
def casesAlign : List Bool → List Bool → Bool
  | _, [] => true
  | true :: first, true :: second => casesAlign first second
  | _, true :: _ => false
  | [], _ => true
  | false :: first, false :: second => casesAlign first second
  | true :: first, false :: second =>
      -- its other letters go beside what follows
      casesAlign (List.replicate 25 false ++ first) second

/-- What keeps two sets from being used together. -/
def setFault? (first second : List SetPart) (translates complements : Bool) :
    Option String :=
  let repeats (parts : List SetPart) : Nat :=
    (parts.filter fun p => match p with
      | .repeated _ 0 => true
      | _ => false).length
  let isCase (p : SetPart) : Bool := match p with
    | .named name => name == octets "upper" || name == octets "lower"
    | _ => true
  if repeats first != 0 then some "the [c*] repeat construct may not appear in string1"
  else if 1 < repeats second then some "only one [c*] repeat construct may appear in string2"
  else if !translates then
    if repeats second != 0 then
      some "the [c*] construct may appear in string2 only when translating"
    else none
  else if !second.all isCase then
    some ("when translating, the only character classes that may appear in\n" ++
      "string2 are 'upper' and 'lower'")
  else if complements && 1 < (setOctets 0 second).eraseDups.length &&
      first.any (fun p => match p with
        | .named _ => true
        | _ => false) then
    some ("when translating with complemented character classes,\n" ++
      "string2 must map all characters in the domain to one")
  else if !complements &&
      !casesAlign (first.flatMap casePart) (second.flatMap casePart) then
    some "misaligned [:upper:] and/or [:lower:] construct"
  else none

/-- Whether a text ends with a backslash that escapes nothing. -/
def endsOpen (text : List Char) : Bool :=
  (text.reverse.takeWhile (· == '\\')).length % 2 == 1

/-- Copies what comes in, with octets replaced or left away as two sets say. -/
def translate (call : Call) (given : Given) (deletes squeezes : Bool) (first : List Char)
    (second : Option (List Char)) : Act Nat := do
  if endsOpen first || (second.map endsOpen).getD false then
    warn call (octets "warning: an unescaped backslash at end of string is not portable")
  let complements := has given 'c' || has given 'C'
  match setParts (first.length + 1) first,
      setParts ((second.map List.length).getD 0 + 1) (second.getD []) with
  | .error message, _ | _, .error message => fail call (octets message)
  | .ok firstParts, .ok secondParts =>
      match setFault? firstParts secondParts (second.isSome && !deletes) complements with
      | some fault => fail call (octets fault)
      | none =>
      let base := setOctets 0 firstParts
      let one := if complements then
          ((List.range 256).map Char.ofNat).filter fun c => !base.contains c
        else base
      let two := setOctets one.length secondParts
      if second.isSome && !deletes && two.isEmpty then
        fail call (octets "when not truncating set1, string2 must be non-empty")
      else
        let last := two.getLast?.getD '\x00'
        let translated := one.mapIdx fun i c => (c, (two[i]?).getD last)
        let translated := if has given 't' then translated.take two.length else translated
        -- the last occurrence of an octet in the first set counts
        let table := ((List.range 256).map fun n =>
          let c := Char.ofNat n
          (translated.reverse.lookup c).getD c).toArray
        let inOne := ((List.range 256).map fun n => one.contains (Char.ofNat n)).toArray
        let pressed := if second.isSome then two else one
        let inPressed := ((List.range 256).map fun n => pressed.contains (Char.ofNat n)).toArray
        let holds (set : Array Bool) (c : Char) : Bool := set.getD c.toNat false
        let rec squeeze (before : Option Char) (done : List Char) : List Char → List Char
          | [] => done.reverse
          | c :: rest =>
              if before == some c && holds inPressed c then squeeze before done rest
              else squeeze (some c) (c :: done) rest
        iterate (fun (before : Option Char) => do
          match ← readSome 0 portion with
          | .error t => blame call ['-'] t; return .inr 1
          | .ok [] => return .inr 0
          | .ok text =>
              let text := if deletes then text.filter fun c => !holds inOne c
                else if second.isSome then text.map fun c => table.getD c.toNat c
                else text
              let text := if squeezes then squeeze before [] text else text
              print text
              return .inl ((text.getLast?).or before)) manyTimes none

def tr : Utility := fun call =>
  withOptions
    { letters := "cCdst"
      long := [("complement", 'c'), ("delete", 'd'), ("squeeze-repeats", 's'),
        ("truncate-set1", 't')]
      mixed := false } call fun given sets => do
    let deletes := has given 'd'
    let squeezes := has given 's'
    let needed := if deletes == squeezes then 2 else 1
    match sets with
    | [] => lacking call
    | [only] =>
        if needed == 2 then
          fail call (octets "missing operand after " ++ quoted only ++ octets (if deletes then
              "\nTwo strings must be given when both deleting and squeezing repeats."
            else "\nTwo strings must be given when translating.") ++ hint call)
        else translate call given deletes squeezes only none
    | first :: second :: more =>
        let extra := if deletes && !squeezes then some second else more.head?
        match extra with
        | some word =>
            fail call (octets "extra operand " ++ quoted word ++
              (if deletes && !squeezes then
                octets "\nOnly one string may be given when deleting without squeezing repeats."
              else []) ++ hint call)
        | none => translate call given deletes squeezes first (some second)

end ClusterLaunch.Shell.Utility
