import ClusterLaunch.Shell.Script

/-!
Arithmetic of the shell: whole numbers of sixty-four bits that wrap around, with
the operators of expressions in the order in which they bind. Of a choice and of the
joining operators only the side that counts is evaluated, but both are read.
-/

namespace ClusterLaunch.Shell.Arithmetic

/-- Why an expression has no value. -/
inductive Fault
  | misread (reason : String)
  | illegalNumber (text : List Char)
  deriving DecidableEq, Repr

/-- A number as sixty-four bits hold it. -/
def wrap (n : Int) : Int :=
  Int.bmod n UInt64.size

def largest : Nat := Int64.maxValue.toInt.toNat

/-- A number cut off at the ends of its range. -/
def clamp (n : Int) : Int :=
  if (largest : Int) < n then largest else if n < -(largest : Int) - 1 then -(largest : Int) - 1
  else n

def digitsAt (base : Nat) (text : List Char) : List Char × List Char :=
  let isDigit (c : Char) : Bool := ((Text.hexValue? c).map fun d => Nat.blt d base).getD false
  (text.takeWhile isDigit, text.dropWhile isDigit)

/-- Reads a numeral at the front of a text: a zero in front is for base eight, one with an `x`
for base sixteen. Gives what follows it as well. -/
def unsignedAt (text : List Char) : Option (Nat × List Char) :=
  let inBase (base : Nat) (text : List Char) : Option (Nat × List Char) :=
    let (digits, rest) := digitsAt base text
    (Text.readNumeral? base digits).map fun n => (n, rest)
  match text with
  | '0' :: x :: rest =>
      if x == 'x' || x == 'X' then
        match inBase 16 rest with
        | some found => some found
        | none => some (0, x :: rest)
      else inBase 8 text
  | _ => inBase 10 text

/-- Reads a number at the front of a text, with blanks and a sign before it. -/
def numberAt (text : List Char) : Option (Int × List Char) :=
  match text.dropWhile Char.isWhitespace with
  | '-' :: rest => (unsignedAt rest).map fun (n, rest) => (-(n : Int), rest)
  | '+' :: rest => (unsignedAt rest).map fun (n, rest) => ((n : Int), rest)
  | rest => (unsignedAt rest).map fun (n, rest) => ((n : Int), rest)

/-- The number that a text is as a whole, in base ten, with blanks around it. -/
def decimal? (text : List Char) : Option Int :=
  let bare := text.dropWhile Char.isWhitespace
  let (sign, digits) := match bare with
    | '-' :: rest => (-1, rest)
    | '+' :: rest => (1, rest)
    | _ => ((1 : Int), bare)
  let found := digits.takeWhile Text.isDigit
  let n := sign * (Text.digitsValue found : Int)
  let rest := digits.drop found.length
  if found.isEmpty || !rest.all Char.isWhitespace || clamp n != n then none else some n

/-- The number that a value is. No text at all counts as zero. -/
def valueOf (text : List Char) : Except Fault Int :=
  match numberAt text with
  | some (n, rest) =>
      if !rest.all Char.isWhitespace || clamp n != n then .error (.illegalNumber text) else .ok n
  | none => if text.all Char.isWhitespace then .ok 0 else .error (.illegalNumber text)

inductive Token
  | finish
  | bad
  | number (value : Int)
  | name (text : List Char)
  | sign (text : String)
  deriving DecidableEq, Repr

/-- The operators, longer ones first. -/
def signs : List String :=
  ["<<=", ">>=", "<<", ">>", "<=", ">=", "==", "!=", "&&", "||", "+=", "-=", "*=", "/=", "%=",
   "&=", "|=", "^=", "+", "-", "*", "/", "%", "(", ")", "<", ">", "!", "~", "&", "|", "^", "?",
   ":", "="]

def wideSigns : List String := ["**=", "**", "++", "--", ","]

/-- The operators with two sides; the less the rank, the tighter they bind. -/
def rank? : Token → Option Nat
  | .sign "**" => some 0
  | .sign "*" | .sign "/" | .sign "%" => some 1
  | .sign "+" | .sign "-" => some 2
  | .sign "<<" | .sign ">>" => some 3
  | .sign "<" | .sign "<=" | .sign ">" | .sign ">=" => some 4
  | .sign "==" | .sign "!=" => some 5
  | .sign "&" => some 6
  | .sign "^" => some 7
  | .sign "|" => some 8
  | _ => none

def loosest : Nat := 9

/-- The operator behind a sign that assigns, if it is one. -/
def assigning? : Token → Option String
  | .sign "=" => some ""
  | .sign sign =>
      if ["<<=", ">>=", "+=", "-=", "*=", "/=", "%=", "&=", "|=", "^=", "**="].contains sign then
        some (sign.dropEnd 1).toString
      else none
  | _ => none

def ofBool (b : Bool) : Int := if b then 1 else 0

/-- The value of an operator with two sides. -/
def apply (sign : String) (a b : Int) : Except Fault Int :=
  match sign with
  | "|" => .ok ((Int64.ofInt a ||| Int64.ofInt b).toInt)
  | "^" => .ok ((Int64.ofInt a ^^^ Int64.ofInt b).toInt)
  | "&" => .ok ((Int64.ofInt a &&& Int64.ofInt b).toInt)
  | "==" => .ok (ofBool (a == b))
  | "!=" => .ok (ofBool (a != b))
  | "<" => .ok (ofBool (a < b))
  | "<=" => .ok (ofBool (a ≤ b))
  | ">" => .ok (ofBool (b < a))
  | ">=" => .ok (ofBool (b ≤ a))
  | "<<" => .ok ((Int64.ofInt a <<< Int64.ofInt b).toInt)
  | ">>" => .ok ((Int64.ofInt a >>> Int64.ofInt b).toInt)
  | "+" => .ok (wrap (a + b))
  | "-" => .ok (wrap (a - b))
  | "*" => .ok (wrap (a * b))
  | "**" => .ok (wrap (Int.pow a (min b.toNat 4096)))
  | "/" => if b == 0 then .error (.misread "division by zero") else .ok (wrap (Int.tdiv a b))
  | "%" => if b == 0 then .error (.misread "division by zero") else .ok (Int.tmod a b)
  | _ => .ok b

/-- Where the reading of an expression stands. -/
structure Point where
  rest : List Char
  /-- The token behind what was read last. -/
  last : Token := .finish
  /-- The variables that were given values, the latest first. -/
  values : List (List Char × Int) := []

/-- What an expression is read with. -/
structure Setting where
  dialect : Dialect
  /-- The value of a variable. -/
  look : List Char → Except Fault Int

abbrev Reading := ReaderT Setting (StateT Point (Except Fault))

def fail {α : Type} (reason : String) : Reading α :=
  throw (.misread reason)

/-- The name at the front of a text; in the wider dialect an index belongs to it. -/
def nameAt (wide : Bool) (text : List Char) : List Char :=
  let name := text.takeWhile isNamePart
  match wide, text.drop name.length with
  | true, '[' :: rest =>
      let index := rest.takeWhile (· != ']')
      if (rest.drop index.length).isEmpty then name else name ++ '[' :: index ++ [']']
  | _, _ => name

def next : Reading Token := do
  let wide := (← read).dialect == .wide
  let text := (← get).rest.dropWhile fun c => c == ' ' || c == '\t' || c == '\n'
  let go (token : Token) (rest : List Char) : Reading Token := do
    modify fun p => { p with rest }
    return token
  match text with
  | [] => go .finish []
  | c :: _ =>
      if Text.isDigit c then
        match unsignedAt text with
        | some (n, '#' :: rest) =>
            let (digits, after) := digitsAt (min n 16) rest
            match wide, Text.readNumeral? n digits with
            | true, some value => go (.number value) after
            | _, _ => go (.number n) ('#' :: rest)
        | some (n, rest) => go (.number (clamp n)) rest
        | none => go .bad text
      else if isNameStart c then
        let name := nameAt wide text
        go (.name name) (text.drop name.length)
      else match (if wide then wideSigns ++ signs else signs).find? fun s => begins text s with
        | some sign => go (.sign sign) (text.drop sign.length)
        | none => go .bad text

def look (name : List Char) : Reading Int := do
  match (← get).values.lookup name with
  | some n => return n
  | none => (← read).look name

def assign (name : List Char) (n : Int) : Reading Unit :=
  modify fun p => { p with values := (name, n) :: p.values }

mutual

def primary (token behind : Token) (idle : Bool) : Nat → Reading Int
  | 0 => fail "expecting primary"
  | fuel + 1 => do
      let value (name : List Char) : Reading Int := if idle then return 0 else look name
      match token with
      | .sign "(" =>
          let n ← assignment behind idle fuel
          if (← get).last != .sign ")" then fail "expecting ')'"
          let last ← next
          modify fun p => { p with last }
          return n
      | .number n =>
          modify fun p => { p with last := behind }
          return n
      | .name name =>
          let n ← value name
          match behind with
          | .sign "++" | .sign "--" =>
              if !idle then assign name (wrap (if behind == .sign "++" then n + 1 else n - 1))
              let last ← next
              modify fun p => { p with last }
              return n
          | _ =>
              modify fun p => { p with last := behind }
              return n
      | .sign "++" | .sign "--" =>
          match behind with
          | .name name =>
              let n ← value name
              let n := wrap (if token == .sign "++" then n + 1 else n - 1)
              if !idle then assign name n
              let last ← next
              modify fun p => { p with last }
              return n
          | _ => primary behind (← next) idle fuel
      | .sign "+" => primary behind (← next) idle fuel
      | .sign "-" => return wrap (-(← primary behind (← next) idle fuel))
      | .sign "!" => return ofBool ((← primary behind (← next) idle fuel) == 0)
      | .sign "~" => return -(← primary behind (← next) idle fuel) - 1
      | _ => fail "expecting primary"
termination_by structural fuel => fuel

/-- Goes on after the first side of an operator of which the rank is below `limit`. -/
def operators (a : Int) (sign : Token) (limit : Nat) (idle : Bool) : Nat → Reading Int
  | 0 => return a
  | fuel + 1 => do
      let name := match sign with
        | .sign text => text
        | _ => ""
      let mine := (rank? sign).getD loosest
      let token ← next
      let b ← primary token (← next) idle fuel
      let after := (← get).last
      let b ← match rank? after with
        | some tighter =>
            if tighter < mine || (tighter == mine && name == "**") then
              operators b after (if name == "**" then mine + 1 else mine) idle fuel
            else pure b
        | none => pure b
      let a ← if idle then pure b else liftM (apply name a b)
      let after := (← get).last
      match rank? after with
      | some rank => if limit ≤ rank then return a else operators a after limit idle fuel
      | none => return a
termination_by structural fuel => fuel

def binary (token behind : Token) (idle : Bool) : Nat → Reading Int
  | 0 => fail "expecting primary"
  | fuel + 1 => do
      let a ← primary token behind idle fuel
      let last := (← get).last
      match rank? last with
      | some _ => operators a last loosest idle fuel
      | none => return a
termination_by structural fuel => fuel

def both (token behind : Token) (idle : Bool) : Nat → Reading Int
  | 0 => fail "expecting primary"
  | fuel + 1 => do
      let a ← binary token behind idle fuel
      if (← get).last != .sign "&&" then return a
      let token ← next
      let b ← both token (← next) (idle || a == 0) fuel
      return ofBool (a != 0 && b != 0)
termination_by structural fuel => fuel

def either (token behind : Token) (idle : Bool) : Nat → Reading Int
  | 0 => fail "expecting primary"
  | fuel + 1 => do
      let a ← both token behind idle fuel
      if (← get).last != .sign "||" then return a
      let token ← next
      let b ← either token (← next) (idle || a != 0) fuel
      return ofBool (a != 0 || b != 0)
termination_by structural fuel => fuel

def choice (token behind : Token) (idle : Bool) : Nat → Reading Int
  | 0 => fail "expecting primary"
  | fuel + 1 => do
      let a ← either token behind idle fuel
      if (← get).last != .sign "?" then return a
      let b ← assignment (← next) (idle || a == 0) fuel
      if (← get).last != .sign ":" then fail "expecting ':'"
      let token ← next
      let c ← choice token (← next) (idle || a != 0) fuel
      return if a != 0 then b else c
termination_by structural fuel => fuel

/-- An expression that may assign a value, of which a token was read. -/
def assignment (token : Token) (idle : Bool) : Nat → Reading Int
  | 0 => fail "expecting primary"
  | fuel + 1 => do
      let behind ← next
      match token, assigning? behind with
      | .name name, some sign =>
          let b ← assignment (← next) idle fuel
          if idle then return b
          let n ← if sign.isEmpty then pure b else liftM (apply sign (← look name) b)
          assign name n
          return n
      | _, _ => choice token behind idle fuel
termination_by structural fuel => fuel

end

/-- Expressions with commas between them, of which the last one counts. -/
def several : Nat → Reading Int
  | 0 => fail "expecting primary"
  | fuel + 1 => do
      let n ← assignment (← next) false fuel
      match (← get).last with
      | .finish => return n
      | .sign "," => several fuel
      | _ => fail "expecting EOF"

def value (setting : Setting) (text : List Char) : Except Fault (Int × List (List Char × Int)) :=
  let blank := text.all fun c => c == ' ' || c == '\t' || c == '\n'
  if setting.dialect == .wide && blank then .ok (0, [])
  else match (several (text.length * 12 + 32)).run setting |>.run { rest := text } with
    | .error fault => .error fault
    | .ok (n, p) => .ok (n, p.values.reverse)

end ClusterLaunch.Shell.Arithmetic
