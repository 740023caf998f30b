import ClusterLaunch.Shell.Expression
import ClusterLaunch.Shell.Figure

/-!
Scripts about rows of fields: rules that say what is done with the rows that meet a
condition. This module holds what a script is, and the words that it is written in.
-/

namespace ClusterLaunch.Shell.Rows

open Text (Regex)

inductive Operator
  | add
  | subtract
  | multiply
  | divide
  | remainder
  | power
  | join
  | less
  | atMost
  | equal
  | unequal
  | more
  | atLeast
  deriving DecidableEq, Repr

inductive Term
  | number (x : Float)
  | text (t : List Char)
  /-- An expression, which stands for whether it fits the row. -/
  | fit (r : Regex)
  | name (name : List Char)
  | field (index : Term)
  | item (array : List Char) (keys : List Term)
  | assign (target : Term) (operator : Option Operator) (value : Term)
  | choice (condition yes no : Term)
  | both (a b : Term)
  | either (a b : Term)
  | not (a : Term)
  | isIn (keys : List Term) (array : List Char)
  | fits (a pattern : Term) (negated : Bool)
  | binary (operator : Operator) (a b : Term)
  | negative (a : Term)
  | positive (a : Term)
  /-- Adds an amount to a variable; stands for the value before or after that. -/
  | step (target : Term) (amount : Float) (before : Bool)
  | call (name : List Char) (arguments : List Term)
  | builtin (name : String) (arguments : List Term)
  /-- Reads another row, of a file or of what a command prints if one is given. -/
  | take (target : Option Term) (file command : Option Term)

/-- Where something is printed to. -/
inductive Direction
  | write
  | append
  | command
  deriving DecidableEq, Repr

inductive Deed
  | term (t : Term)
  | print (terms : List Term) (target : Option (Direction × Term))
  | printf (terms : List Term) (target : Option (Direction × Term))
  | choose (condition : Term) (yes : Deed) (no : Option Deed)
  | loop (condition : Term) (body : Deed)
  | loopOnce (body : Deed) (condition : Term)
  | count (start : Option Deed) (condition : Option Term) (step : Option Deed) (body : Deed)
  | each (name array : List Char) (body : Deed)
  | block (deeds : List Deed)
  | next
  | exit (status : Option Term)
  | leave
  | again
  | return (value : Option Term)
  | forget (array : List Char) (keys : List Term)

/-- When a rule holds. -/
inductive Condition
  | begin
  | finish
  | always
  | on (t : Term)
  /-- From a row on that meets the first condition up to one that meets the second. -/
  | range (first last : Term)

structure Rule where
  condition : Condition
  /-- Without deeds the row is printed. -/
  deeds : Option Deed

structure Function where
  parameters : List (List Char)
  body : Deed

structure Script where
  rules : List Rule := []
  functions : List (List Char × Function) := []

/-! Words. -/

inductive Token
  | number (x : Float)
  | text (t : List Char)
  | pattern (t : List Char)
  | name (name : List Char)
  /-- A name right in front of a bracket. -/
  | function (name : List Char)
  | keyword (word : String)
  | builtin (name : String)
  | sign (text : String)
  | newline
  | finish
  deriving BEq

def keywords : List String :=
  ["BEGIN", "END", "function", "func", "if", "else", "while", "for", "do", "break", "continue",
   "next", "nextfile", "exit", "return", "delete", "in", "getline", "print", "printf"]

def builtins : List String :=
  ["length", "substr", "index", "split", "sub", "gsub", "match", "sprintf", "sin", "cos", "atan2",
   "exp", "log", "sqrt", "int", "rand", "srand", "tolower", "toupper", "system", "close", "fflush"]

/-- Signs, the longer ones first. -/
def signs : List String :=
  ["**=", "&&", "||", "++", "--", "+=", "-=", "*=", "/=", "%=", "^=", "==", "<=", ">=", "!=", "!~",
   ">>", "**", "\x7b", "\x7d", "(", ")", "[", "]", ";", ",", "+", "-", "*", "/", "%", "^", "!", ">",
   "<", "|", "?", ":", "~", "$", "="]

/-- Whether an operand ends with a word, so that a slash behind it divides. -/
def Token.isOperandEnd : Token → Bool
  | .number _ | .text _ | .pattern _ | .name _ | .builtin _ => true
  | .sign s => [")", "]", "$", "++", "--"].contains s
  | _ => false

/-- The octet that a letter behind a backslash stands for. -/
def escape? : Char → Option Char
  | 'n' => some '\n'
  | 't' => some '\t'
  | 'r' => some '\r'
  | 'f' => some '\x0c'
  | 'v' => some '\x0b'
  | 'a' => some '\x07'
  | 'b' => some '\x08'
  | '"' => some '"'
  | '/' => some '/'
  | '\\' => some '\\'
  | _ => none

/-- An octet from at most three digits, and what follows them. -/
def octal? (text : List Char) : Option (Char × List Char) :=
  let digits := (text.take 3).takeWhile fun c => '0' ≤ c && c ≤ '7'
  (Text.readNumeral? 8 digits).map fun n => (Char.ofNat (n % 256), text.drop digits.length)

def unescaped : Nat → List Char → List Char
  | 0, text => text
  | _, [] => []
  | fuel + 1, '\\' :: rest =>
      match octal? rest, rest with
      | some (c, rest), _ => c :: unescaped fuel rest
      | none, '\n' :: rest => unescaped fuel rest
      | none, c :: rest =>
          match escape? c with
          | some d => d :: unescaped fuel rest
          | none => '\\' :: c :: unescaped fuel rest
      | none, [] => ['\\']
  | fuel + 1, c :: rest => c :: unescaped fuel rest

/-- What stands up to a delimiter that no backslash precedes, and what follows it. -/
def upTo (delimiter : Char) : Nat → List Char → List Char → Option (List Char × List Char)
  | 0, _, _ => none
  | _, _, [] => none
  | fuel + 1, before, '\\' :: c :: rest => upTo delimiter fuel (c :: '\\' :: before) rest
  | fuel + 1, before, c :: rest =>
      if c == delimiter then some (before.reverse, rest)
      else if c == '\n' then none
      else upTo delimiter fuel (c :: before) rest

/-- Why a text is no script. -/
structure Fault where
  message : List Char

/-- The words of a script; `before` holds those that were read, the last one first. -/
def tokens : Nat → List Token → List Char → Except Fault (List Token)
  | 0, before, _ => .ok (.finish :: before).reverse
  | _, before, [] => .ok (.finish :: before).reverse
  | fuel + 1, before, c :: rest =>
      let text := c :: rest
      if c == ' ' || c == '\t' || c == '\r' then tokens fuel before rest
      else if c == '\n' then tokens fuel (.newline :: before) rest
      else if c == '\\' && rest.head? == some '\n' then tokens fuel before (rest.drop 1)
      else if c == '#' then tokens fuel before (rest.dropWhile (· != '\n'))
      else if c == '"' then
        match upTo '"' (rest.length + 1) [] rest with
        | some (t, after) => tokens fuel (.text (unescaped (t.length + 1) t) :: before) after
        | none => .error ⟨octets "runaway string constant \"" ++ rest.take 10 ++ octets " ..."⟩
      else if isNameStart c then
        let word := text.takeWhile isNamePart
        let after := text.drop word.length
        let name := String.ofList word
        let token : Token :=
          if keywords.contains name then .keyword name
          else if builtins.contains name then .builtin name
          else if after.head? == some '(' then .function word else .name word
        tokens fuel (token :: before) after
      else if Text.isDigit c || (c == '.' && (rest.head?.map Text.isDigit).getD false) then
        match Figure.decimalAt text with
        | some (d, after) => tokens fuel (.number d.toFloat :: before) after
        | none => tokens fuel before rest
      else if c == '/' && !((before.head?.map Token.isOperandEnd).getD false) then
        match upTo '/' (rest.length + 1) [] rest with
        | some (t, after) => tokens fuel (.pattern t :: before) after
        | none => .error ⟨octets "runaway regular expression /" ++ rest.take 10 ++ octets " ..."⟩
      else
        match signs.find? fun s => begins text s with
        | some s => tokens fuel (.sign s :: before) (text.drop s.length)
        | none => .error ⟨octets "unexpected character '" ++ [c, '\'']⟩

/-- The expression that a text writes, escapes replaced; one that cannot be read fits nothing. -/
def regexOf (text : List Char) : Regex :=
  let rec plain : Nat → List Char → List Char
    | 0, text => text
    | _, [] => []
    | fuel + 1, '\\' :: c :: rest =>
        match if c == '\\' || c == 'b' then none else escape? c with
        | some d => d :: plain fuel rest
        | none => '\\' :: c :: plain fuel rest
    | fuel + 1, c :: rest => c :: plain fuel rest
  match Expression.read true (plain (text.length + 1) text) with
  | .ok r => r
  | .error _ => .one .none

end ClusterLaunch.Shell.Rows
