import ClusterLaunch.Json.Numeral

/-!
Complete JSON values and their texts: a compact one on one line, and a spread
one with two blanks of indentation a level. Characters below the space are
escaped, and so are the quote and the backslash; all others stand for themselves.
-/

namespace ClusterLaunch

inductive Json
  | null
  | bool (value : Bool)
  | number (value : Nat)
  | text (value : String)
  | array (items : List Json)
  | object (members : List (String × Json))

namespace Json

/-- The text of a character inside a string. -/
def escape (c : Char) : List Char :=
  if c = '"' then ['\\', '"']
  else if c = '\\' then ['\\', '\\']
  else if c = '\n' then ['\\', 'n']
  else if c = '\r' then ['\\', 'r']
  else if c = '\t' then ['\\', 't']
  else if c = '\x08' then ['\\', 'b']
  else if c = '\x0c' then ['\\', 'f']
  else if c < ' ' then ['\\', 'u'] ++ Text.padded 16 4 c.toNat
  else [c]

def quote (s : String) : List Char :=
  '"' :: s.toList.flatMap escape ++ ['"']

mutual

def compact : Json → List Char
  | .null => ['n', 'u', 'l', 'l']
  | .bool true => ['t', 'r', 'u', 'e']
  | .bool false => ['f', 'a', 'l', 's', 'e']
  | .number n => Text.numeral 10 n
  | .text s => quote s
  | .array items => '[' :: compactItems items
  | .object members => '\x7b' :: compactMembers members

def compactItems : List Json → List Char
  | [] => [']']
  | [last] => last.compact ++ [']']
  | head :: tail => head.compact ++ ',' :: compactItems tail

def compactMembers : List (String × Json) → List Char
  | [] => ['\x7d']
  | [(key, value)] => quote key ++ ':' :: value.compact ++ ['\x7d']
  | (key, value) :: tail => quote key ++ ':' :: value.compact ++ ',' :: compactMembers tail

end

def newline (level : Nat) : List Char :=
  '\n' :: List.replicate (2 * level) ' '

mutual

def spread (level : Nat) : Json → List Char
  | .array (head :: tail) => '[' :: spreadItems level (head :: tail)
  | .object (head :: tail) => '\x7b' :: spreadMembers level (head :: tail)
  | .null => compact .null
  | .bool b => compact (.bool b)
  | .number n => compact (.number n)
  | .text s => compact (.text s)
  | .array [] => compact (.array [])
  | .object [] => compact (.object [])

def spreadItems (level : Nat) : List Json → List Char
  | [] => newline level ++ [']']
  | [last] => newline (level + 1) ++ last.spread (level + 1) ++ newline level ++ [']']
  | head :: tail => newline (level + 1) ++ head.spread (level + 1) ++ ',' :: spreadItems level tail

def spreadMembers (level : Nat) : List (String × Json) → List Char
  | [] => newline level ++ ['\x7d']
  | [(key, value)] =>
      newline (level + 1) ++ quote key ++ [':', ' '] ++ value.spread (level + 1) ++
        newline level ++ ['\x7d']
  | (key, value) :: tail =>
      newline (level + 1) ++ quote key ++ [':', ' '] ++ value.spread (level + 1) ++
        ',' :: spreadMembers level tail

end

def compress (json : Json) : String :=
  String.ofList json.compact

def pretty (json : Json) : String :=
  String.ofList (json.spread 0)

def texts (items : List String) : Json :=
  .array (items.map .text)

def ofOption {α : Type} (encode : α → Json) : Option α → Json
  | some value => encode value
  | none => .null

end Json

end ClusterLaunch
