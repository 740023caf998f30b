import ClusterLaunch.Text.Quoted.Classes

/-!
Quoted text, the form in which messages show a value that came from outside.
The quoted form is one line of visible characters: whatever could end the line,
end the quotes or change how the text looks is written as an escape.
-/

namespace ClusterLaunch.Text

namespace Quoted

/-- Control characters and the separators that end a line. -/
def breaksLine (c : Char) : Bool :=
  c.toNat < 32 || (127 ≤ c.toNat && c.toNat < 160) || c == '\u2028' || c == '\u2029'

/-- Whether a character is shown by its code point. -/
def isHidden (c : Char) : Bool :=
  breaksLine c || (128 ≤ c.toNat && (extending.contains c || unprintable.contains c))

def ofChar (c : Char) : List Char :=
  if c = '\x00' then ['\\', '0']
  else if c = '\t' then ['\\', 't']
  else if c = '\r' then ['\\', 'r']
  else if c = '\n' then ['\\', 'n']
  else if c = '"' then ['\\', '"']
  else if c = '\\' then ['\\', '\\']
  else if isHidden c then ['\\', 'u', '\x7b'] ++ numeral 16 c.toNat ++ ['\x7d']
  else [c]

def body (text : List Char) : List Char :=
  text.flatMap ofChar

end Quoted

def quoted (s : String) : String :=
  String.ofList ('"' :: Quoted.body s.toList ++ ['"'])

def quotedList (items : List String) : String :=
  "[" ++ ", ".intercalate (items.map quoted) ++ "]"

end ClusterLaunch.Text
