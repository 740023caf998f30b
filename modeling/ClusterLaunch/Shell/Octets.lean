import ClusterLaunch.Text.Digits
import ClusterLaunch.Text.Octets
import ClusterLaunch.Text.Pieces

/-!
Texts of the shell. Inside the shell a text is a list of octets, each given by the
character of the same number; characters beyond 255 do not occur.
-/

namespace ClusterLaunch.Shell

def octets (s : String) : List Char :=
  (Text.Octets.encode s).map fun b => Char.ofNat b.toNat

/-- The octets behind a text of the shell. -/
def rawOctets (text : List Char) : List UInt8 :=
  text.map fun c => UInt8.ofNat c.toNat

def shown (text : List Char) : String :=
  Text.Octets.decodeLossy (rawOctets text)

def numeral (n : Nat) : List Char := Text.numeral 10 n

def signed (n : Int) : List Char :=
  if n < 0 then '-' :: numeral n.natAbs else numeral n.natAbs

/-- The whole number that a text is, a sign in front of it included. -/
def readSigned? (text : List Char) : Option Int :=
  match text with
  | '-' :: digits => (Text.readNumeral? 10 digits).map fun n => -(n : Int)
  | '+' :: digits => (Text.readNumeral? 10 digits).map Int.ofNat
  | digits => (Text.readNumeral? 10 digits).map Int.ofNat

/-- The lines of a text, each without its line feed. -/
def linesOf (text : List Char) : List (List Char) :=
  let all := Text.pieces (· == '\n') text
  match all.reverse with
  | [] :: rest => rest.reverse
  | _ => all

/-- Every line with a line feed after it. -/
def unlines (lines : List (List Char)) : List Char :=
  lines.flatMap (· ++ ['\n'])

/-- Whether a text comes before another one, octet by octet. -/
def precedes (a b : List Char) : Bool :=
  a.lex b fun x y => Nat.blt x.toNat y.toNat

def sorted (texts : List (List Char)) : List (List Char) :=
  texts.mergeSort fun a b => !precedes b a

def padLeft (width : Nat) (text : List Char) : List Char :=
  List.replicate (width - text.length) ' ' ++ text

/-- A text with blanks behind, up to a width. -/
def padRight (width : Nat) (text : List Char) : List Char :=
  text ++ List.replicate (width - text.length) ' '

def begins (text : List Char) (lead : String) : Bool :=
  (Text.afterLead? lead.toList text).isSome

def endsWith (text ending : List Char) : Bool :=
  text.drop (text.length - ending.length) == ending

def isNameStart (c : Char) : Bool := c.isAlpha || c == '_'

def isNamePart (c : Char) : Bool := c.isAlphanum || c == '_'

def isName (text : List Char) : Bool :=
  match text with
  | [] => false
  | c :: rest => isNameStart c && rest.all isNamePart

/-- What stands after the last slash. -/
def lastName (path : List Char) : List Char :=
  (path.reverse.takeWhile (· != '/')).reverse

end ClusterLaunch.Shell
