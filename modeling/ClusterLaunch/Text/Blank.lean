import ClusterLaunch.Text.Pieces

/-!
The blank characters are those with the Unicode property `White_Space`.
Trimming, words and lines are all taken with respect to them, so every reader
of scheduler output agrees on where a word begins.
-/

namespace ClusterLaunch.Text

/-- The twenty-five characters with the property `White_Space`. -/
def isBlank (c : Char) : Bool :=
  c == ' ' || ('\t' ≤ c && c ≤ '\r') || c == '\u0085' || c == '\u00a0' || c == '\u1680' ||
    ('\u2000' ≤ c && c ≤ '\u200a') || c == '\u2028' || c == '\u2029' || c == '\u202f' ||
    c == '\u205f' || c == '\u3000'

/-- Drops leading characters of a class. -/
def stripStart (p : Char → Bool) (text : List Char) : List Char :=
  text.dropWhile p

/-- Drops trailing characters of a class. -/
def stripEnd (p : Char → Bool) (text : List Char) : List Char :=
  (text.reverse.dropWhile p).reverse

/-- Drops the characters of a class at both ends. -/
def strip (p : Char → Bool) (text : List Char) : List Char :=
  stripEnd p (stripStart p text)

/-- Drops the blanks at both ends. -/
def trim (text : List Char) : List Char :=
  strip isBlank text

/-- The longest runs of characters that are not blank, in order. -/
def words (text : List Char) : List (List Char) :=
  (pieces isBlank text).filter fun word => !word.isEmpty

/-- The pieces between line feeds. A carriage return before a line feed is left
in place: it is a blank, and every caller trims the lines it looks at. -/
def lines (text : List Char) : List (List Char) :=
  pieces (· == '\n') text

/-- The lines that hold more than blanks, trimmed. -/
def filledLines (text : List Char) : List (List Char) :=
  ((lines text).map trim).filter fun line => !line.isEmpty

/-- A text is blank when nothing is left of it after trimming. -/
def isBlankText (text : List Char) : Bool :=
  text.all isBlank

def trimmed (s : String) : String :=
  String.ofList (trim s.toList)

end ClusterLaunch.Text
