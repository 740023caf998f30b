import ClusterLaunch.Text.Digits
import ClusterLaunch.Text.Pieces

/-!
What is said when a task fails: what was being done, and below it the causes, from
the outermost to the innermost. Several causes are numbered; the further lines of
a cause are indented as far as its first one.
-/

namespace ClusterLaunch.CommandLine

structure Complaint where
  context : String
  causes : List String
  deriving DecidableEq, Repr

namespace Complaint

/-- A text whose lines begin with the given leads: one for the first line, one for
all others. -/
def indented (first later : List Char) (text : String) : List Char :=
  first ++ (['\n'] ++ later).intercalate (Text.pieces (· == '\n') text.toList)

def numbered (n : Nat) : List Char :=
  let digits := Text.numeral 10 n
  List.replicate (5 - digits.length) ' ' ++ digits ++ [':', ' ']

def listed (causes : List String) : List (List Char) :=
  match causes with
  | [cause] => [indented (List.replicate 4 ' ') (List.replicate 4 ' ') cause]
  | _ => causes.zipIdx.map fun (cause, n) => indented (numbered n) (List.replicate 7 ' ') cause

def text (c : Complaint) : String :=
  let causes :=
    if c.causes.isEmpty then []
    else "\n\nCaused by:".toList ++ (listed c.causes).flatMap ('\n' :: ·)
  "Error: " ++ c.context ++ String.ofList causes ++ "\n"

end Complaint

end ClusterLaunch.CommandLine
