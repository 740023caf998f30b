import ClusterLaunch.Shell.Octets

/-!
Scripts of the shell, as they are read: words with their expansions, and commands
with their redirections. Two dialects are known. In the wider one there are lists of
values, conditions between double brackets, and more forms of parameters.
-/

namespace ClusterLaunch.Shell

/-- What a script may be written in. -/
inductive Dialect
  | plain
  | wide
  deriving DecidableEq, Repr

/-- Where a redirection leads. -/
inductive Direction
  | read
  | write
  /-- Writes over a file even if the shell is asked to spare files. -/
  | overwrite
  | append
  | update
  deriving DecidableEq, Repr

mutual

/-- A piece of a word. What is quoted is not split into fields. -/
inductive Piece
  | plain (text : List Char) (quoted : Bool)
  /-- Quotes stood here, so there is a field even if it is empty. -/
  | quotes
  /-- A parameter; in the wider dialect it may be one value of a list. -/
  | param (name : List Char) (index : Option (List Piece)) (form : Form) (quoted : Bool)
  | sum (expression : List Piece) (quoted : Bool)
  | output (script : Command) (quoted : Bool)
  /-- A list of values, each with its index if that is given. -/
  | list (values : List (List Piece × List Piece))

/-- How the value of a parameter is used; `blank` is whether an empty value
counts as unset. -/
inductive Form
  | value
  | length
  | orElse (blank : Bool) (word : List Piece)
  | orAssign (blank : Bool) (word : List Piece)
  | orFail (blank : Bool) (word : List Piece)
  | andThen (blank : Bool) (word : List Piece)
  | trim (atEnd longest : Bool) (pattern : List Piece)
  /-- There is no such form. -/
  | wrong
  /-- A part of the value, from an offset on. -/
  | part (offset : List Piece) (count : Option (List Piece))
  /-- The value with fits of a pattern replaced; `place` says which ones. -/
  | replace (place : Char) (pattern replacement : List Piece)
  /-- The value with its letters in another case; `sign` says how. -/
  | recase (sign : Char) (all : Bool)
  /-- The value of the parameter that is named by the value. -/
  | indirect
  /-- The names of variables that begin so. -/
  | names
  /-- The indices of a list. -/
  | indices
  /-- The value in quotes. -/
  | requote

/-- Where the channel of a number leads while a command runs. -/
inductive Redirection
  | file (number : Nat) (direction : Direction) (target : List Piece)
  | duplicate (number : Nat) (target : List Piece)
  /-- The text of a document that follows the line, known by a number. -/
  | document (number : Nat) (id : Nat)
  /-- A word as a line of its own. -/
  | line (number : Nat) (word : List Piece)

/-- A variable that is given a value, or more of one. -/
inductive Assignment
  | mk (name : List Char) (index : Option (List Piece)) (more : Bool) (value : List Piece)

/-- A condition between double brackets. -/
inductive Condition
  | word (word : List Piece)
  | unary (operator : List Char) (word : List Piece)
  | binary (operator : List Char) (first second : List Piece)
  | not (condition : Condition)
  | both (first second : Condition)
  | either (first second : Condition)

inductive Command
  | nothing
  | simple (line : Nat) (assignments : List Assignment) (words : List (List Piece))
      (redirections : List Redirection)
  | redirected (line : Nat) (body : Command) (redirections : List Redirection)
  | subshell (line : Nat) (body : Command) (redirections : List Redirection)
  | background (line : Nat) (body : Command) (redirections : List Redirection)
  | pipeline (commands : List Command) (behind : Bool)
  | not (command : Command)
  | both (first second : Command)
  | either (first second : Command)
  | sequence (commands : List Command)
  | branch (test body otherwise : Command)
  | loop (inverted : Bool) (test body : Command)
  /-- A loop over words; the parameters without any. -/
  | each (line : Nat) (name : List Char) (words : List (List Piece)) (body : Command)
  | choose (line : Nat) (word : List Piece) (cases : List (List (List Piece) × Command × Char))
  /-- Gives a command a name, under which it is run with parameters of its own. -/
  | define (line : Nat) (name : List Char) (body : Command)
  | condition (line : Nat) (condition : Condition)
  | sums (line : Nat) (expression : List Piece)
  /-- A loop that counts: how it starts, whether it goes on, and how it steps. -/
  | count (line : Nat) (start test step : List Piece) (body : Command)
  | timed (command : Command)

end

abbrev Word := List Piece

instance : Inhabited Command := ⟨.nothing⟩

def allParameters : Word :=
  [.quotes, .param ['@'] none .value true, .quotes]

def Command.isNothing : Command → Bool
  | .nothing => true
  | _ => false

end ClusterLaunch.Shell
