import ClusterLaunch.Shell.Script

/-!
The text of a script while it is being read. Tokens are taken from its front; one
token can be put back, and which words count as keywords depends on where in the
script a token is asked for. A backslash at the end of a line joins the line to the
next one everywhere but in single quotes.
-/

namespace ClusterLaunch.Shell

inductive Token
  | finish
  | newline
  | semi
  | background
  | both
  | either
  | pipe
  | openParen
  | closeParen
  | endCase
  | redirection
  | word
  | keyword (name : String)
  /-- Ends a case and goes on with the next one: `;&`, or tries the next one: `;;&`. -/
  | fallCase (sign : Char)
  | openSums
  deriving DecidableEq, Repr

namespace Token

def name : Token → String
  | .finish => "end of file"
  | .newline => "newline"
  | .semi => "\";\""
  | .background => "\"&\""
  | .both => "\"&&\""
  | .either => "\"||\""
  | .pipe => "\"|\""
  | .openParen | .openSums => "\"(\""
  | .closeParen => "\")\""
  | .endCase | .fallCase _ => "\";;\""
  | .redirection => "redirection"
  | .word => "word"
  | .keyword name => "\"" ++ name ++ "\""

def keywords : List String :=
  ["!", "case", "do", "done", "elif", "else", "esac", "fi", "for", "if", "in", "then", "until",
   "while", "\x7b", "\x7d"]

def wideKeywords : List String := ["[[", "function", "time", "select"]

def endsList : Token → Bool
  | .finish | .closeParen | .endCase | .fallCase _ => true
  | .keyword name => ["do", "done", "elif", "else", "esac", "fi", "then", "\x7d"].contains name
  | _ => false

end Token

/-- What keeps a text from being a script, and the line on which that shows. -/
structure Mistake where
  message : String
  line : Nat
  deriving DecidableEq, Repr

/-- The kind of a redirection, before its target is read. -/
inductive Arrow
  | file (direction : Direction)
  | duplicate
  | document (stripped : Bool)
  | line
  /-- Both outputs at once. -/
  | outputs (appends : Bool)

/-- A document that is to follow the line. -/
structure Awaited where
  id : Nat
  ending : List Char
  stripped : Bool
  /-- Whether there are expansions in it. -/
  expands : Bool

/-- What a token is asked for with. -/
structure Sought where
  /-- Line feeds before the token do not count. -/
  lines : Bool := false
  keywords : Bool := false
  aliases : Bool := false

structure Source where
  rest : List Char
  line : Nat := 1
  dialect : Dialect := .plain
  aliases : List (List Char × List Char) := []
  /-- The aliases that are being read, each with how much text was left behind it. -/
  running : List (List Char × Nat) := []
  token : Token := .finish
  /-- Whether the token was put back. -/
  held : Bool := false
  word : Word := []
  arrow : Nat × Arrow := (0, .duplicate)
  sought : Sought := {}
  awaited : List Awaited := []
  documents : List (Nat × Word) := []
  nextDocument : Nat := 0
  /-- The document whose text is being read, and whether its last line was met. -/
  document : Option Awaited := none
  finished : Bool := false

abbrev Reading := StateT Source (Except Mistake)

/-- The text of a word that has neither quotes nor expansions. -/
def plainText? : Word → Option (List Char)
  | [] => some []
  | [.plain text false] => some text
  | _ => none

def isQuoted (w : Word) : Bool :=
  w.any fun
    | .quotes => true
    | .plain _ quoted => quoted
    | _ => false

/-- The text of a word without its quotes. -/
def unquoted (w : Word) : List Char :=
  w.flatMap fun
    | .plain text _ => text
    | _ => []

/-- Puts a text before the pieces of a word. -/
def literal (text : List Char) (quoted : Bool) : Word → Word
  | .plain more same :: rest =>
      if same == quoted then .plain (text ++ more) quoted :: rest
      else .plain text quoted :: .plain more same :: rest
  | rest => .plain text quoted :: rest

/-- A word without a piece in front that holds nothing. -/
def trimmedFront : Word → Word
  | .plain [] false :: rest => rest
  | w => w

/-- The pieces up to the closing bracket of an index, and the pieces after it. -/
def indexAndRest? : Word → Option (Word × Word)
  | [] => none
  | .plain text false :: rest =>
      let inner := text.takeWhile (· != ']')
      match text.drop inner.length with
      | ']' :: after =>
          some (trimmedFront [.plain inner false], trimmedFront (.plain after false :: rest))
      | _ => (indexAndRest? rest).map fun (index, after) =>
          (trimmedFront (.plain text false :: index), after)
  | piece :: rest => (indexAndRest? rest).map fun (index, after) => (piece :: index, after)

/-- The value behind the sign of an assignment, and whether it is added to what is there. -/
def assigned? (wide : Bool) : Word → Option (Bool × Word)
  | .plain ('=' :: text) false :: rest => some (false, trimmedFront (.plain text false :: rest))
  | .plain ('+' :: '=' :: text) false :: rest =>
      if wide then some (true, trimmedFront (.plain text false :: rest)) else none
  | _ => none

/-- The assignment that a word is. Only the wider dialect has indices and adds to values. -/
def assignment? (wide : Bool) : Word → Option Assignment
  | .plain text false :: rest =>
      let name := text.takeWhile isNamePart
      if !isName name then none
      else match text.drop name.length with
        | '[' :: after =>
            if !wide then none
            else do
              let (index, rest) ← indexAndRest? (.plain after false :: rest)
              let (more, value) ← assigned? wide rest
              return .mk name (some index) more value
        | after => do
            let (more, value) ← assigned? wide (.plain after false :: rest)
            return .mk name none more value
  | _ => none

def indexed (w : Word) : Word × Word :=
  match w with
  | .plain ('[' :: text) false :: rest =>
      match indexAndRest? (.plain text false :: rest) with
      | some (index, .plain ('=' :: value) false :: rest) =>
          (index, trimmedFront (.plain value false :: rest))
      | _ => ([], w)
  | _ => ([], w)

def parted : Word → List Word
  | [] => [[]]
  | .plain text quoted :: rest =>
      let plain (t : List Char) : Word := if t.isEmpty then [] else [.plain t quoted]
      match (Text.pieces (· == ';') text).map plain,
          parted rest with
      | [], others => others
      | pieces, [] => pieces
      | pieces, first :: others =>
          match pieces.reverse with
          | [] => first :: others
          | last :: before => before.reverse ++ (last ++ first) :: others
  | piece :: rest =>
      match parted rest with
      | [] => [[piece]]
      | first :: others => (piece :: first) :: others

namespace Reading

def mistake {α : Type} (message : String) : Reading α := do
  throw ⟨"Syntax error: " ++ message, (← get).line⟩

/-- Complains about the last token, and may say which one was expected. -/
def unexpected {α : Type} (expected : Option Token := none) : Reading α := do
  let found := (← get).token.name ++ " unexpected"
  match expected with
  | none => mistake found
  | some token => mistake (found ++ " (expecting " ++ token.name ++ ")")

def joinLines : Nat → Reading Unit
  | 0 => pure ()
  | fuel + 1 => do
      match (← get).rest with
      | '\\' :: '\n' :: rest =>
          modify fun s => { s with rest, line := s.line + 1 }
          joinLines fuel
      | _ => pure ()

/-- What comes next, with lines joined. -/
def rest : Reading (List Char) := do
  match (← get).rest with
  | '\\' :: '\n' :: more =>
      joinLines (more.length + 1)
      return (← get).rest
  | text => return text

def pop : Reading Unit := do
  modify fun s => match s.rest with
    | [] => s
    | c :: rest => { s with rest, line := if c == '\n' then s.line + 1 else s.line }

/-- Takes the octets of a class, with lines joined. -/
def takeWhile (p : Char → Bool) : Nat → Reading (List Char)
  | 0 => return []
  | fuel + 1 => do
      match ← rest with
      | [] => return []
      | c :: _ => if p c then do pop; return c :: (← takeWhile p fuel) else return []

def isWide : Reading Bool := return (← get).dialect == .wide

def seek (sought : Sought) : Reading Unit := modify fun s => { s with sought }

def putBack : Reading Unit := modify fun s => { s with held := true }

def setToken (token : Token) : Reading Token := do
  modify fun s => { s with token }
  return token

def skipComment : Reading Unit :=
  modify fun s => { s with rest := s.rest.dropWhile (· != '\n') }

def alias? (name : List Char) : Reading (Option (List Char)) := do
  let s ← get
  if s.aliases.isEmpty then return none
  let left := s.rest.length
  let running := s.running.filter fun (_, behind) => Nat.blt behind left
  if (running.lookup name).isSome then return none
  match s.aliases.lookup name with
  | none => return none
  | some value =>
      set { s with running := (name, left) :: running }
      return some value

/-- Whether an alias whose text ends with a blank was read to its end since an earlier moment. -/
def hasPassedAlias (before : Source) : Reading Bool := do
  if before.running.isEmpty then return false
  let size := before.rest.length
  let left := (← get).rest.length
  return before.running.any fun (name, behind) =>
    Nat.blt behind size && Nat.ble left behind &&
      (((before.aliases.lookup name).bind List.getLast?).map fun c => c == ' ' || c == '\t').getD
        false

def isKeyword (text : List Char) : Reading Bool := do
  let name := String.ofList text
  return Token.keywords.contains name || ((← isWide) && Token.wideKeywords.contains name)

end Reading

end ClusterLaunch.Shell
