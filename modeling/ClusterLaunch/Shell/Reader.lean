import ClusterLaunch.Shell.Source

/-!
Reading scripts. Words are read piece by piece, with their quotes and expansions;
tokens are put together to commands, pipelines and lists. A script is read one line
of commands at a time, so that a mistake further on only shows when it is reached.
Every function takes fuel, which bounds how deep the calls go.
-/

namespace ClusterLaunch.Shell.Reading

def isSpecial (c : Char) : Bool := ['@', '*', '#', '?', '-', '$', '!'].contains c

/-- Octets that end a word unless they are quoted. -/
def endsWord (c : Char) : Bool :=
  [' ', '\t', '\n', '&', '|', ';', '(', ')', '<', '>'].contains c

/-- Builtins that are found before functions, whose names functions cannot have. -/
def specialNames : List String :=
  [".", ":", "break", "continue", "eval", "exec", "exit", "export", "readonly", "local", "return",
   "set", "shift", "times", "trap", "unset"]

def singleQuoted : List Char → Reading (List Char)
  | [] => do
      modify fun s => { s with rest := [] }
      mistake "Unterminated quoted string"
  | '\'' :: more => do
      modify fun s => { s with rest := more }
      return []
  | c :: more => do
      if c == '\n' then modify fun s => { s with line := s.line + 1 }
      return c :: (← singleQuoted more)

/-- The text up to the closing backquote; inside, backslashes protect few octets. -/
def backquoted (quoted : Bool) : Nat → Reading (List Char)
  | 0 => mistake "EOF in backquote substitution"
  | fuel + 1 => do
      match ← rest with
      | [] => mistake "EOF in backquote substitution"
      | '\x60' :: _ => pop; return []
      | '\\' :: c :: _ =>
          pop; pop
          let bare := c == '\\' || c == '\x60' || c == '$' || (quoted && c == '"')
          return (if bare then [c] else ['\\', c]) ++ (← backquoted quoted fuel)
      | c :: _ => pop; return c :: (← backquoted quoted fuel)

/-- The octet of an escape between `$'` and `'`, and what follows it. -/
def escaped (c : Char) (more : List Char) : List Char × List Char :=
  let digits (base most : Nat) (text : List Char) : List Char :=
    (text.take most).takeWhile fun d => ((Text.hexValue? d).map (Nat.blt · base)).getD false
  let octal (text : List Char) : List Char × List Char :=
    let found := digits 8 3 text
    ([Char.ofNat ((Text.readNumeral? 8 found).getD 0 % 256)], text.drop found.length)
  let unicode (most : Nat) : List Char × List Char :=
    let found := digits 16 most more
    if found.isEmpty then (['\\', c], more)
    else (octets (String.singleton (Char.ofNat ((Text.readNumeral? 16 found).getD 0))),
      more.drop found.length)
  match c with
  | 'a' => (['\x07'], more)
  | 'b' => (['\x08'], more)
  | 'e' | 'E' => (['\x1b'], more)
  | 'f' => (['\x0c'], more)
  | 'n' => (['\n'], more)
  | 'r' => (['\r'], more)
  | 't' => (['\t'], more)
  | 'v' => (['\x0b'], more)
  | '\\' | '\'' | '"' | '?' => ([c], more)
  | 'x' =>
      let found := digits 16 2 more
      if found.isEmpty then (['\\', 'x'], more)
      else ([Char.ofNat ((Text.readNumeral? 16 found).getD 0)], more.drop found.length)
  | 'u' => unicode 4
  | 'U' => unicode 8
  | _ => if '0' ≤ c && c ≤ '7' then octal (c :: more) else (['\\', c], more)

/-- What is between `$'` and the next single quote. -/
def escapeQuoted : Nat → Reading (List Char)
  | 0 => mistake "Unterminated quoted string"
  | fuel + 1 => do
      match (← get).rest with
      | [] => mistake "Unterminated quoted string"
      | '\'' :: _ => pop; return []
      | '\\' :: c :: more =>
          let (text, more) := escaped c more
          modify fun s => { s with rest := more }
          return text ++ (← escapeQuoted fuel)
      | c :: _ => pop; return c :: (← escapeQuoted fuel)

/-- The lines of a document in which nothing is expanded, up to its ending, as one text. -/
def documentText (a : Awaited) : Nat → Reading (List Char)
  | 0 => return []
  | fuel + 1 => do
      let text := (← get).rest
      if text.isEmpty then return []
      let text := if a.stripped then text.dropWhile (· == '\t') else text
      let line := text.takeWhile (· != '\n')
      let after := text.drop line.length
      modify fun s => { s with rest := after.drop 1, line := s.line + 1 }
      if line == a.ending then return []
      return line ++ (if after.isEmpty then [] else ['\n']) ++ (← documentText a fuel)

/-- Begins a line of the document that is being read, if there is one: passes over the tabs that
are stripped, and over the whole line if it is the last one. -/
def beginLine : Reading Unit := do
  match (← get).document with
  | none => pure ()
  | some a =>
      let text ← rest
      let text := if a.stripped then text.dropWhile (· == '\t') else text
      let line := text.takeWhile (· != '\n')
      if line == a.ending then
        let after := (text.drop line.length).drop 1
        modify fun s => { s with rest := after, line := s.line + 1, finished := true }
      else modify fun s => { s with rest := text }

mutual

/-- The pieces of a word up to where it ends, which is the closing brace `inside` braces.
In the word after which a document ends, nothing is expanded. -/
def bare (inside ending : Bool) : Nat → Reading Word
  | 0 => mistake "Missing '\x7d'"
  | fuel + 1 => do
      match ← rest with
      | [] => if inside then mistake "Missing '\x7d'" else return []
      | '\\' :: more =>
          pop
          match more with
          | [] => return literal ['\\'] true []
          | c :: _ => pop; return literal [c] true (← bare inside ending fuel)
      | '\'' :: _ =>
          pop
          let text ← singleQuoted (← get).rest
          return .quotes :: literal text true (.quotes :: (← bare inside ending fuel))
      | '"' :: _ =>
          pop
          let inner ← double false false false fuel
          return .quotes :: inner ++ .quotes :: (← bare inside ending fuel)
      | '$' :: more =>
          pop
          if ending then return literal ['$'] false (← bare inside ending fuel)
          if (← isWide) && more.head? == some '\'' then
            pop
            let text ← escapeQuoted ((← get).rest.length + 1)
            return .quotes :: literal text true (.quotes :: (← bare inside ending fuel))
          if (← isWide) && more.head? == some '"' then return ← bare inside ending fuel
          let first ← dollar false fuel
          return first ++ (← bare inside ending fuel)
      | '\x60' :: _ =>
          pop
          if ending then return literal ['\x60'] true (← bare inside ending fuel)
          let first ← backquote false fuel
          return first :: (← bare inside ending fuel)
      | c :: _ =>
          if inside then
            if c == '\x7d' then return []
            pop
            return literal [c] false (← bare inside ending fuel)
          else if endsWord c then return []
          else
            pop
            return literal [c] false (← bare inside ending fuel)
termination_by structural fuel => fuel

/-- The pieces between double quotes, or in a document. `inside` braces the pieces end with
the brace, unless `inner` quotes were opened there. -/
def double (inside inner document : Bool) : Nat → Reading Word
  | 0 => mistake "Unterminated quoted string"
  | fuel + 1 => do
      let finished := (← get).finished
      let text ← if finished then pure [] else rest
      match text with
      | [] =>
          if (← get).document.isNone then mistake "Unterminated quoted string"
          else if inside then mistake "Missing '\x7d'"
          else return []
      | '\\' :: more =>
          pop
          match more with
          | [] => return literal ['\\'] true (← double inside inner document fuel)
          | c :: _ =>
              pop
              let protects := c == '\\' || c == '\x60' || c == '$' ||
                (c == '"' && !(document && !inside)) || (c == '\x7d' && inside)
              return literal (if protects then [c] else ['\\', c]) true
                (← double inside inner document fuel)
      | '$' :: _ =>
          pop
          let first ← dollar true fuel
          return first ++ (← double inside inner document fuel)
      | '\x60' :: _ =>
          pop
          let first ← backquote true fuel
          return first :: (← double inside inner document fuel)
      | '"' :: _ =>
          pop
          if inside then return .quotes :: (← double inside (!inner) document fuel)
          else if document then return literal ['"'] true (← double inside inner document fuel)
          else return []
      | c :: _ =>
          if c == '\x7d' && inside && !inner then return []
          pop
          if c == '\n' then beginLine
          return literal [c] true (← double inside inner document fuel)
termination_by structural fuel => fuel

/-- What a dollar sign stands before. -/
def dollar (quoted : Bool) : Nat → Reading Word
  | 0 => return [.plain ['$'] quoted]
  | fuel + 1 => do
      match ← rest with
      | '(' :: _ =>
          pop
          match ← rest with
          | '(' :: _ =>
              pop
              return [.sum (← sum 0 fuel) quoted]
          | _ => return [.output (← enclosed fuel) quoted]
      | '\x7b' :: _ => pop; return [← braced quoted fuel]
      | c :: _ =>
          if isNameStart c then
            let name ← takeWhile isNamePart ((← get).rest.length + 1)
            return [.param name none .value quoted]
          else if Text.isDigit c || isSpecial c then
            pop
            return [.param [c] none .value quoted]
          else return [.plain ['$'] quoted]
      | [] => return [.plain ['$'] quoted]
termination_by structural fuel => fuel

/-- The commands up to the bracket that closes them. Documents that they await are empty
unless their lines came before the bracket. -/
def enclosed : Nat → Reading Command
  | 0 => unexpected (some .closeParen)
  | fuel + 1 => do
      let outer ← get
      set { outer with awaited := [], held := false, document := none }
      let body ← list true true fuel
      if (← token fuel) != .closeParen then unexpected (some .closeParen)
      modify fun s =>
        { s with
          documents := s.awaited.map (fun a => (a.id, [])) ++ s.documents
          awaited := outer.awaited
          held := false
          document := outer.document
          finished := outer.finished }
      return body
termination_by structural fuel => fuel

def braced (quoted : Bool) : Nat → Reading Piece
  | 0 => mistake "Missing '\x7d'"
  | fuel + 1 => do
      let many := (← get).rest.length + 1
      let name (c : Char) : Reading (List Char) :=
        takeWhile (if isNameStart c then isNamePart else Text.isDigit) many
      -- the name, and whether its length is asked for; none if there is no parameter
      let (found, long) ← match ← rest with
        | '#' :: _ => do
            pop
            match ← rest with
            | c :: _ =>
                if isNamePart c then pure (some (← name c), true)
                else if c == '\x7d' then pure (some ['#'], false)
                else do
                  let before ← get
                  pop
                  if (← rest).head? == some '\x7d' && isSpecial c then pure (some [c], true)
                  else do
                    set before
                    pure (some ['#'], false)
            | [] => pure (some ['#'], false)
        | c :: _ =>
            if isNamePart c then pure (some (← name c), false)
            else if isSpecial c then do pop; pure (some [c], false)
            else pure (none, false)
        | [] => pure (none, false)
      let wide ← isWide
      match found with
      | none =>
          match ← rest with
          | '\x7d' :: _ => pop; return .param [] none .wrong quoted
          | _ =>
              pop
              let _ ← argument quoted fuel
              return .param [] none .wrong quoted
      | some name =>
          -- indirection in the wider dialect
          let around := wide && name == ['!'] && !long &&
            (((← rest).head?).map isNameStart).getD false
          let name ← if around then takeWhile isNamePart many else pure name
          let index ← if wide && (← rest).head? == some '[' && isName name then do
              pop
              let inner ← indexWord fuel
              pure (some inner)
            else pure none
          let close (form : Form) : Reading Piece := do
            if (← rest).head? == some '\x7d' then pop
            else mistake "Missing '\x7d'"
            return .param name index form quoted
          if long then
            if (← rest).head? == some '\x7d' then return ← close .length
            let _ ← argument quoted fuel
            return .param name index .wrong quoted
          if around then
            match ← rest with
            | '\x7d' :: _ =>
                return ← close (if index.isSome then .indices else .indirect)
            | sign :: '\x7d' :: _ =>
                if sign == '*' || sign == '@' then pop; return ← close .names
            | _ => pure ()
          let trimmed (sign : Char) : Reading Piece := do
            pop
            let longest := (← rest).head? == some sign
            if longest then pop
            let pattern ← bare true false fuel
            close (.trim (sign == '%') longest pattern)
          match ← rest with
          | [] => mistake (if quoted then "Unterminated quoted string" else "Missing '\x7d'")
          | '\x7d' :: _ => close .value
          | '%' :: _ => trimmed '%'
          | '#' :: _ => trimmed '#'
          | ':' :: _ =>
              pop
              match ← rest with
              | c :: _ =>
                  if ['-', '+', '?', '=', '\x7d'].contains c then
                    pop
                    let word ← argument quoted fuel
                    return .param name index (match c with
                      | '-' => .orElse true word
                      | '+' => .andThen true word
                      | '?' => .orFail true word
                      | '=' => .orAssign true word
                      | _ => .value) quoted
                  else if wide then
                    let offset ← sliceWord fuel
                    if (← rest).head? == some ':' then
                      pop
                      let count ← sliceWord fuel
                      close (.part offset (some count))
                    else close (.part offset none)
                  else
                    pop
                    let _ ← argument quoted fuel
                    return .param name index .wrong quoted
              | [] => mistake (if quoted then "Unterminated quoted string" else "Missing '\x7d'")
          | c :: _ =>
              pop
              match c with
              | '-' => return .param name index (.orElse false (← argument quoted fuel)) quoted
              | '+' => return .param name index (.andThen false (← argument quoted fuel)) quoted
              | '?' => return .param name index (.orFail false (← argument quoted fuel)) quoted
              | '=' => return .param name index (.orAssign false (← argument quoted fuel)) quoted
              | _ =>
                  if wide && c == '/' then
                    let place := match ← rest with
                      | p :: _ => if p == '/' || p == '#' || p == '%' then p else ' '
                      | [] => ' '
                    if place != ' ' then pop
                    let pattern ← patternWord fuel
                    if (← rest).head? == some '/' then
                      pop
                      let replacement ← bare true false fuel
                      close (.replace place pattern replacement)
                    else close (.replace place pattern [])
                  else if wide && (c == '^' || c == ',') then
                    let all := (← rest).head? == some c
                    if all then pop
                    close (.recase c all)
                  else if wide && c == '@' then
                    pop
                    close .requote
                  else
                    let _ ← argument quoted fuel
                    return .param name index .wrong quoted
termination_by structural fuel => fuel

/-- The word inside braces, and the brace that closes them. -/
def argument (quoted : Bool) : Nat → Reading Word
  | 0 => mistake "Missing '\x7d'"
  | fuel + 1 => do
      let word ← if quoted then double true false false fuel else bare true false fuel
      pop
      return word
termination_by structural fuel => fuel

def indexWord : Nat → Reading Word
  | 0 => mistake "Missing ']'"
  | fuel + 1 => do
      match ← rest with
      | [] => mistake "Missing ']'"
      | ']' :: _ => pop; return []
      | '"' :: _ =>
          pop
          let inner ← double false false false fuel
          return inner ++ (← indexWord fuel)
      | '\'' :: _ =>
          pop
          let text ← singleQuoted (← get).rest
          return literal text true (← indexWord fuel)
      | '$' :: _ => pop; let first ← dollar true fuel; return first ++ (← indexWord fuel)
      | c :: _ => pop; return literal [c] true (← indexWord fuel)
termination_by structural fuel => fuel

/-- The word up to a colon or the brace that closes a part. -/
def sliceWord : Nat → Reading Word
  | 0 => mistake "Missing '\x7d'"
  | fuel + 1 => do
      match ← rest with
      | [] => mistake "Missing '\x7d'"
      | '$' :: _ => pop; let first ← dollar true fuel; return first ++ (← sliceWord fuel)
      | c :: _ =>
          if c == ':' || c == '\x7d' then return []
          pop
          return literal [c] true (← sliceWord fuel)
termination_by structural fuel => fuel

/-- The pattern up to the slash or the brace that closes a replacement. -/
def patternWord : Nat → Reading Word
  | 0 => mistake "Missing '\x7d'"
  | fuel + 1 => do
      match ← rest with
      | [] => mistake "Missing '\x7d'"
      | '\\' :: c :: _ => pop; pop; return literal [c] true (← patternWord fuel)
      | '"' :: _ =>
          pop
          let inner ← double false false false fuel
          return inner ++ (← patternWord fuel)
      | '\'' :: _ =>
          pop
          let text ← singleQuoted (← get).rest
          return literal text true (← patternWord fuel)
      | '$' :: _ => pop; let first ← dollar true fuel; return first ++ (← patternWord fuel)
      | c :: _ =>
          if c == '/' || c == '\x7d' then return []
          pop
          return literal [c] false (← patternWord fuel)
termination_by structural fuel => fuel

/-- The expression of a sum, up to the two brackets that close it; `depth` others
are open. -/
def sum (depth : Nat) : Nat → Reading Word
  | 0 => mistake "Missing '))'"
  | fuel + 1 => do
      match ← rest with
      | [] => mistake "Missing '))'"
      | '\\' :: more =>
          pop
          match more with
          | [] => return literal ['\\'] true (← sum depth fuel)
          | c :: _ =>
              pop
              let protects := c == '\\' || c == '\x60' || c == '$' || c == '"'
              return literal (if protects then [c] else ['\\', c]) true (← sum depth fuel)
      | '$' :: _ => pop; let first ← dollar true fuel; return first ++ (← sum depth fuel)
      | '\x60' :: _ => pop; let first ← backquote true fuel; return first :: (← sum depth fuel)
      | '(' :: _ => pop; return literal ['('] true (← sum (depth + 1) fuel)
      | ')' :: _ =>
          pop
          if 0 < depth then return literal [')'] true (← sum (depth - 1) fuel)
          else if (← rest).head? == some ')' then pop; return []
          else return literal [')'] true (← sum depth fuel)
      | c :: _ => pop; return literal [c] true (← sum depth fuel)
termination_by structural fuel => fuel

/-- The output of the commands between backquotes, which are a script of their own. -/
def backquote (quoted : Bool) : Nat → Reading Piece
  | 0 => mistake "EOF in backquote substitution"
  | fuel + 1 => do
      let text ← backquoted quoted ((← get).rest.length + 1)
      let outer ← get
      set
        { outer with
          rest := text, line := 1, held := false, awaited := [], running := [], document := none }
      let body ← list true true fuel
      let inner ← get
      set { outer with documents := inner.documents, nextDocument := inner.nextDocument }
      return .output body quoted
termination_by structural fuel => fuel

/-- The next token, unless one was put back. -/
def anyToken : Nat → Reading Token
  | 0 => return .finish
  | fuel + 1 => do
      if (← get).held then
        modify fun s => { s with held := false }
        return (← get).token
      match ← rest with
      | [] => setToken .finish
      | c :: more =>
          match c with
          | ' ' | '\t' => pop; anyToken fuel
          | '#' => skipComment; anyToken fuel
          | '\n' => pop; setToken .newline
          | '&' =>
              if (← isWide) && more.head? == some '>' then
                pop; pop
                let appends := (← rest).head? == some '>'
                if appends then pop
                modify fun s => { s with arrow := (1, .outputs appends) }
                setToken .redirection
              else
                pop
                if (← rest).head? == some '&' then pop; setToken .both else setToken .background
          | '|' =>
              pop
              match ← rest with
              | '|' :: _ => pop; setToken .either
              | _ => setToken .pipe
          | ';' =>
              pop
              match ← rest with
              | ';' :: '&' :: _ =>
                  pop
                  if ← isWide then pop; setToken (.fallCase ';') else setToken .endCase
              | ';' :: _ => pop; setToken .endCase
              | '&' :: _ => if ← isWide then pop; setToken (.fallCase '&') else setToken .semi
              | _ => setToken .semi
          | '(' => pop; setToken .openParen
          | ')' => pop; setToken .closeParen
          | _ => wordToken false fuel
termination_by structural fuel => fuel

/-- A word, or the redirection that a digit or nothing stands before. -/
def wordToken (ending : Bool) : Nat → Reading Token
  | 0 => return .finish
  | fuel + 1 => do
      let word ← bare false ending fuel
      let next := (← get).rest.head?
      let number := match plainText? word with
        | some [] => some none
        | some [d] => if Text.isDigit d then some (some (d.toNat - 48)) else none
        | _ => none
      match number, next == some '<' || next == some '>' with
      | some number, true => arrow number fuel
      | _, _ =>
          modify fun s => { s with word }
          setToken .word
termination_by structural fuel => fuel

def arrow (number : Option Nat) : Nat → Reading Token
  | 0 => return .finish
  | _ + 1 => do
      let outward := (← rest).head? == some '>'
      pop
      let take (kind : Arrow) : Reading Arrow := do pop; return kind
      let kind : Arrow ← match outward, ← rest with
        | true, '>' :: _ => take (.file .append)
        | true, '|' :: _ => take (.file .overwrite)
        | true, '&' :: _ => take .duplicate
        | true, _ => pure (.file .write)
        | false, '<' :: _ => do
            pop
            match ← rest with
            | '-' :: _ => take (.document true)
            | '<' :: _ => if ← isWide then take .line else pure (.document false)
            | _ => pure (.document false)
        | false, '&' :: _ => take .duplicate
        | false, '>' :: _ => take (.file .update)
        | false, _ => pure (.file .read)
      modify fun s => { s with arrow := (number.getD (if outward then 1 else 0), kind) }
      setToken .redirection

def token : Nat → Reading Token
  | 0 => return .finish
  | fuel + 1 => do
      let before ← get
      let mut found ← anyToken fuel
      if before.sought.lines then found ← afterLines found fuel
      modify fun s => { s with sought := {} }
      -- the word behind an alias that ends with a blank may be an alias as well
      let aliases ← if before.sought.aliases then pure true else hasPassedAlias before
      let sought := { before.sought with aliases }
      if found != .word then return found
      match plainText? (← get).word with
      | none => return found
      | some text =>
          if sought.keywords && (← isKeyword text) then
            return ← setToken (.keyword (String.ofList text))
          if sought.aliases then
            match ← alias? text with
            | some value =>
                modify fun s => { s with rest := value ++ s.rest, sought }
                return ← token fuel
            | none => return found
          return found
termination_by structural fuel => fuel

def afterLines (found : Token) : Nat → Reading Token
  | 0 => return found
  | fuel + 1 => do
      if found != .newline then return found
      documents fuel
      afterLines (← anyToken fuel) fuel
termination_by structural fuel => fuel

def documents : Nat → Reading Unit
  | 0 => pure ()
  | fuel + 1 => do
      match (← get).awaited with
      | [] => pure ()
      | a :: others =>
          modify fun s => { s with awaited := others }
          let word ← if a.expands then do
              let outer ← get
              set { outer with document := some a, finished := false }
              beginLine
              let word ← double false false true fuel
              modify fun s => { s with document := outer.document, finished := outer.finished }
              pure word
            else do
              let text ← documentText a ((← get).rest.length + 1)
              pure [.plain text true]
          modify fun s => { s with documents := (a.id, word) :: s.documents }
          documents fuel
termination_by structural fuel => fuel

/-- A list of commands. `skips` says whether line feeds part commands as semicolons do, or
else end the list; `empty` whether there may be no command at all. -/
def list (skips empty : Bool) : Nat → Reading Command
  | 0 => unexpected
  | fuel + 1 => do
      let all ← commands skips empty fuel
      match all with
      | [] => return .nothing
      | [one] => return one
      | all => return .sequence all
termination_by structural fuel => fuel

def commands (skips empty : Bool) : Nat → Reading (List Command)
  | 0 => unexpected
  | fuel + 1 => do
      seek ⟨skips, true, true⟩
      let first ← token fuel
      match first with
      | .newline => documents fuel; return []
      | .finish =>
          documents fuel
          putBack
          let _ ← setToken .finish
          return []
      | _ => pure ()
      putBack
      if skips && empty && first.endsList then return []
      let command ← andOr fuel
      let after ← token fuel
      let command := if after == .background then
          match command with
          | .pipeline parts _ => .pipeline parts true
          | .redirected line body redirections => .background line body redirections
          | .simple line _ _ _ => .background line command []
          | .subshell line _ _ => .background line command []
          | _ => .background 0 command []
        else command
      match after with
      | .finish =>
          documents fuel
          putBack
          let _ ← setToken .finish
          return [command]
      | .newline =>
          putBack
          return command :: (← commands skips true fuel)
      | .background | .semi => return command :: (← commands skips true fuel)
      | _ =>
          if !skips then unexpected
          putBack
          return [command]
termination_by structural fuel => fuel

/-- Pipelines joined by `&&` and `||`. -/
def andOr : Nat → Reading Command
  | 0 => unexpected
  | fuel + 1 => do andOrOn (← pipeline fuel) fuel
termination_by structural fuel => fuel

def andOrOn (first : Command) : Nat → Reading Command
  | 0 => return first
  | fuel + 1 => do
      match ← token fuel with
      | .both =>
          seek ⟨true, true, true⟩
          andOrOn (.both first (← pipeline fuel)) fuel
      | .either =>
          seek ⟨true, true, true⟩
          andOrOn (.either first (← pipeline fuel)) fuel
      | _ => putBack; return first
termination_by structural fuel => fuel

def pipeline : Nat → Reading Command
  | 0 => unexpected
  | fuel + 1 => do
      match ← token fuel with
      | .keyword "time" =>
          seek ⟨false, true, true⟩
          return .timed (← pipeline fuel)
      | .keyword "!" =>
          seek ⟨false, true, true⟩
          return .not (← piped fuel)
      | _ => putBack; piped fuel
termination_by structural fuel => fuel

def piped : Nat → Reading Command
  | 0 => unexpected
  | fuel + 1 => do
      let first ← command fuel
      if (← token fuel) == .pipe then
        let others ← stages fuel
        return .pipeline (first :: others) false
      putBack
      return first
termination_by structural fuel => fuel

/-- The stages behind the first bar of a pipeline. -/
def stages : Nat → Reading (List Command)
  | 0 => unexpected
  | fuel + 1 => do
      seek ⟨true, true, true⟩
      let next ← command fuel
      if (← token fuel) == .pipe then return next :: (← stages fuel)
      putBack
      return [next]
termination_by structural fuel => fuel

def expect (expected : Token) : Nat → Reading Unit
  | 0 => unexpected (some expected)
  | fuel + 1 => do
      if (← token fuel) != expected then unexpected (some expected)
termination_by structural fuel => fuel

def command : Nat → Reading Command
  | 0 => unexpected
  | fuel + 1 => do
      let line := (← get).line
      let first ← token fuel
      match first with
      | .keyword "if" =>
          let c ← branch fuel
          expect (.keyword "fi") fuel
          redirected line c fuel
      | .keyword "while" | .keyword "until" =>
          let test ← list true false fuel
          expect (.keyword "do") fuel
          let body ← list true false fuel
          expect (.keyword "done") fuel
          redirected line (.loop (first == .keyword "until") test body) fuel
      | .keyword "for" => each line fuel
      | .keyword "case" => choose line fuel
      | .keyword "\x7b" =>
          let body ← list true false fuel
          expect (.keyword "\x7d") fuel
          redirected line body fuel
      | .keyword "[[" =>
          let c ← either fuel
          redirected line (.condition line c) fuel
      | .keyword "function" => named fuel
      | .openParen =>
          if (← isWide) && (← get).rest.head? == some '(' then
            pop
            let expression ← sum 0 fuel
            redirected line (.sums line expression) fuel
          else
            let body ← list true false fuel
            expect .closeParen fuel
            match ← redirected line body fuel with
            | .redirected _ _ redirections => return .subshell line body redirections
            | _ => return .subshell line body []
      | .word | .redirection =>
          putBack
          simple fuel
      | _ => unexpected
termination_by structural fuel => fuel

def branch : Nat → Reading Command
  | 0 => unexpected
  | fuel + 1 => do
      let test ← list true false fuel
      expect (.keyword "then") fuel
      let body ← list true false fuel
      match ← token fuel with
      | .keyword "elif" => return .branch test body (← branch fuel)
      | .keyword "else" => return .branch test body (← list true false fuel)
      | _ => putBack; return .branch test body .nothing
termination_by structural fuel => fuel

/-- The rest of a loop over words. -/
def each (line : Nat) : Nat → Reading Command
  | 0 => unexpected
  | fuel + 1 => do
      let first ← token fuel
      if (← isWide) && first == .openParen && (← get).rest.head? == some '(' then
        pop
        return ← counting line fuel
      let name := (plainText? (← get).word).getD []
      if first != .word || !isName name then mistake "Bad for loop variable"
      seek ⟨true, true, true⟩
      let words ← if (← token fuel) == .keyword "in" then do
          let words ← wordsOn fuel
          let last := (← get).token
          if last != .newline && last != .semi then unexpected
          pure words
        else do
          if (← get).token != .semi then putBack
          pure [allParameters]
      seek ⟨true, true, true⟩
      let c := Command.each line name words (← doGroup fuel)
      redirected line c fuel
termination_by structural fuel => fuel

/-- The body of a loop between `do` and `done`; in the wider dialect braces do too. -/
def doGroup : Nat → Reading Command
  | 0 => unexpected
  | fuel + 1 => do
      let first ← token fuel
      if (← isWide) && first == .keyword "\x7b" then
        let body ← list true false fuel
        expect (.keyword "\x7d") fuel
        return body
      if first != .keyword "do" then unexpected (some (.keyword "do"))
      let body ← list true false fuel
      expect (.keyword "done") fuel
      return body
termination_by structural fuel => fuel

def counting (line : Nat) : Nat → Reading Command
  | 0 => unexpected
  | fuel + 1 => do
      let expression ← sum 0 fuel
      let parts := parted expression
      if (← token fuel) != .semi then putBack
      seek ⟨true, true, true⟩
      let body ← doGroup fuel
      match parts with
      | [start, test, step] => redirected line (.count line start test step body) fuel
      | _ => mistake "Bad for loop variable"
termination_by structural fuel => fuel

def wordsOn : Nat → Reading (List Word)
  | 0 => return []
  | fuel + 1 => do
      if (← token fuel) == .word then
        let word := (← get).word
        return word :: (← wordsOn fuel)
      return []
termination_by structural fuel => fuel

/-- The rest of a choice among cases. -/
def choose (line : Nat) : Nat → Reading Command
  | 0 => unexpected
  | fuel + 1 => do
      if (← token fuel) != .word then unexpected (some .word)
      let subject := (← get).word
      seek ⟨true, true, true⟩
      expect (.keyword "in") fuel
      let cases ← cases fuel
      redirected line (.choose line subject cases) fuel
termination_by structural fuel => fuel

def cases : Nat → Reading (List (List Word × Command × Char))
  | 0 => unexpected
  | fuel + 1 => do
      seek ⟨true, true, false⟩
      let first ← token fuel
      if first == .keyword "esac" then return []
      if first == .openParen then
        let _ ← token fuel
      let patterns ← patterns fuel
      if (← get).token != .closeParen then unexpected (some .closeParen)
      let body ← list true true fuel
      seek ⟨true, true, false⟩
      match ← token fuel with
      | .keyword "esac" => return [(patterns, body, ' ')]
      | .endCase => return (patterns, body, ' ') :: (← cases fuel)
      | .fallCase sign => return (patterns, body, sign) :: (← cases fuel)
      | _ => unexpected (some .endCase)
termination_by structural fuel => fuel

/-- The patterns of a case, of which the first one has been read. -/
def patterns : Nat → Reading (List Word)
  | 0 => unexpected
  | fuel + 1 => do
      let s ← get
      let first := match s.token with
        | .word => s.word
        | .keyword name => [.plain name.toList false]
        | _ => []
      if (← token fuel) == .pipe then
        let _ ← token fuel
        return first :: (← patterns fuel)
      return [first]
termination_by structural fuel => fuel

def named : Nat → Reading Command
  | 0 => unexpected
  | fuel + 1 => do
      if (← token fuel) != .word then unexpected
      let name := unquoted (← get).word
      if (← token fuel) == .openParen then expect .closeParen fuel else putBack
      seek ⟨true, true, true⟩
      let line := (← get).line
      return .define line name (← command fuel)
termination_by structural fuel => fuel

def redirected (line : Nat) (c : Command) : Nat → Reading Command
  | 0 => return c
  | fuel + 1 => do
      match ← redirections fuel with
      | [] => return c
      | found => return .redirected line c found
termination_by structural fuel => fuel

def redirections : Nat → Reading (List Redirection)
  | 0 => return []
  | fuel + 1 => do
      seek ⟨false, true, true⟩
      if (← token fuel) == .redirection then
        let first ← target fuel
        return first ++ (← redirections fuel)
      putBack
      return []
termination_by structural fuel => fuel

def target : Nat → Reading (List Redirection)
  | 0 => unexpected
  | fuel + 1 => do
      let (number, kind) := (← get).arrow
      match kind with
      | .document stripped =>
          -- the word is taken as it is, so it cannot be a token that was put back
          let found ← match ← blanks fuel with
            | c :: _ => if endsWord c then anyToken fuel else wordToken true fuel
            | [] => setToken .finish
          if found != .word then unexpected
          let s ← get
          let awaited : Awaited := ⟨s.nextDocument, unquoted s.word, stripped, !isQuoted s.word⟩
          set { s with awaited := s.awaited ++ [awaited], nextDocument := s.nextDocument + 1 }
          return [.document number awaited.id]
      | _ =>
          if (← token fuel) != .word then unexpected
          let word := (← get).word
          match kind with
          | .file direction => return [.file number direction word]
          | .line => return [.line number word]
          | .outputs appends =>
              return [.file 1 (if appends then .append else .write) word,
                .duplicate 2 [.plain ['1'] false]]
          | _ => return [.duplicate number word]
termination_by structural fuel => fuel

def blanks : Nat → Reading (List Char)
  | 0 => rest
  | fuel + 1 => do
      match ← rest with
      | ' ' :: _ | '\t' :: _ => pop; blanks fuel
      | text => return text
termination_by structural fuel => fuel

def simple : Nat → Reading Command
  | 0 => unexpected
  | fuel + 1 => do
      let line := (← get).line
      parts line [] [] [] fuel
termination_by structural fuel => fuel

/-- The parts of a simple command, each kind with the latest first. -/
def parts (line : Nat) (assignments : List Assignment) (words : List Word)
    (redirections : List Redirection) : Nat → Reading Command
  | 0 => unexpected
  | fuel + 1 => do
      seek ⟨false, false, words.isEmpty⟩
      let finished : Reading Command := do
        putBack
        return .simple line assignments.reverse words.reverse redirections
      match ← token fuel with
      | .word =>
          let word := (← get).word
          let wide ← isWide
          let opens := (← get).rest.head? == some '('
          match if words.isEmpty then assignment? wide word else none with
          | some (.mk name index more value) =>
              if wide && opens && value.isEmpty then
                pop
                let values ← listed fuel
                let a := Assignment.mk name index more [.list values]
                parts line (a :: assignments) words redirections fuel
              else parts line (.mk name index more value :: assignments) words redirections fuel
          | none =>
              let ends := match word.getLast? with
                | some (.plain text false) => text.getLast? == some '='
                | _ => false
              if wide && opens && ends && (assignment? wide word).isSome then
                pop
                let values ← listed fuel
                parts line assignments ((word ++ [.list values]) :: words) redirections fuel
              else parts line assignments (word :: words) redirections fuel
      | .redirection =>
          let more ← target fuel
          parts line assignments words (redirections ++ more) fuel
      | .openParen =>
          match assignments, words, redirections with
          | [], [word], [] =>
              expect .closeParen fuel
              let name := unquoted word
              let wide ← isWide
              let plain := (plainText? word).isSome
              if !(plain && (if wide then !name.isEmpty else isName name)) ||
                  (!wide && specialNames.contains (String.ofList name)) then
                mistake "Bad function name"
              seek ⟨true, true, true⟩
              let line := (← get).line
              return .define line name (← command fuel)
          | _, _, _ => finished
      | _ => finished
termination_by structural fuel => fuel

def listed : Nat → Reading (List (Word × Word))
  | 0 => unexpected
  | fuel + 1 => do
      seek ⟨true, false, false⟩
      match ← token fuel with
      | .closeParen => return []
      | .word =>
          let word := (← get).word
          return indexed word :: (← listed fuel)
      | _ => unexpected (some .closeParen)
termination_by structural fuel => fuel

/-- Conditions joined by `||`, up to the double bracket that closes them. -/
def either : Nat → Reading Condition
  | 0 => unexpected
  | fuel + 1 => do
      let first ← both fuel
      seek ⟨true, false, false⟩
      match ← token fuel with
      | .either => return .either first (← either fuel)
      | .word =>
          if plainText? (← get).word == some "]]".toList then return first
          else unexpected
      | .closeParen => putBack; return first
      | _ => unexpected
termination_by structural fuel => fuel

def both : Nat → Reading Condition
  | 0 => unexpected
  | fuel + 1 => do
      let first ← single fuel
      seek ⟨true, false, false⟩
      match ← token fuel with
      | .both => return .both first (← both fuel)
      | _ => putBack; return first
termination_by structural fuel => fuel

def single : Nat → Reading Condition
  | 0 => unexpected
  | fuel + 1 => do
      seek ⟨true, false, false⟩
      match ← token fuel with
      | .openParen =>
          let inner ← either fuel
          expect .closeParen fuel
          return inner
      | .word =>
          let word := (← get).word
          match plainText? word with
          | some ['!'] => return .not (← single fuel)
          | some ('-' :: letter :: []) =>
              match ← token fuel with
              | .word =>
                  let second := (← get).word
                  match plainText? second with
                  | some text =>
                      if ["==", "=", "!=", "=~"].contains (String.ofList text) then
                        return .binary text word (← operand text fuel)
                      else return .unary ['-', letter] second
                  | none => return .unary ['-', letter] second
              | _ => putBack; return .word word
          | _ =>
              match ← token fuel with
              | .word =>
                  let operator := (plainText? (← get).word).getD []
                  if operator == "]]".toList then putBack; return .word word
                  return .binary operator word (← operand operator fuel)
              | .redirection =>
                  let (_, kind) := (← get).arrow
                  let operator := match kind with
                    | .file .read => ['<']
                    | _ => ['>']
                  return .binary operator word (← operand operator fuel)
              | _ => putBack; return .word word
      | _ => unexpected
termination_by structural fuel => fuel

/-- The second side of an operator. In an expression brackets and bars are its own. -/
def operand (operator : List Char) : Nat → Reading Word
  | 0 => unexpected
  | fuel + 1 => do
      if operator == ['=', '~'] then
        let _ ← blanks fuel
        expression fuel
      else
        if (← token fuel) != .word then unexpected
        return (← get).word
termination_by structural fuel => fuel

def expression : Nat → Reading Word
  | 0 => return []
  | fuel + 1 => do
      match ← rest with
      | [] => return []
      | '"' :: _ =>
          pop
          let inner ← double false false false fuel
          return inner ++ (← expression fuel)
      | '\'' :: _ =>
          pop
          let text ← singleQuoted (← get).rest
          return literal text true (← expression fuel)
      | '$' :: _ => pop; let first ← dollar false fuel; return first ++ (← expression fuel)
      | '\\' :: c :: _ => pop; pop; return literal [c] true (← expression fuel)
      | c :: _ =>
          if c == ' ' || c == '\t' || c == '\n' then return []
          pop
          return literal [c] false (← expression fuel)
termination_by structural fuel => fuel

end

/-- A text with its expansions, which are read as in a document; none if they cannot be read. -/
def expandable? (text : List Char) (dialect : Dialect) : Option Word :=
  -- no line has the ending, so that the document is the whole text
  let document : Awaited := ⟨0, ['\n'], false, true⟩
  match (double false false true (text.length * 16 + 64)).run
      { rest := text, dialect, document := some document } with
  | .ok (word, _) => some word
  | .error _ => none

/-- The commands of the next line; none at the end of the text. -/
def next? : Reading (Option Command) := do
  modify fun s => { s with held := false, awaited := [], sought := ⟨false, true, true⟩ }
  let fuel := (← get).rest.length * 16 + 64
  if (← token fuel) == .finish then return none
  putBack
  return some (← list false true fuel)

end ClusterLaunch.Shell.Reading
