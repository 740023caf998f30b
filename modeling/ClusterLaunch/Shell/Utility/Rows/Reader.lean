import ClusterLaunch.Shell.Utility.Rows.Script

/-!
Reading scripts about rows: from words to rules. Operators are read from the loosest
to the tightest; where something is printed a `>` leads to a file, so it is no
comparison there unless it stands in brackets.
-/

namespace ClusterLaunch.Shell.Rows

/-- What may not be read as an operator at some place. -/
structure Context where
  /-- Whether `>` leads to a file. -/
  printing : Bool := false
  /-- Whether `in` belongs to a loop. -/
  looping : Bool := false

structure Draft where
  rest : List Token
  line : Nat := 1

abbrev Reading := StateT Draft (Except Fault)

def peek : Reading Token := return ((← get).rest.head?).getD .finish

def skip : Reading Unit :=
  modify fun d =>
    { d with
      rest := d.rest.drop 1
      line := if d.rest.head? == some .newline then d.line + 1 else d.line }

/-- What a word looks like in a complaint. -/
def Token.shown : Token → List Char
  | .number _ => octets "number"
  | .text t => '"' :: t ++ ['"']
  | .pattern t => '/' :: t ++ ['/']
  | .name n | .function n => n
  | .keyword w | .builtin w | .sign w => octets w
  | .newline => octets "end of line"
  | .finish => octets "end of line"

def wrong {α : Type} : Reading α := do
  let d ← get
  throw ⟨octets "line " ++ numeral d.line ++ octets ": syntax error at or near " ++ (← peek).shown⟩

def isSign (text : String) : Reading Bool := return (← peek) == .sign text

def isKeyword (word : String) : Reading Bool := return (← peek) == .keyword word

def accept (text : String) : Reading Bool := do
  if ← isSign text then
    skip
    return true
  else return false

def expect (text : String) : Reading Unit := do
  if !(← accept text) then wrong

def skipNewlines : Nat → Reading Unit
  | 0 => return
  | fuel + 1 => do
      if (← peek) == .newline then
        skip
        skipNewlines fuel

def newlines : Reading Unit := do skipNewlines ((← get).rest.length + 1)

/-- Passes over line ends and semicolons. -/
def skipEnds : Nat → Reading Unit
  | 0 => return
  | fuel + 1 => do
      if (← peek) == .newline || (← isSign ";") then
        skip
        skipEnds fuel

def ends : Reading Unit := do skipEnds ((← get).rest.length + 1)

/-- Ends a simple deed; a closing brace does that as well. -/
def endOfDeed : Reading Unit := do
  match ← peek with
  | .newline | .sign ";" => skip
  | .sign "\x7d" | .finish => pure ()
  | _ => wrong

def Term.isTarget : Term → Bool
  | .name _ | .field _ | .item _ _ => true
  | _ => false

/-- Binary operators of a level, the loosest level first. -/
def comparisons : List (String × Operator) :=
  [("<", .less), ("<=", .atMost), ("==", .equal), ("!=", .unequal), (">", .more), (">=", .atLeast)]

def sums : List (String × Operator) := [("+", .add), ("-", .subtract)]

def products : List (String × Operator) := [("*", .multiply), ("/", .divide), ("%", .remainder)]

def assignments : List (String × Option Operator) :=
  [("=", none), ("+=", some .add), ("-=", some .subtract), ("*=", some .multiply),
   ("/=", some .divide), ("%=", some .remainder), ("^=", some .power), ("**=", some .power)]

def operator? {α : Type} (table : List (String × α)) : Reading (Option α) := do
  match ← peek with
  | .sign s => return table.lookup s
  | _ => return none

/-- Whether an operand can begin with a word, so that it is joined to the one before it. -/
def Token.beginsOperand : Token → Bool
  | .number _ | .text _ | .pattern _ | .name _ | .function _ | .builtin _ => true
  | .sign s => ["$", "(", "++", "--"].contains s
  | _ => false

mutual

def term (c : Context) : Nat → Reading Term
  | 0 => wrong
  | fuel + 1 => do
      let first ← alternatives c fuel
      if ← accept "?" then
        newlines
        let yes ← term c fuel
        newlines
        expect ":"
        newlines
        return .choice first yes (← term c fuel)
      match ← operator? assignments with
      | some operator =>
          if !first.isTarget then wrong
          skip
          newlines
          return .assign first operator (← term c fuel)
      | none => return first
termination_by structural fuel => fuel

def alternatives (c : Context) : Nat → Reading Term
  | 0 => wrong
  | fuel + 1 => do
      let first ← conjunction c fuel
      if ← accept "||" then
        newlines
        return .either first (← alternatives c fuel)
      else return first
termination_by structural fuel => fuel

def conjunction (c : Context) : Nat → Reading Term
  | 0 => wrong
  | fuel + 1 => do
      let first ← membership c fuel
      if ← accept "&&" then
        newlines
        return .both first (← conjunction c fuel)
      else return first
termination_by structural fuel => fuel

def membership (c : Context) : Nat → Reading Term
  | 0 => wrong
  | fuel + 1 => do
      let first ← matching c fuel
      if !c.looping && (← isKeyword "in") then
        skip
        match ← peek with
        | .name array => skip; return .isIn [first] array
        | _ => wrong
      else return first
termination_by structural fuel => fuel

def matching (c : Context) : Nat → Reading Term
  | 0 => wrong
  | fuel + 1 => do
      let first ← comparison c fuel
      furtherMatching c first fuel
termination_by structural fuel => fuel

def furtherMatching (c : Context) (first : Term) : Nat → Reading Term
  | 0 => return first
  | fuel + 1 => do
      if ← accept "~" then
        let pattern ← comparison c fuel
        furtherMatching c (.fits first pattern false) fuel
      else if ← accept "!~" then
        let pattern ← comparison c fuel
        furtherMatching c (.fits first pattern true) fuel
      else return first
termination_by structural fuel => fuel

def comparison (c : Context) : Nat → Reading Term
  | 0 => wrong
  | fuel + 1 => do
      let first ← joined c fuel
      match ← operator? comparisons with
      | some operator =>
          if c.printing && operator == .more then return first
          skip
          return .binary operator first (← joined c fuel)
      | none =>
          if ← isSign "|" then
            -- what a command prints can be read
            match (← get).rest with
            | _ :: .keyword "getline" :: _ =>
                skip
                skip
                let target ← target? c fuel
                furtherPipes c (.take target none (some first)) fuel
            | _ => return first
          else return first
termination_by structural fuel => fuel

def furtherPipes (c : Context) (first : Term) : Nat → Reading Term
  | 0 => return first
  | fuel + 1 => do
      match ← operator? comparisons with
      | some operator =>
          if c.printing && operator == .more then return first
          skip
          return .binary operator first (← joined c fuel)
      | none => return first
termination_by structural fuel => fuel

/-- A variable, a field or an item behind `getline`. -/
def target? (c : Context) : Nat → Reading (Option Term)
  | 0 => return none
  | fuel + 1 => do
      match ← peek with
      | .name _ | .sign "$" => return some (← primary c fuel)
      | _ => return none
termination_by structural fuel => fuel

def joined (c : Context) : Nat → Reading Term
  | 0 => wrong
  | fuel + 1 => do
      let first ← sum c fuel
      furtherJoined c first fuel
termination_by structural fuel => fuel

def furtherJoined (c : Context) (first : Term) : Nat → Reading Term
  | 0 => return first
  | fuel + 1 => do
      if (← peek).beginsOperand then
        let next ← sum c fuel
        furtherJoined c (.binary .join first next) fuel
      else return first
termination_by structural fuel => fuel

def sum (c : Context) : Nat → Reading Term
  | 0 => wrong
  | fuel + 1 => do
      let first ← product c fuel
      furtherSum c first fuel
termination_by structural fuel => fuel

def furtherSum (c : Context) (first : Term) : Nat → Reading Term
  | 0 => return first
  | fuel + 1 => do
      match ← operator? sums with
      | some operator =>
          skip
          let next ← product c fuel
          furtherSum c (.binary operator first next) fuel
      | none => return first
termination_by structural fuel => fuel

def product (c : Context) : Nat → Reading Term
  | 0 => wrong
  | fuel + 1 => do
      let first ← unary c fuel
      furtherProduct c first fuel
termination_by structural fuel => fuel

def furtherProduct (c : Context) (first : Term) : Nat → Reading Term
  | 0 => return first
  | fuel + 1 => do
      match ← operator? products with
      | some operator =>
          skip
          let next ← unary c fuel
          furtherProduct c (.binary operator first next) fuel
      | none => return first
termination_by structural fuel => fuel

def unary (c : Context) : Nat → Reading Term
  | 0 => wrong
  | fuel + 1 => do
      if ← accept "!" then return .not (← unary c fuel)
      else if ← accept "-" then return .negative (← unary c fuel)
      else if ← accept "+" then return .positive (← unary c fuel)
      else power c fuel
termination_by structural fuel => fuel

def power (c : Context) : Nat → Reading Term
  | 0 => wrong
  | fuel + 1 => do
      let base ← stepped c fuel
      if (← accept "^") || (← accept "**") then
        return .binary .power base (← exponent c fuel)
      else return base
termination_by structural fuel => fuel

def exponent (c : Context) : Nat → Reading Term
  | 0 => wrong
  | fuel + 1 => do
      if ← accept "-" then return .negative (← exponent c fuel)
      else power c fuel
termination_by structural fuel => fuel

def stepped (c : Context) : Nat → Reading Term
  | 0 => wrong
  | fuel + 1 => do
      if ← accept "++" then return .step (← primary c fuel) 1 false
      if ← accept "--" then return .step (← primary c fuel) (-1) false
      let t ← primary c fuel
      if t.isTarget then
        if ← accept "++" then return .step t 1 true
        if ← accept "--" then return .step t (-1) true
      return t
termination_by structural fuel => fuel

def primary (c : Context) : Nat → Reading Term
  | 0 => wrong
  | fuel + 1 => do
      match ← peek with
      | .number x => skip; return .number x
      | .text t => skip; return .text t
      | .pattern t => skip; return .fit (regexOf t)
      | .name name =>
          skip
          if ← accept "[" then
            let keys ← terms {} fuel
            expect "]"
            return .item name keys
          else return .name name
      | .function name =>
          skip
          expect "("
          let arguments ← if ← isSign ")" then pure [] else terms {} fuel
          expect ")"
          return .call name arguments
      | .builtin name =>
          skip
          if ← accept "(" then
            newlines
            let arguments ← if ← isSign ")" then pure [] else terms {} fuel
            expect ")"
            return .builtin name arguments
          else if name == "length" then return .builtin name []
          else wrong
      | .keyword "getline" =>
          skip
          let target ← target? c fuel
          if ← accept "<" then
            let file ← primary c fuel
            return .take target (some file) none
          else return .take target none none
      | .sign "$" =>
          skip
          if ← accept "++" then return .field (.step (← primary c fuel) 1 false)
          if ← accept "--" then return .field (.step (← primary c fuel) (-1) false)
          if ← accept "-" then return .field (.negative (← primary c fuel))
          return .field (← primary c fuel)
      | .sign "(" =>
          skip
          newlines
          let all ← terms {} fuel
          expect ")"
          match all with
          | [one] => return one
          | _ =>
              if ← isKeyword "in" then
                skip
                match ← peek with
                | .name array => skip; return .isIn all array
                | _ => wrong
              else return all.foldl (fun before t => .binary .join before t) (.text [])
      | .sign "-" => skip; return .negative (← primary c fuel)
      | .sign "+" => skip; return .positive (← primary c fuel)
      | .sign "!" => skip; return .not (← primary c fuel)
      | _ => wrong
termination_by structural fuel => fuel

def terms (c : Context) : Nat → Reading (List Term)
  | 0 => wrong
  | fuel + 1 => do
      let first ← term c fuel
      if ← accept "," then
        newlines
        return first :: (← terms c fuel)
      else return [first]
termination_by structural fuel => fuel

end

/-- How deep terms and deeds may stand in each other. -/
def depth : Nat := 100000

def anyTerm (c : Context := {}) : Reading Term := term c depth

/-- What is printed; brackets around all of it do not belong to it. -/
def printed : Reading (List Term) := do
  let before ← get
  let isEnd : Reading Bool := do
    match ← peek with
    | .newline | .finish => return true
    | .sign s => return [";", "\x7d", ">", ">>", "|"].contains s
    | _ => return false
  if ← isEnd then return []
  if ← accept "(" then
    newlines
    if !(← isSign ")") then
      let all ← terms {} depth
      if ← accept ")" then
        if ← isEnd then return all
  set before
  terms { printing := true } depth

def printTarget : Reading (Option (Direction × Term)) := do
  let towards (d : Direction) : Reading (Option (Direction × Term)) := do
    return some (d, ← joined { printing := true } depth)
  if ← accept ">" then towards .write
  else if ← accept ">>" then towards .append
  else if ← accept "|" then towards .command
  else return none

/-- A deed that stands on a line of its own, without its end. -/
def plainDeed (c : Context := {}) : Reading Deed := do
  match ← peek with
  | .keyword "print" =>
      skip
      let terms ← printed
      return .print terms (← printTarget)
  | .keyword "printf" =>
      skip
      let terms ← printed
      if terms.isEmpty then wrong
      return .printf terms (← printTarget)
  | .keyword "delete" =>
      skip
      match ← peek with
      | .name array =>
          skip
          if ← accept "[" then
            let keys ← terms {} depth
            expect "]"
            return .forget array keys
          else return .forget array []
      | _ => wrong
  | _ => return .term (← anyTerm c)

/-- A term, unless the deed ends here. -/
def optional : Reading (Option Term) := do
  match ← peek with
  | .newline | .finish | .sign ";" | .sign "\x7d" => return none
  | _ => return some (← anyTerm)

mutual

def deed : Nat → Reading Deed
  | 0 => wrong
  | fuel + 1 => do
      let finish (d : Deed) : Reading Deed := do
        endOfDeed
        return d
      match ← peek with
      | .sign "\x7b" => skip; return .block (← deeds fuel)
      | .sign ";" => skip; return .block []
      | .keyword "if" =>
          skip
          expect "("
          let condition ← anyTerm
          expect ")"
          newlines
          let yes ← deed fuel
          -- ends may stand before what is done otherwise
          let before ← get
          ends
          if ← isKeyword "else" then
            skip
            newlines
            return .choose condition yes (some (← deed fuel))
          else
            set before
            return .choose condition yes none
      | .keyword "while" =>
          skip
          expect "("
          let condition ← anyTerm
          expect ")"
          if ← accept ";" then return .loop condition (.block [])
          newlines
          return .loop condition (← deed fuel)
      | .keyword "do" =>
          skip
          newlines
          let body ← deed fuel
          ends
          if !(← isKeyword "while") then wrong
          skip
          expect "("
          let condition ← anyTerm
          expect ")"
          finish (.loopOnce body condition)
      | .keyword "for" =>
          skip
          expect "("
          match (← get).rest with
          | .name name :: .keyword "in" :: .name array :: .sign ")" :: _ =>
              skip
              skip
              skip
              skip
              newlines
              return .each name array (← deed fuel)
          | _ =>
              let start ← if ← isSign ";" then pure none else some <$> plainDeed
              expect ";"
              newlines
              let condition ← if ← isSign ";" then pure none else some <$> anyTerm
              expect ";"
              newlines
              let step ← if ← isSign ")" then pure none else some <$> plainDeed
              expect ")"
              if ← accept ";" then return .count start condition step (.block [])
              newlines
              return .count start condition step (← deed fuel)
      | .keyword "next" | .keyword "nextfile" => skip; finish .next
      | .keyword "break" => skip; finish .leave
      | .keyword "continue" => skip; finish .again
      | .keyword "exit" =>
          skip
          finish (.exit (← optional))
      | .keyword "return" =>
          skip
          finish (.return (← optional))
      | _ => finish (← plainDeed)
termination_by structural fuel => fuel

def deeds : Nat → Reading (List Deed)
  | 0 => wrong
  | fuel + 1 => do
      ends
      if ← accept "\x7d" then return []
      if (← peek) == .finish then
        throw ⟨octets "line " ++ numeral ((← get).line + 1) ++
          octets ": missing \x7d near end of file"⟩
      let first ← deed fuel
      return first :: (← deeds fuel)
termination_by structural fuel => fuel

end

def block? : Reading (Option Deed) := do
  if ← accept "\x7b" then return some (.block (← deeds depth)) else return none

/-- The names of a function's parameters. -/
def parameters : Nat → Reading (List (List Char))
  | 0 => return []
  | fuel + 1 => do
      newlines
      match ← peek with
      | .name name =>
          skip
          let _ ← accept ","
          return name :: (← parameters fuel)
      | _ => return []

/-- Rules and functions up to the end. -/
def script : Nat → Script → Reading Script
  | 0, s => return s
  | fuel + 1, s => do
      ends
      let rule (condition : Condition) : Reading Script := do
        let deeds ← block?
        let needed := match condition with
          | .begin | .finish | .always => true
          | _ => false
        if needed && deeds.isNone then wrong
        script fuel { s with rules := s.rules ++ [⟨condition, deeds⟩] }
      match ← peek with
      | .finish => return s
      | .keyword "BEGIN" => skip; newlines; rule .begin
      | .keyword "END" => skip; newlines; rule .finish
      | .keyword "function" | .keyword "func" =>
          skip
          match ← peek with
          | .name name | .function name =>
              skip
              expect "("
              let names ← parameters 1000
              expect ")"
              newlines
              match ← block? with
              | none => wrong
              | some body =>
                  script fuel { s with functions := s.functions ++ [(name, ⟨names, body⟩)] }
          | _ => wrong
      | .sign "\x7b" => rule .always
      | _ =>
          let first ← anyTerm
          if ← accept "," then
            newlines
            let last ← anyTerm
            rule (.range first last)
          else rule (.on first)

def readScript (text : List Char) : Except Fault Script := do
  let words ← tokens (text.length + 1) [] text
  let (s, _) ← (script (words.length + 1) {}).run { rest := words }
  return s

end ClusterLaunch.Shell.Rows
