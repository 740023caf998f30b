import ClusterLaunch.Shell.Utility.Places

/-!
Finding files: a tree of entries is gone through, and a condition is decided for each
of them. Conditions may print and run programs; whether they hold decides what comes
after them.
-/

namespace ClusterLaunch.Shell

namespace Finding

/-- How a number is compared with another one. -/
inductive Comparison
  | less
  | equal
  | more
  deriving DecidableEq

inductive Condition
  | holds
  | named (pattern : Pattern) (caseless whole : Bool)
  | kind (letters : List Char)
  | empty
  | size (comparison : Comparison) (units factor : Nat)
  | mode (bits : Nat) (sign : Option Char)
  | newer (than : List Char)
  | runnable
  | always (result : Bool)
  | prune
  | stop
  | print (finish : Char)
  | printFormat (format : List Char)
  | delete
  | run (words : List (List Char)) (byDirectory : Bool)
  | collect (words : List (List Char))
  | not (c : Condition)
  | both (a b : Condition)
  | either (a b : Condition)
  | list (a b : Condition)

/-- Whether a condition does something, so that nothing has to be printed besides. -/
def Condition.acts : Condition → Bool
  | .print _ | .printFormat _ | .delete | .run _ _ | .collect _ => true
  | .not c => c.acts
  | .both a b | .either a b | .list a b => a.acts || b.acts
  | _ => false

/-- What is being read, and the bounds of the depth. -/
structure Draft where
  rest : List (List Char)
  least : Nat := 0
  most : Option Nat := none
  deepFirst : Bool := false

abbrev Reading := StateT Draft (Except (List Char))

def wordPattern (text : List Char) : Pattern :=
  Pattern.ofMarked true (text.length + 1) (text.map fun c => (c, false))

def argument (name : List Char) : Reading (List Char) := do
  let d ← get
  match d.rest with
  | [] => throw (octets "missing argument to \x60" ++ name ++ ['\''])
  | a :: rest => set { d with rest }; return a

def count (name : List Char) : Reading Nat := do
  let text ← argument name
  match Text.readNumeral? 10 text with
  | some n => return n
  | none =>
      throw (octets "Expected a positive decimal integer argument to " ++ name ++
        octets ", but got " ++ Utility.quoted text)

def program (name : List Char) : Reading (List (List Char) × Bool) := do
  let d ← get
  let words := d.rest.takeWhile fun w => w != [';']
  let isJoined (i : Nat) : Bool :=
    d.rest[i]? == some ['+'] && 0 < i && d.rest[i - 1]? == some ['\x7b', '\x7d']
  match (List.range words.length).find? isJoined with
  | some i =>
      set { d with rest := d.rest.drop (i + 1) }
      return (d.rest.take (i - 1), true)
  | none =>
      if words.length == d.rest.length then
        throw (octets "missing argument to \x60" ++ name ++ ['\''])
      set { d with rest := d.rest.drop (words.length + 1) }
      return (words, false)

mutual

/-- Conditions between commas, of which the last one counts. -/
def listed : Nat → Reading Condition
  | 0 => return .holds
  | fuel + 1 => do
      let a ← alternatives fuel
      let d ← get
      match d.rest with
      | [','] :: rest => set { d with rest }; return .list a (← listed fuel)
      | _ => return a
termination_by structural fuel => fuel

def alternatives : Nat → Reading Condition
  | 0 => return .holds
  | fuel + 1 => do
      let a ← conjunction fuel
      let d ← get
      match d.rest with
      | word :: rest =>
          if word == octets "-o" || word == octets "-or" then
            set { d with rest }
            return .either a (← alternatives fuel)
          else return a
      | [] => return a
termination_by structural fuel => fuel

def conjunction : Nat → Reading Condition
  | 0 => return .holds
  | fuel + 1 => do
      let a ← condition fuel
      let d ← get
      match d.rest with
      | [] => return a
      | word :: rest =>
          let text := String.ofList word
          if text == "-o" || text == "-or" || text == ")" || text == "," then return a
          if text == "-a" || text == "-and" then set { d with rest }
          return .both a (← conjunction fuel)
termination_by structural fuel => fuel

def condition : Nat → Reading Condition
  | 0 => return .holds
  | fuel + 1 => do
      let d ← get
      match d.rest with
      | [] => throw (octets "expected an expression")
      | word :: rest =>
          set { d with rest }
          match String.ofList word with
          | "(" =>
              let c ← listed fuel
              let d ← get
              match d.rest with
              | [')'] :: rest => set { d with rest }; return c
              | _ =>
                  throw (octets ("invalid expression; I was expecting to find a ')' somewhere " ++
                    "but did not see one."))
          | "!" | "-not" => return .not (← condition fuel)
          | "-name" => return .named (wordPattern (← argument word)) false false
          | "-iname" =>
              return .named (wordPattern ((← argument word).map Char.toLower)) true false
          | "-path" | "-wholename" => return .named (wordPattern (← argument word)) false true
          | "-ipath" => return .named (wordPattern ((← argument word).map Char.toLower)) true true
          | "-type" =>
              let letters := (← argument word).filter (· != ',')
              match letters.find? fun c => !"fdlcbps".toList.contains c with
              | some c => throw (octets "Unknown argument to -type: " ++ [c])
              | none => return .kind letters
          | "-empty" => return .empty
          | "-size" =>
              let text ← argument word
              let (comparison, digits) := match text with
                | '+' :: rest => (Comparison.more, rest)
                | '-' :: rest => (.less, rest)
                | _ => (.equal, text)
              let number := digits.takeWhile Text.isDigit
              let factor? : Option Nat := match digits.drop number.length with
                | [] | ['b'] => some 512
                | ['c'] => some 1
                | ['w'] => some 2
                | ['k'] => some 1024
                | ['M'] => some 1048576
                | ['G'] => some 1073741824
                | _ => none
              match factor?, number with
              | some factor, _ :: _ =>
                  return .size comparison (Text.digitsValue number) factor
              | _, _ => throw (octets "invalid -size type \x60" ++ text ++ ['\''])
          | "-perm" =>
              let text ← argument word
              let (sign, digits) := match text with
                | '-' :: rest => (some '-', rest)
                | '/' :: rest => (some '/', rest)
                | _ => (none, text)
              match Utility.changedMode? false 0 digits with
              | some bits => return .mode bits sign
              | none => throw (octets "invalid mode " ++ Utility.quoted text)
          | "-newer" => return .newer (← argument word)
          | "-executable" => return .runnable
          | "-readable" | "-writable" | "-true" => return .always true
          | "-false" => return .always false
          | "-prune" => return .prune
          | "-quit" => return .stop
          | "-print" => return .print '\n'
          | "-print0" => return .print '\x00'
          | "-printf" => return .printFormat (← argument word)
          | "-delete" =>
              modify fun d => { d with deepFirst := true }
              return .delete
          | "-depth" =>
              modify fun d => { d with deepFirst := true }
              return .always true
          | "-maxdepth" =>
              let n ← count word
              modify fun d => { d with most := some n }
              return .always true
          | "-mindepth" =>
              let n ← count word
              modify fun d => { d with least := n }
              return .always true
          | "-exec" | "-execdir" | "-ok" =>
              let (words, joined) ← program word
              return if joined then .collect words else .run words (word == octets "-execdir")
          | "-mount" | "-xdev" | "-follow" | "-noleaf" | "-daystart" => return .always true
          | _ =>
              if word.head? == some '-' then
                throw (octets "unknown predicate \x60" ++ word ++ ['\''])
              else
                throw (octets "paths must precede expression: \x60" ++ word ++ ['\''])
termination_by structural fuel => fuel

end

def read (arguments : List (List Char)) : Except (List Char) (Condition × Draft) := do
  if arguments.isEmpty then return (.holds, { rest := [] })
  let (c, d) ← (listed (8 * arguments.length + 8)).run { rest := arguments }
  match d.rest with
  | [] => return (c, d)
  | [')'] :: _ => throw (octets "invalid expression; you have too many ')'")
  | word :: _ => throw (octets "paths must precede expression: \x60" ++ word ++ ['\''])

/-- An entry that has been come upon. -/
structure Found where
  path : List Char
  start : List Char
  depth : Nat
  id : Nat
  entry : Entry

/-- What came of the search so far. -/
structure Outcome where
  pruned : Bool := false
  stopped : Bool := false
  status : Nat := 0
  /-- Paths for programs that are run once, the last one first. -/
  collected : List (List (List Char) × List Char) := []

open Utility Act

def formatted (f : Found) : Nat → List Char → List Char
  | 0, text => text
  | _, [] => []
  | fuel + 1, '%' :: c :: rest =>
      let part := match c with
        | 'p' => f.path
        | 'f' => baseName f.path
        | 'h' => directoryName f.path
        | 'P' => (f.path.drop f.start.length).dropWhile (· == '/')
        | 'H' => f.start
        | 's' => numeral f.entry.size
        | 'd' => numeral f.depth
        | 'y' => [match kindLetter f.entry with
            | '-' => 'f'
            | letter => letter]
        | 'm' => Text.numeral 8 f.entry.mode
        | 'M' => kindLetter f.entry :: modeText f.entry.mode
        | 'u' | 'g' => octets "root"
        | 'i' => numeral f.id
        | 'l' => match f.entry.node with
            | .link target => target
            | _ => []
        | '%' => ['%']
        | _ => ['%', c]
      part ++ formatted f fuel rest
  | fuel + 1, '\\' :: c :: rest =>
      let shown := match c with
        | 'n' => '\n'
        | 't' => '\t'
        | '0' => '\x00'
        | _ => c
      shown :: formatted f fuel rest
  | fuel + 1, c :: rest => c :: formatted f fuel rest

def compares (comparison : Comparison) (a b : Nat) : Bool :=
  match comparison with
  | .less => a < b
  | .equal => a == b
  | .more => b < a

def decide (call : Call) (f : Found) : Condition → Outcome → Act (Bool × Outcome)
  | .holds, o => return (true, o)
  | .named pattern caseless whole, o =>
      let text := if whole then f.path else baseName f.path
      return (pattern.fits (if caseless then text.map Char.toLower else text), o)
  | .kind letters, o =>
      let letter := match kindLetter f.entry with
        | '-' => 'f'
        | letter => letter
      return (letters.contains letter, o)
  | .empty, o => do
      let names := (← storage).names f.id
      let e := f.entry
      return (if e.isDirectory then names.isEmpty else e.isRegular && e.size == 0, o)
  | .size comparison units factor, o =>
      return (compares comparison ((f.entry.size + factor - 1) / factor) units, o)
  | .mode bits sign, o =>
      let own := f.entry.mode &&& 0o7777
      return (match sign with
        | some '-' => own &&& bits == bits
        | some _ => bits == 0 || own &&& bits != 0
        | none => own == bits, o)
  | .newer path, o => do
      match ← find path with
      | .ok (_, other) => return (other.changed < f.entry.changed, o)
      | .error _ => return (false, o)
  | .runnable, o => return (f.entry.isRunnable, o)
  | .always result, o => return (result, o)
  | .prune, o => return (true, { o with pruned := true })
  | .stop, o => return (true, { o with stopped := true })
  | .print finish, o => do
      Utility.print (f.path ++ [finish])
      return (true, o)
  | .printFormat format, o => do
      Utility.print (formatted f (format.length + 1) format)
      return (true, o)
  | .delete, o => do
      let s ← storage
      if f.entry.isDirectory && !(s.names f.id).isEmpty then
        warn call (octets "cannot delete " ++ quoted f.path ++ octets ": " ++ Trouble.notEmpty.text)
        return (false, { o with status := 1 })
      match ← spot f.path false with
      | .ok spot =>
          setStorage (s.unname spot.parent (← clock) spot.name)
          return (true, o)
      | .error _ => return (false, { o with status := 1 })
  | .run words byDirectory, o => do
      let path := if byDirectory then '.' :: '/' :: baseName f.path else f.path
      let rec filled : List Char → List Char
        | '\x7b' :: '\x7d' :: rest => path ++ filled rest
        | c :: rest => c :: filled rest
        | [] => []
      let words := words.map filled
      match ← call.spawn words with
      | .ok ending => return (ending == .done 0, o)
      | .error t =>
          warn call (quoted (words.headD []) ++ octets ": " ++ t.text)
          return (false, o)
  | .collect words, o => return (true, { o with collected := (words, f.path) :: o.collected })
  | .not c, o => do
      let (result, o) ← decide call f c o
      return (!result, o)
  | .both a b, o => do
      let (result, o) ← decide call f a o
      if result && !o.stopped then decide call f b o else return (result, o)
  | .either a b, o => do
      let (result, o) ← decide call f a o
      if result || o.stopped then return (result, o) else decide call f b o
  | .list a b, o => do
      let (_, o) ← decide call f a o
      if o.stopped then return (true, o) else decide call f b o

/-- Goes through an entry and what is below it. -/
def walk (call : Call) (d : Draft) (c : Condition) : Nat → Found → Outcome → Act Outcome
  | 0, _, o => return o
  | fuel + 1, f, o => do
      tick
      if o.stopped then return o
      let within (depth : Nat) : Bool := (d.most.map fun most => Nat.ble depth most).getD true
      let own (o : Outcome) : Act Outcome := do
        if d.least ≤ f.depth && within f.depth then
          let (_, o) ← decide call f c { o with pruned := false }
          return o
        else return { o with pruned := false }
      let o ← if d.deepFirst then pure o else own o
      let goesOn := f.entry.isDirectory && within (f.depth + 1) && !o.stopped &&
        (d.deepFirst || !o.pruned)
      let o ← if goesOn then do
          let names := (← storage).names f.id
          names.foldlM (fun o (name, id) => do
            match (← storage).at? id with
            | some entry =>
                walk call d c fuel ⟨beside f.path name, f.start, f.depth + 1, id, entry⟩ o
            | none => return o) o
        else pure o
      if d.deepFirst && !o.stopped then own o else return o

end Finding

namespace Utility

open Act

def finder : Utility := fun call => do
  let arguments := call.arguments.dropWhile fun a =>
    ["-L", "-H", "-P"].contains (String.ofList a)
  let isPath (a : List Char) : Bool :=
    !(a.head? == some '-' && 1 < a.length) &&
      !(["(", ")", "!", ","] : List String).contains (String.ofList a)
  let starts := arguments.takeWhile isPath
  match Finding.read (arguments.drop starts.length) with
  | .error message => fail call message
  | .ok (c, d) =>
      let c := if c.acts then c else .both c (.print '\n')
      let starts := if starts.isEmpty then [['.']] else starts
      let o ← starts.foldlM (fun (o : Finding.Outcome) start => do
        match ← find start false with
        | .error t =>
            warn call (quoted start ++ octets ": " ++ t.text)
            return { o with status := 1 }
        | .ok (id, entry) => Finding.walk call d c 128 ⟨start, start, 0, id, entry⟩ o) {}
      -- programs that take all paths at once are run in the end
      let programs := (o.collected.reverse.map Prod.fst).eraseDups
      programs.foldlM (fun status words => do
        let paths := o.collected.reverse.filterMap fun (w, path) =>
          if w == words then some path else none
        match ← call.spawn (words ++ paths) with
        | .ok (.done 0) => return status
        | .ok _ => return 1
        | .error t =>
            warn call (quoted (words.headD []) ++ octets ": " ++ t.text)
            return 1) o.status

end Utility

end ClusterLaunch.Shell
