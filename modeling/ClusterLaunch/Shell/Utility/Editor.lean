import ClusterLaunch.Shell.Utility
import ClusterLaunch.Shell.Utility.Editor.Script

/-!
The line editor: a script is carried out for every line of the inputs. Lines are read
when they are needed, so that an input need not have an end.
-/

namespace ClusterLaunch.Shell

namespace Editor

open Act Utility
open Text (Regex Place)

/-- Whether the lines of an instruction's range are being passed. -/
inductive Range
  | idle
  | upTo (line : Nat)
  /-- Up to a line that the second address fits. -/
  | openEnded
  deriving Inhabited

/-- What is printed after the line. -/
inductive Addition
  | text (text : List Char)
  | file (path : List Char)

/-- How the script is carried out. -/
structure Setup where
  script : Script
  labels : List (List Char × Nat)
  /-- Whether each input has lines and numbers of its own. -/
  separate : Bool
  /-- Whether inputs are replaced by what is printed, and what is added to the names of those that
  are kept. -/
  inPlace : Option (List Char)
  style : Style
  /-- The numbers of the channels to the files that are written. -/
  files : List (List Char × Nat)
  call : Call

structure Session where
  pattern : List Char := []
  /-- Whether the line had a line feed. -/
  ended : Bool := true
  held : List Char := []
  line : Nat := 0
  replaced : Bool := false
  place : Nat := 0
  ranges : Array Range
  additions : List Addition := []
  /-- Lines that have been read but not taken yet. -/
  waiting : List (List Char) := []
  names : List (List Char)
  /-- The input that is open, and whether it has been read to its end. -/
  input : Option (List Char) := none
  finished : Bool := false
  used : Option Regex := none
  status : Nat := 0
  /-- Whether a line feed is due before anything else is printed. -/
  owes : Bool := false
  /-- What is to replace the input. -/
  collected : List (List Char) := []
  /-- The files of which lines are read one by one, with the lines that are left. -/
  lineFiles : List (List Char × List (List Char)) := []

abbrev Editing := ReaderT Setup (StateT Session Act)

/-- Where instructions lead. -/
inductive Next
  | on
  | to (place : Nat)
  /-- The line is done, and printed if lines are. -/
  | done
  /-- The line is done and not printed. -/
  | dropped
  /-- The script begins again with what is left of the line. -/
  | again
  | quit (prints : Bool) (status : Nat)

/-- Stops with a complaint about the script. -/
def giveUp {α : Type} (message : String) : Editing α := do
  warn (← read).call (octets message)
  setStatus 1
  throw .leave

/-! Input and output. -/

def sideChannel (path : List Char) : Editing (Option Nat) := do
  if path == octets "/dev/stdout" then return some 1
  if path == octets "/dev/stderr" then return some 2
  return (← read).files.lookup path

def out (text : List Char) : Editing Unit := do
  let setup ← read
  let owes := (← get).owes
  modify fun s => { s with owes := false }
  let text := if owes then '\n' :: text else text
  if setup.inPlace.isSome then modify fun s => { s with collected := text :: s.collected }
  else Utility.print (if setup.style.zeros then text.map swapped else text)

def outLine (text : List Char) : Editing Unit := do
  let ended := (← get).ended
  out (if ended then text ++ ['\n'] else text)
  modify fun s => { s with owes := !ended }

/-- Closes the input; if it is edited in place, replaces it. -/
def closeInput : Editing Unit := do
  let s ← get
  let setup ← read
  match s.input, setup.inPlace with
  | some name, some suffix =>
      match ← Utility.find name with
      | .error _ => pure ()
      | .ok (id, entry) =>
          let text := s.collected.reverse.flatten
          let text := if setup.style.zeros then text.map swapped else text
          let now ← clock
          if !suffix.isEmpty then
            match ← Utility.spot name with
            | .ok spot =>
                let kept := if suffix.contains '*' then
                    suffix.flatMap fun c => if c == '*' then spot.name else [c]
                  else spot.name ++ suffix
                let _ ← addEntry spot.parent kept { entry with changed := now }
            | .error _ => pure ()
          setStorage ((← storage).write id now fun _ => Content.ofText text)
  | _, _ => pure ()
  if s.input.isSome && s.input != some ['-'] then closeChannel fileChannel
  modify fun s => { s with input := none, finished := false, collected := [] }

/-- Opens an input; whether that can be done. -/
def openInput (name : List Char) : Editing Bool := do
  let setup ← read
  let refuse (message : List Char) : Editing Bool := do
    warn setup.call message
    modify fun s => { s with status := if setup.inPlace.isSome then 4 else 2 }
    return false
  let opened : Option Trouble ← if name == ['-'] && setup.inPlace.isNone then pure none
    else match ← Utility.find name with
      | .ok (_, entry) =>
          if entry.isDirectory then pure (some .isDirectory)
          else match ← openPath name .read with
            | .ok index => setChannel fileChannel index; pure none
            | .error t => pure (some t)
      | .error t => pure (some t)
  match opened with
  | some .isDirectory =>
      if setup.inPlace.isSome then
        refuse (octets "couldn't edit " ++ name ++ octets ": not a regular file")
      else refuse (octets "read error on " ++ name ++ octets ": Is a directory")
  | some t =>
      let result ← refuse (octets "can't read " ++ name ++ octets ": " ++ t.text)
      modify fun s => { s with status := 2 }
      return result
  | none =>
      modify fun s =>
        let s := { s with input := some name, finished := false }
        if setup.separate then { s with line := 0 } else s
      return true

/-- Reads one more line of the open input. -/
def readOn (name : List Char) : Editing Unit := do
  let channel := if name == ['-'] then 0 else fileChannel
  let found : Except Trouble (List (List Char)) ← if (← read).style.zeros then do
      match ← Utility.readAll channel with
      | .ok text =>
          let text := text.map swapped
          let lines := unlines (linesOf text)
          let all := Text.pieces (· == '\n') lines
          let all := (all.take (all.length - 1)).map (· ++ ['\n'])
          pure (.ok (if text.getLast? == some '\n' || text.isEmpty then all
            else all.dropLast ++ (all.getLast?.map List.dropLast).toList))
      | .error t => pure (.error t)
    else do
      match ← readLine channel with
      | .ok [] => pure (.ok [])
      | .ok line => pure (.ok [line])
      | .error t => pure (.error t)
  match found with
  | .ok [] => modify fun s => { s with finished := true }
  | .ok lines => modify fun s => { s with waiting := s.waiting ++ lines }
  | .error t =>
      warn (← read).call (octets "read error on " ++ name ++ octets ": " ++ t.text)
      modify fun s => { s with finished := true, status := 2 }

/-- Whether there is another line. With `within`, only those of the open input count. -/
def isMore (within : Bool) : Nat → Editing Bool
  | 0 => return false
  | fuel + 1 => do
      let s ← get
      if !s.waiting.isEmpty then return true
      match s.input with
      | some name =>
          if !s.finished then
            readOn name
            isMore within fuel
          else if within then return false
          else
            closeInput
            isMore within fuel
      | none =>
          match s.names with
          | [] => return false
          | name :: names =>
              set { s with names }
              let _ ← openInput name
              isMore within fuel

/-- Whether the line is not the last one. -/
def isFollowed : Editing Bool := do
  isMore (← read).separate (3 * (← get).names.length + 8)

/-- Takes the next line and its number. -/
def take? : Editing (Option (List Char)) := do
  if !(← isMore false (3 * (← get).names.length + 8)) then return none
  let s ← get
  match s.waiting with
  | [] => return none
  | line :: waiting =>
      let ended := line.getLast? == some '\n'
      set { s with waiting, ended, line := s.line + 1 }
      return some (if ended then line.dropLast else line)

/-- Prints what was to be printed after the line. -/
def printAdditions : Editing Unit := do
  let all := (← get).additions.reverse
  modify fun s => { s with additions := [] }
  all.forM fun a => do
    match a with
    | .text text => out text
    | .file path =>
        match ← Utility.contents path with
        | .ok text => if !text.isEmpty then out text
        | .error _ => pure ()

/-! Addresses. -/

/-- An expression, or that which was used last. -/
def recalled (expression : Option Regex) : Editing Regex := do
  match expression with
  | some r => modify fun s => { s with used := some r }; return r
  | none =>
      match (← get).used with
      | some r => return r
      | none => giveUp "-e expression #1, char 0: no previous regular expression"

def isAt (a : Address) : Editing Bool := do
  let s ← get
  match a with
  | .line n => return s.line == n
  | .every first distance => return Nat.ble first s.line && (s.line - first) % distance == 0
  | .last => return !(← isFollowed)
  | .fit expression =>
      let r ← recalled expression
      return (Expression.find? r s.pattern).isSome
  | .later _ | .multiple _ => return false

def setRange (place : Nat) (range : Range) : Editing Unit :=
  modify fun s => { s with ranges := s.ranges.set! place range }

/-- Whether the line is one that an instruction is meant for. -/
def isSelected (place : Nat) (selection : Selection) : Editing Bool := do
  let plain : Bool ← match selection.first, selection.second with
    | none, _ => pure true
    | some a, none => isAt a
    | some a, some b =>
        let line := (← get).line
        match (← get).ranges[place]? with
        | some .openEnded =>
            if ← isAt b then setRange place .idle
            pure true
        | some (.upTo last) =>
            if Nat.ble last line then setRange place .idle
            pure (Nat.ble line last)
        | _ =>
            if !(← isAt a) then pure false
            else
              let upTo (last : Nat) : Editing Unit := do
                if Nat.blt line last then setRange place (.upTo last)
              match b with
              | .line last => upTo last
              | .later count => upTo (line + count)
              | .multiple n => if n != 0 && line % n != 0 then upTo ((line / n + 1) * n)
              | _ => setRange place .openEnded
              pure true
  return plain != selection.negated

/-! Edits. -/

/-- How letters that follow are cased: until further notice, and the next one only. -/
structure Cased where
  casing : Option Casing := none
  nextOne : Option Casing := none

def Casing.apply (casing : Option Casing) (text : List Char) : List Char :=
  match casing with
  | some .upper => text.map Char.toUpper
  | some .lower => text.map Char.toLower
  | none => text

def Cased.apply (cased : Cased) (text : List Char) : List Char × Cased :=
  match text with
  | [] => ([], cased)
  | c :: rest =>
      let first := match cased.nextOne with
        | some one => Casing.apply (some one) [c]
        | none => Casing.apply cased.casing [c]
      (first ++ Casing.apply cased.casing rest, { cased with nextOne := none })

def replacement (parts : List Part) (start stop : Place) : List Char :=
  let whole := start.upTo stop
  let (texts, _) := parts.foldl (fun ((texts, cased) : List (List Char) × Cased) part =>
    let text (t : List Char) : List (List Char) × Cased :=
      let (t, cased) := cased.apply t
      (t :: texts, cased)
    match part with
    | .text t => text t
    | .group 0 => text whole
    | .group index => text ((stop.groups.lookup index).getD [])
    | .casing casing => (texts, { casing })
    | .nextCasing one => (texts, { cased with nextOne := some one })) ([], {})
  texts.reverse.flatten

/-- Replaces matches from a place on; `before` holds the texts before it, last one first. Gives
whether anything was replaced. -/
def replaced (s : Substitution) (r : Regex) : Nat → Nat → Option Nat → Place →
    List (List Char) → Bool → List Char × Bool
  | 0, _, _, p, before, any => ((p.rest :: before).reverse.flatten, any)
  | fuel + 1, count, last, p, before, any =>
      let finish (rest : List Char) (before : List (List Char)) (any : Bool) : List Char × Bool :=
        ((rest :: before).reverse.flatten, any)
      match r.find? p with
      | none => finish p.rest before any
      | some (a, b) =>
          let before := p.upTo a :: before
          let bare : Place := { b with groups := [] }
          let isEmpty := a.index == b.index
          if isEmpty && last == some a.index then
            match a.rest with
            | [] => finish [] before any
            | c :: _ => replaced s r fuel count none (bare.skip 1) ([c] :: before) any
          else
            let chosen := s.first ≤ count + 1
            let before := (if chosen then replacement s.parts a b else a.upTo b) :: before
            let any := any || chosen
            if chosen && !s.onward then finish b.rest before any
            else if isEmpty then
              match b.rest with
              | [] => finish [] before any
              | c :: _ => replaced s r fuel (count + 1) none (bare.skip 1) ([c] :: before) any
            else replaced s r fuel (count + 1) (some b.index) bare before any

/-- How an octet is shown so that it cannot be mistaken. -/
def visibly (c : Char) : List Char :=
  let n := c.toNat
  match [('\\', '\\'), ('\x07', 'a'), ('\x08', 'b'), ('\x0c', 'f'), ('\n', 'n'), ('\r', 'r'),
    ('\t', 't'), ('\x0b', 'v')].lookup c with
  | some letter => ['\\', letter]
  | none =>
      if 32 ≤ n && n < 127 then [c]
      else
        let digits := Text.numeral 8 n
        '\\' :: List.replicate (3 - digits.length) '0' ++ digits

/-- A line shown so that it cannot be mistaken, in lines of a width. -/
def shownVisibly (width : Nat) (text : List Char) : List Char :=
  let (parts, _) := text.foldl (fun ((parts, used) : List (List Char) × Nat) c =>
    let shown := visibly c
    if 1 < width && width - 1 < used + shown.length then
      (shown :: ['\\', '\n'] :: parts, shown.length)
    else (shown :: parts, used + shown.length)) ([], 0)
  parts.reverse.flatten ++ ['$', '\n']

def withLine (text line : List Char) : List Char := text ++ '\n' :: line

/-- The part of a text up to its first line feed. -/
def firstLine (text : List Char) : List Char := text.takeWhile (· != '\n')

def writeLine (path line : List Char) : Editing Unit := do
  match ← sideChannel path with
  | some 1 =>
      if (← read).inPlace.isSome then Utility.print (line ++ ['\n'])
      else out (line ++ ['\n'])
  | some channel => emit channel (line ++ ['\n'])
  | none => pure ()

def carryOut (place : Nat) (edit : Edit) : Editing Next := do
  let setup ← read
  let s ← get
  let setPattern (pattern : List Char) : Editing Unit := modify fun s => { s with pattern }
  let jump (label : List Char) : Editing Next := do
    if label.isEmpty then return .done
    return .to ((setup.labels.lookup label).getD setup.script.instructions.size)
  /- reads another line; if there is none, the line is printed and all is done -/
  let following (act : List Char → Editing Unit) : Editing Next := do
    if ← isMore false (3 * s.names.length + 8) then
      match ← take? with
      | some line => act line; return .on
      | none => return .quit true s.status
    else return .quit true s.status
  match edit with
  | .block _ | .close | .label _ => return .on
  | .jump .always label => jump label
  | .jump .replaced label =>
      if s.replaced then
        set { s with replaced := false }
        jump label
      else return .on
  | .jump .unreplaced label =>
      if s.replaced then
        set { s with replaced := false }
        return .on
      else jump label
  | .append text => set { s with additions := .text text :: s.additions }; return .on
  | .insertFile path => set { s with additions := .file path :: s.additions }; return .on
  | .insertLine path =>
      let lines ← match s.lineFiles.lookup path with
        | some lines => pure lines
        | none => match ← Utility.contents path with
          | .ok text => pure (linesOf text)
          | .error _ => pure []
      modify fun s =>
        { s with
          lineFiles := (path, lines.drop 1) :: s.lineFiles.filter (·.1 != path)
          additions := (lines.take 1).map (fun l => .text (l ++ ['\n'])) ++ s.additions }
      return .on
  | .insert text => out text; return .on
  | .change text =>
      match s.ranges[place]? with
      | some .idle | none => out text
      | _ => pure ()
      return .dropped
  | .substitute sub =>
      let r ← recalled sub.expression
      let start : Place := { rest := s.pattern }
      let (text, any) := replaced sub r (s.pattern.length * 2 + 2) 0 none start [] false
      if any then
        modify fun s => { s with pattern := text, replaced := true }
        if sub.prints then outLine text
        match sub.file with
        | some path => writeLine path text
        | none => pure ()
      return .on
  | .replaceOctets pairs =>
      setPattern (s.pattern.map fun c => (pairs.lookup c).getD c)
      return .on
  | .delete => return .dropped
  | .deleteFirst =>
      if s.pattern.contains '\n' then
        setPattern ((s.pattern.dropWhile (· != '\n')).drop 1)
        return .again
      else return .dropped
  | .print => outLine s.pattern; return .on
  | .printFirst => out (firstLine s.pattern ++ ['\n']); return .on
  | .printNumber => out (numeral s.line ++ ['\n']); return .on
  | .printName => out (s.input.getD ['-'] ++ ['\n']); return .on
  | .printVisibly width => out (shownVisibly (width.getD 70) s.pattern); return .on
  | .next =>
      if ← isMore false (3 * s.names.length + 8) then
        if !setup.script.silent then outLine s.pattern
        printAdditions
      following fun line => setPattern line
  | .appendNext =>
      if ← isMore false (3 * s.names.length + 8) then printAdditions
      following fun line => setPattern (withLine s.pattern line)
  | .recall => setPattern s.held; return .on
  | .appendRecall => setPattern (withLine s.pattern s.held); return .on
  | .keep => set { s with held := s.pattern }; return .on
  | .appendKeep => set { s with held := withLine s.held s.pattern }; return .on
  | .exchange => set { s with held := s.pattern, pattern := s.held }; return .on
  | .clear => setPattern []; return .on
  | .quit silently status => return .quit (!silently) (if status == 0 then s.status else status)
  | .write path firstOnly =>
      writeLine path (if firstOnly then firstLine s.pattern else s.pattern)
      return .on

/-- Begins with the next line; gives the status if there is none. -/
def beginLine : Editing (Option Nat) := do
  match ← take? with
  | some pattern =>
      modify fun s => { s with pattern, place := 0, replaced := false }
      return none
  | none => return some (← get).status

def endLine (prints : Bool) : Editing Unit := do
  if prints && !(← read).script.silent then outLine (← get).pattern
  printAdditions

/-- Carries out the next instruction; gives the status when all is done. -/
def step : Editing (Option Nat) := do
  let s ← get
  match (← read).script.instructions[s.place]? with
  | none =>
      endLine true
      beginLine
  | some { selection, edit } =>
      if !(← isSelected s.place selection) then
        let place := match edit with
          | .block past => past
          | _ => s.place + 1
        modify fun s => { s with place }
        return none
      match ← carryOut s.place edit with
      | .on => modify fun s => { s with place := s.place + 1 }; return none
      | .to place => modify fun s => { s with place }; return none
      | .done =>
          endLine true
          beginLine
      | .dropped =>
          endLine false
          beginLine
      | .again =>
          endLine false
          modify fun s => { s with place := 0 }
          return none
      | .quit prints status =>
          if prints then endLine true
          return some status

def edit (setup : Setup) (names : List (List Char)) : Act Nat := do
  let ranges := setup.script.instructions.map fun i =>
    match i.selection.first with
    | some (.line 0) => Range.openEnded
    | _ => .idle
  let session : Session := { ranges, names }
  let run {α : Type} (act : Editing α) (s : Session) : Act (α × Session) := (act.run setup).run s
  let (first, session) ← run beginLine session
  let (status, session) ← match first with
    | some status => pure (status, session)
    | none =>
        iterate (fun (session : Session) => do
          tick
          match ← run step session with
          | (none, session) => return .inl session
          | (some status, session) => return .inr (status, session)) manyTimes session
  let _ ← run closeInput session
  return status

end Editor

namespace Utility

open Act Editor

/-- Where in the parts of a script a distance from its start is: the number of the part, and the
distance from its start. -/
def partAt : Nat → Nat → List (List Char) → Nat × Nat
  | index, distance, part :: rest =>
      if distance ≤ part.length || rest.isEmpty then (index, distance)
      else partAt (index + 1) (distance - part.length - 1) rest
  | index, distance, [] => (index, distance)

/-- Arguments in which the option to edit in place is a long one. -/
def editorArguments (arguments : List (List Char)) : List (List Char) :=
  arguments.map fun a =>
    match a with
    | '-' :: c :: rest =>
        let letters := c :: rest
        let before := letters.takeWhile (· != 'i')
        if c == '-' || before.length == letters.length ||
            before.any (fun d => ['e', 'f', 'l'].contains d) then a
        else
          let suffix := letters.drop (before.length + 1)
          if before.isEmpty then octets "--in-place=" ++ suffix
          else if suffix.isEmpty then '-' :: before ++ ['I'] else a
    | _ => a

def sed : Utility := fun call =>
  let call := { call with arguments := editorArguments call.arguments }
  withOptions
    { letters := "ne:f:ErsI:uzl:b"
      long := [("quiet", 'n'), ("silent", 'n'), ("expression", 'e'), ("file", 'f'),
        ("regexp-extended", 'E'), ("separate", 's'), ("in-place", 'I'), ("unbuffered", 'u'),
        ("null-data", 'z'), ("posix", 'u'), ("line-length", 'l')]
      lenient := ["in-place"] } call fun given operands => do
    let texts ← given.filterMapM fun (letter, value) => do
      match letter with
      | 'e' => return some (value, false)
      | 'f' =>
          match ← contents value with
          | .ok text =>
              return some (if text.getLast? == some '\n' then text.dropLast else text, true)
          | .error t =>
              warn call (octets "couldn't open file " ++ value ++ octets ": " ++ t.text)
              setStatus 1
              throw .leave
      | _ => return none
    let (texts, names) := match texts, operands with
      | [], text :: names => ([(text, false)], names)
      | _, names => (texts, names)
    if texts.isEmpty then
      emit 1 (octets "Usage: " ++ call.name ++
        octets " [OPTION]... \x7bscript-only-if-no-other-script\x7d [input-file]...\n")
      return 1
    let style : Style := ⟨has given 'E' || has given 'r', has given 'z'⟩
    let whole := ['\n'].intercalate (texts.map Prod.fst)
    match readScript style whole with
    | .error fault =>
        let place := match fault.left with
          | none => []
          | some left =>
              let (index, distance) := partAt 1 (whole.length - left) (texts.map Prod.fst)
              octets "-e expression #" ++ numeral index ++ octets ", char " ++ numeral distance ++
                octets ": "
        fail call (place ++ fault.message)
    | .ok script =>
        let script := { script with silent := script.silent || has given 'n' }
        let paths := (script.instructions.toList.filterMap fun i =>
          match i.edit with
          | .write path _ => some path
          | .substitute { file := some path, .. } => some path
          | _ => none).eraseDups.filter fun path =>
            !(["/dev/stdout", "/dev/stderr"] : List String).contains (String.ofList path)
        let outer ← process
        let files ← (paths.mapIdx fun i path => (path, fileChannel + 1 + i)).filterMapM
          fun (path, channel) => do
            match ← openPath path .write with
            | .ok index => setChannel channel index; return some (path, channel)
            | .error t =>
                warn call (octets "couldn't open file " ++ path ++ octets ": " ++ t.text)
                setStatus 4
                throw .leave
        let inPlace := last? given 'I'
        let setup : Setup :=
          { script, labels := script.labels, separate := has given 's' || inPlace.isSome
            inPlace, style, files, call }
        let status ← edit setup (if names.isEmpty then [['-']] else names)
        modifyProcess fun p => { p with channels := outer.channels }
        return status

end Utility

end ClusterLaunch.Shell
