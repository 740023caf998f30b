import ClusterLaunch.Shell.Machine

/-!
Channels of a process: opening files, reading and writing. What is read from a stream
was written at some time, and reading it takes at least until then; the end of a
stream shows when its last writer is done.
-/

namespace ClusterLaunch.Shell.Act

def opened? (number : Nat) : Act (Option (Nat × Opened)) := do
  let s ← get
  match s.process.channels.lookup number with
  | none => return none
  | some index => return (s.machine.opened[index]?).map fun o => (index, o)

def modifyOpened (index : Nat) (f : Opened → Opened) : Act Unit :=
  modifyMachine fun m => { m with opened := m.opened.modify index f }

def modifyStream (index : Nat) (f : Stream → Stream) : Act Unit :=
  modifyMachine fun m => { m with streams := m.streams.modify index f }

/-- Lets the channel of a number lead to something that is open. -/
def setChannel (number index : Nat) : Act Unit :=
  modifyProcess fun p =>
    { p with channels := (number, index) :: p.channels.filter (·.1 != number) }

def closeChannel (number : Nat) : Act Unit :=
  modifyProcess fun p => { p with channels := p.channels.filter (·.1 != number) }

def openGoal (o : Opened) : Act Nat := do
  let (m, index) := (← machine).openGoal o
  modifyMachine fun _ => m
  return index

def addEntry (parent : Nat) (name : List Char) (e : Entry) : Act Nat := do
  let (storage, id) := (← storage).add parent (← clock) name e
  setStorage storage
  return id

def openPath (path : List Char) (direction : Direction) : Act (Except Trouble Nat) := do
  let p ← process
  let s ← storage
  let reads := direction == .read || direction == .update
  let writes := direction != .read
  match s.spot true p.place path with
  | .error t => return .error t
  | .ok spot =>
      match spot.entry with
      | none =>
          if !writes then return .error .missing
          let mode := 0o666 &&& (0o777 ^^^ p.mask)
          let id ← addEntry spot.parent spot.name { node := .file {}, mode }
          return .ok (← openGoal ⟨.entry id, reads, writes, direction == .append, 0, none⟩)
      | some id =>
          match (s.at? id).map Entry.node with
          | some (.own number) =>
              match ← opened? number with
              | some (index, _) => return .ok index
              | none => return .error .missing
          | some (.directory _ _) =>
              if writes then return .error .isDirectory
              else return .ok (← openGoal ⟨.entry id, true, false, false, 0, none⟩)
          | some (.file _) =>
              if direction == .write || direction == .overwrite then
                setStorage (s.write id (← clock) fun _ => {})
              return .ok (← openGoal ⟨.entry id, reads, writes, direction == .append, 0, none⟩)
          | _ => return .ok (← openGoal ⟨.entry id, reads, writes, direction == .append, 0, none⟩)

def chanceOctets : Nat → Nat → List Char
  | 0, _ => []
  | count + 1, seed =>
      let seed := (seed * 6364136223846793005 + 1442695040888963407) % UInt64.size
      Char.ofNat (seed / 4294967296 % 256) :: chanceOctets count seed

def fileRest (id index : Nat) (o : Opened) : Act (List Char) := do
  match (← storage).at? id with
  | some { node := .file content, version, .. } =>
      match o.view with
      | some (seen, text) => if seen == version then return text
      | none => pure ()
      let text := content.text.drop o.offset
      modifyOpened index fun o => { o with view := some (version, text) }
      return text
  | _ => return []

/-- Goes on in a file to what follows some octets. -/
def advance (index count : Nat) (rest : List Char) : Act Unit :=
  modifyOpened index fun o =>
    { o with offset := o.offset + count, view := o.view.map fun (version, _) => (version, rest) }

/-- Takes the next chunk of a stream; nothing at its end. -/
def nextChunk (index : Nat) : Act (List Char) := do
  let m ← machine
  match m.streams[index]? with
  | none => return []
  | some s =>
      if !s.rest.isEmpty then
        modifyStream index fun s => { s with rest := [] }
        return s.rest
      match s.chunks[s.taken]? with
      | some chunk =>
          waitUntil chunk.time
          modifyStream index fun s => { s with taken := s.taken + 1 }
          return chunk.text
      | none =>
          if s.cut then throw (.starved index)
          waitUntil s.ended
          return []

/-- Puts back what was taken of a stream but is not needed. -/
def returnChunk (index : Nat) (rest : List Char) : Act Unit :=
  modifyStream index fun s => { s with rest := if s.rest.isEmpty then rest else rest ++ s.rest }

/-- Reads some octets from the channel of a number, `most` at most; nothing at the end. -/
def readSome (number most : Nat) : Act (Except Trouble (List Char)) := do
  tick
  match ← opened? number with
  | none => return .error .noChannel
  | some (index, o) =>
      if !o.reads then return .error .noChannel
      match o.goal with
      | .stream stream =>
          let text ← nextChunk stream
          returnChunk stream (text.drop most)
          return .ok (text.take most)
      | .entry id =>
          match ((← storage).at? id).map Entry.node with
          | some (.directory _ _) => return .error .isDirectory
          | some (.device .zeros) | some (.device .full) =>
              return .ok (List.replicate (min most 4096) '\x00')
          | some (.device .chance) =>
              let seed := (← machine).chance + 1
              modifyMachine fun m => { m with chance := seed }
              return .ok (chanceOctets (min most 4096) seed)
          | some (.file _) =>
              let text ← fileRest id index o
              let found := text.take most
              advance index found.length (text.drop most)
              return .ok found
          | _ => return .ok []

/-- How much is read at once if all is read. -/
def portion : Nat := 65536

/-- Reads a line with its line feed; the last one may have none, and nothing is at the end. -/
def readLine (number : Nat) : Act (Except Trouble (List Char)) := do
  match ← opened? number with
  | none => return .error .noChannel
  | some (index, o) =>
      if !o.reads then return .error .noChannel
      match o.goal with
      | .stream stream =>
          iterate (fun (before : List (List Char)) => do
            tick
            let text ← nextChunk stream
            let line := text.takeWhile (· != '\n')
            match text.drop line.length with
            | '\n' :: rest =>
                returnChunk stream rest
                return .inr (.ok ((line ++ ['\n']) :: before).reverse.flatten)
            | _ =>
                if text.isEmpty then return .inr (.ok before.reverse.flatten)
                else return .inl (line :: before)) manyTimes []
      | .entry id =>
          match ((← storage).at? id).map Entry.node with
          | some (.directory _ _) => return .error .isDirectory
          | some (.device .zeros) | some (.device .full) => throw .endless
          | some (.file _) =>
              tick
              let text ← fileRest id index o
              let line := text.takeWhile (· != '\n')
              let rest := text.drop line.length
              let found := if rest.isEmpty then line else line ++ ['\n']
              advance index found.length (rest.drop 1)
              return .ok found
          | _ => return .ok []

/-- Passes over what a program has read ahead: all of a stream that was there by now. -/
def readAhead (number : Nat) : Act Unit := do
  match ← opened? number with
  | some (_, { goal := .stream stream, .. }) =>
      let now ← clock
      modifyStream stream fun s =>
        let waiting := (s.chunks.toList.drop s.taken).takeWhile fun c => Nat.ble c.time now
        { s with rest := [], taken := s.taken + waiting.length }
  | _ => pure ()

def write (number : Nat) (text : List Char) : Act (Except Trouble Unit) := do
  match ← opened? number with
  | none => return .error .noChannel
  | some (index, o) =>
      if !o.writes then return .error .noChannel
      if text.isEmpty then return .ok ()
      match o.goal with
      | .stream stream =>
          let s ← get
          let chunk : Chunk := ⟨s.machine.clock, s.process.id, text⟩
          let size := text.length
          modifyStream stream fun t =>
            { t with chunks := t.chunks.push chunk, written := t.written + size }
          match (← machine).streams[stream]? with
          | some { quota := some quota, written, .. } =>
              if quota < written then throw (.full stream)
          | _ => pure ()
          return .ok ()
      | .entry id =>
          match (← storage).at? id with
          | some { node := .file content, .. } =>
              let now ← clock
              let size := text.length
              if o.appends then
                modifyMachine fun m =>
                  { m with storage := m.storage.write id now (·.append text) }
                modifyOpened index fun o => { o with offset := content.size + size }
              else
                modifyMachine fun m =>
                  { m with storage := m.storage.write id now (·.put o.offset text) }
                modifyOpened index fun o => { o with offset := o.offset + size }
              return .ok ()
          | some { node := .device .full, .. } => return .error .full
          | _ => return .ok ()

def emit (number : Nat) (text : List Char) : Act Unit := do
  let _ ← write number text

/-- Says on the error channel what is wrong, and where in the script. -/
def complain (message : List Char) : Act Unit := do
  let p ← process
  let place := match p.dialect with
    | .plain => octets s!": {p.line}: "
    | .wide => octets s!": line {p.line}: "
  let builtin := match p.command with
    | some name => name ++ octets ": "
    | none => []
  emit 2 (p.name ++ place ++ builtin ++ message ++ ['\n'])

/-- Says what is wrong and gives up: the script ends unless a builtin is run. -/
def fail {α : Type} (message : List Char) (status : Nat := 2) : Act α := do
  complain message
  setStatus status
  throw .mistake

end ClusterLaunch.Shell.Act
