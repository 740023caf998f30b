import ClusterLaunch.Shell.Trouble
import Std.Data.HashMap

/-!
The files of a machine. Every entry has a number; directories give names to
entries, and an entry goes on without a name for as long as a channel leads to it.
Paths are followed name by name from a directory, and through links.
-/

namespace ClusterLaunch.Shell

/-- The content of a file, as the pieces that were written one after the other. -/
structure Content where
  pieces : Array (List Char) := #[]
  size : Nat := 0

namespace Content

def ofText (text : List Char) : Content :=
  if text.isEmpty then {} else ⟨#[text], text.length⟩

def text (c : Content) : List Char :=
  match c.pieces.toList with
  | [one] => one
  | pieces => pieces.flatten

def append (c : Content) (text : List Char) : Content :=
  if text.isEmpty then c else ⟨c.pieces.push text, c.size + text.length⟩

/-- Writes over what is at a distance from the start; a gap is filled with zeros. -/
def put (c : Content) (offset : Nat) (text : List Char) : Content :=
  if text.isEmpty then c
  else if offset == c.size then c.append text
  else
    let old := c.text
    ofText (old.take offset ++ List.replicate (offset - c.size) '\x00' ++ text ++
      old.drop (offset + text.length))

end Content

/-- Files that are not kept anywhere. -/
inductive Device
  /-- Takes in everything and holds nothing. -/
  | void
  | zeros
  /-- Has no room left. -/
  | full
  | chance
  deriving DecidableEq, Repr

inductive Node
  | directory (parent : Nat) (names : List (List Char × Nat))
  | file (content : Content)
  | link (target : List Char)
  | device (kind : Device)
  /-- A program that is installed, known by its name. -/
  | program (name : String)
  /-- The channel of a number of whoever looks at it. -/
  | own (number : Nat)

structure Entry where
  node : Node
  /-- Who may do what: nine bits. -/
  mode : Nat := 0o644
  /-- When it was changed, in milliseconds since the first command. -/
  changed : Int := 0
  /-- How often it was changed. -/
  version : Nat := 0

namespace Entry

def isDirectory (e : Entry) : Bool :=
  match e.node with
  | .directory _ _ => true
  | _ => false

def isRegular (e : Entry) : Bool :=
  match e.node with
  | .file _ | .program _ => true
  | _ => false

def isRunnable (e : Entry) : Bool :=
  e.mode &&& 0o111 != 0

def size (e : Entry) : Nat :=
  match e.node with
  | .file content => content.size
  | .link target => target.length
  | .directory _ _ => 4096
  | .program _ => 65536
  | _ => 0

end Entry

structure Storage where
  entries : Std.HashMap Nat Entry
  next : Nat

/-- Where a path leads: a name in a directory, and the entry of that name if there is one. -/
structure Spot where
  parent : Nat
  name : List Char
  entry : Option Nat

namespace Storage

def root : Nat := 0

def empty : Storage :=
  ⟨.ofList [(root, { node := .directory root [], mode := 0o755 })], 1⟩

def at? (s : Storage) (id : Nat) : Option Entry :=
  s.entries[id]?

def names (s : Storage) (id : Nat) : List (List Char × Nat) :=
  match (s.at? id).map Entry.node with
  | some (.directory _ names) => names
  | _ => []

def isDirectory (s : Storage) (id : Nat) : Bool :=
  ((s.at? id).map Entry.isDirectory).getD false

def parentOf (s : Storage) (id : Nat) : Nat :=
  match (s.at? id).map Entry.node with
  | some (.directory parent _) => parent
  | _ => root

def modify (s : Storage) (id : Nat) (f : Entry → Entry) : Storage :=
  { s with entries := s.entries.modify id f }

def setNames (s : Storage) (id now : Nat) (names : List (List Char × Nat)) : Storage :=
  s.modify id fun e => match e.node with
    | .directory parent _ => { e with node := .directory parent names, changed := now }
    | _ => e

def name (s : Storage) (parent now : Nat) (name : List Char) (id : Nat) : Storage :=
  s.setNames parent now ((s.names parent).filter (fun (n, _) => n != name) ++ [(name, id)])

def unname (s : Storage) (parent now : Nat) (name : List Char) : Storage :=
  s.setNames parent now ((s.names parent).filter fun (n, _) => n != name)

def add (s : Storage) (parent now : Nat) (name : List Char) (e : Entry) : Storage × Nat :=
  let id := s.next
  let s : Storage := ⟨s.entries.insert id { e with changed := now }, id + 1⟩
  (s.name parent now name id, id)

def write (s : Storage) (id now : Nat) (f : Content → Content) : Storage :=
  s.modify id fun e => match e.node with
    | .file content =>
        { e with node := .file (f content), changed := now, version := e.version + 1 }
    | _ => e

def nameLimit : Nat := 255

def pathLimit : Nat := 4095

/-- How many links may be on a way. -/
def linkLimit : Nat := 40

/-- The names of a path, without those that stay where they are. -/
def parts (path : List Char) : List (List Char) :=
  (Text.pieces (· == '/') path).filter fun part => !part.isEmpty && part != ['.']

/-- Follows names from a directory; `links` more links may be met. The last name is followed
through a link if `through` says so. -/
def walk (s : Storage) (through : Bool) : Nat → Nat → Nat → List (List Char) → Except Trouble Spot
  | 0, _, _, _ => .error .looped
  | fuel + 1, links, place, parts =>
      if !s.isDirectory place then .error .notDirectory
      else match parts with
        | [] => .ok ⟨s.parentOf place, ['.'], some place⟩
        | ['.', '.'] :: rest => walk s through fuel links (s.parentOf place) rest
        | part :: rest =>
            if nameLimit < part.length then .error .tooLong
            else match (s.names place).lookup part with
              | none => if rest.isEmpty then .ok ⟨place, part, none⟩ else .error .missing
              | some id =>
                  match (s.at? id).map Entry.node with
                  | some (.link target) =>
                      if rest.isEmpty && !through then .ok ⟨place, part, some id⟩
                      else match links with
                        | 0 => .error .looped
                        | links + 1 =>
                            let start := if target.head? == some '/' then root else place
                            walk s through fuel links start (Storage.parts target ++ rest)
                  | _ =>
                      if rest.isEmpty then .ok ⟨place, part, some id⟩
                      else walk s through fuel links id rest

/-- Where a path leads from a directory. A slash at its end asks for a directory. -/
def spot (s : Storage) (through : Bool) (place : Nat) (path : List Char) : Except Trouble Spot := do
  if path.isEmpty then throw .missing
  if pathLimit < path.length then throw .tooLong
  let start := if path.head? == some '/' then root else place
  let names := parts path
  let mustLead := path.getLast? == some '/' || endsWith path ['/', '.']
  let found ← s.walk (through || mustLead) (names.length + 64 * linkLimit + 1) linkLimit start names
  match found.entry with
  | some id => if mustLead && !s.isDirectory id then throw .notDirectory
  | none => pure ()
  return found

def find (s : Storage) (place : Nat) (path : List Char) (through : Bool := true) :
    Except Trouble Nat := do
  match (← s.spot through place path).entry with
  | some id => return id
  | none => throw .missing

def find? (s : Storage) (place : Nat) (path : List Char) (through : Bool := true) :
    Option Entry :=
  match s.find place path through with
  | .ok id => s.at? id
  | .error _ => none

def way (s : Storage) (id : Nat) : List (List Char) :=
  go (s.next + 1) id []
where
  go : Nat → Nat → List (List Char) → List (List Char)
    | 0, _, found => found
    | fuel + 1, id, found =>
        if id == root then found
        else
          let parent := s.parentOf id
          match (s.names parent).find? fun (_, child) => child == id with
          | some (name, _) => go fuel parent (name :: found)
          | none => found

def pathOf (s : Storage) (id : Nat) : List Char :=
  match s.way id with
  | [] => ['/']
  | names => names.flatMap ('/' :: ·)

/-- Makes a directory in another one, unless it is there. -/
def ensure (s : Storage) (parent : Nat) (name : List Char) : Storage × Nat :=
  match (s.names parent).lookup name with
  | some id => (s, id)
  | none => s.add parent 0 name { node := .directory parent [], mode := 0o755 }

def ensureWay (s : Storage) (names : List (List Char)) : Storage × Nat :=
  names.foldl (fun (s, parent) name => s.ensure parent name) (s, root)

def place (s : Storage) (path : List Char) (e : Entry) : Storage :=
  match (parts path).reverse with
  | [] => s
  | name :: way =>
      let (s, parent) := s.ensureWay way.reverse
      (s.add parent 0 name e).1

end Storage

end ClusterLaunch.Shell
