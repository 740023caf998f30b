import ClusterLaunch.Json.Tree

/-!
Readers of single values. A reader takes the tree of a value and gives either a
value of its type or the first fault on the way; a container of the wrong type
is refused at its bracket, a scalar only once it is complete.
-/

namespace ClusterLaunch.Json

def Tree.found : Tree → Except Fault Found
  | .null => .ok .null
  | .bool b => .ok (.bool b)
  | .number n => n.value.map Number.found
  | .text content _ => content.map Found.text
  | .array _ => .ok .sequence
  | .object _ => .ok .map
  | .absent => .error .ended
  | .broken read _ => .error read

def refuse {α : Type} (expected : String) (tree : Tree) : Except Fault α :=
  match tree.found with
  | .ok found => .error (.mismatch (.wrongType found expected))
  | .error fault => .error fault

def readText : Tree → Except Fault String
  | .text content _ => content
  | tree => refuse "a string" tree

/-- Reads a natural number below a bound; `expected` names the type. -/
def readNatural (bound : Nat) (expected : String) : Tree → Except Fault Nat
  | .number literal =>
      match literal.value with
      | .error fault => .error fault
      | .ok (.natural n) =>
          if n < bound then .ok n
          else .error (.mismatch (.wrongValue (.integer n) expected))
      | .ok (.negative n) => .error (.mismatch (.wrongValue (.integer n) expected))
      | .ok (.float x) => .error (.mismatch (.wrongType (Number.float x).found expected))
  | tree => refuse expected tree

def readWord32 (tree : Tree) : Except Fault UInt32 :=
  (readNatural UInt32.size "u32" tree).map UInt32.ofNat

def readWord64 (tree : Tree) : Except Fault UInt64 :=
  (readNatural UInt64.size "u64" tree).map UInt64.ofNat

def readOptional {α : Type} (read : Tree → Except Fault α) : Tree → Except Fault (Option α)
  | .null => .ok none
  | tree => (read tree).map some

/-- Reads every item up to the closing bracket. -/
def Items.readAll {α : Type} (read : Tree → Except Fault α) : Items → Except Fault (List α)
  | .closed => .ok []
  | .stopped fault => .error fault
  | .cons head tail =>
      match read head with
      | .error fault => .error fault
      | .ok value => (tail.readAll read).map (value :: ·)

def readList {α : Type} (read : Tree → Except Fault α) : Tree → Except Fault (List α)
  | .array items => items.readAll read
  | tree => refuse "a sequence" tree

def named? {α : Type} (names : List (String × α)) (name : String) : Except Fault α :=
  match names.lookup name with
  | some value => .ok value
  | none => .error (.mismatch (.unknownVariant name (names.map Prod.fst)))

def Tree.key : Tree → Except Fault String
  | .text content _ => content
  | .absent => .error .ended
  | _ => .error .malformed

/-- Reads one of some named values: its name, or an object whose only member has
that name and the value `null`. -/
def readVariant {α : Type} (names : List (String × α)) : Tree → Except Fault α
  | .text content _ => content.bind (named? names)
  | .absent => .error .ended
  | .object (.cons key value tail) => do
      let variant ← named? names (← key.key)
      match value with
      | .null =>
          match tail with
          | .closed => .ok variant
          | .stopped fault => .error fault
          | .cons .. => .error .malformed
      | other => refuse "unit" other
  | .object .closed => .error .malformed
  | .object (.stopped fault) => .error fault
  | _ => .error .malformed

/-- Reads a whole text: one value, and only gaps after it. -/
def readDocument {α : Type} (read : Tree → Except Fault α) (text : String) : Except Fault α :=
  let (tree, rest) := Tree.ofText text
  match read tree with
  | .error fault => .error fault
  | .ok value => if rest.isEmpty then .ok value else .error .malformed

mutual

/-- Reads a value of any type whose containers nest less than `room` deep. -/
def Tree.wellFormed (room : Nat) : Tree → Except Fault Unit
  | .null => .ok ()
  | .bool _ => .ok ()
  | .number n => n.value.map fun _ => ()
  | .text content _ => content.map fun _ => ()
  | .array items => if room ≤ 1 then .error .malformed else items.wellFormed (room - 1)
  | .object members => if room ≤ 1 then .error .malformed else members.wellFormed (room - 1)
  | .absent => .error .ended
  | .broken read _ => .error read

def Items.wellFormed (room : Nat) : Items → Except Fault Unit
  | .closed => .ok ()
  | .stopped fault => .error fault
  | .cons head tail =>
      match head.wellFormed room with
      | .ok _ => tail.wellFormed room
      | .error fault => .error fault

def Members.wellFormed (room : Nat) : Members → Except Fault Unit
  | .closed => .ok ()
  | .stopped fault => .error fault
  | .cons key value tail =>
      match key, value.wellFormed room with
      | .text (.ok _) _, .ok _ => tail.wellFormed room
      | .text (.ok _) _, .error fault => .error fault
      | .text (.error fault) _, _ => .error fault
      | .absent, _ => .error .ended
      | _, _ => .error .malformed

end

end ClusterLaunch.Json
