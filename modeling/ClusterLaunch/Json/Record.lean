import ClusterLaunch.Json.Reader

/-!
Records: values with named fields, read from an object in any order or from an
array in the order of declaration. The fields of a record are a list indexed by
their types, so what is read so far and what is read in the end are tuples of
the right shape, and one reader serves every record.
-/

namespace ClusterLaunch.Json

/-- How one field of a record is read. -/
structure Field (α : Type) where
  name : String
  read : Tree → Except Fault α
  /-- The value of a field that an object leaves out. -/
  omitted : Option α := none
  /-- The value of a field that an array ends before. -/
  unreached : Option α := none

namespace Field

def required {α : Type} (name : String) (read : Tree → Except Fault α) : Field α :=
  { name, read }

def defaulted {α : Type} (name : String) (value : α) (read : Tree → Except Fault α) : Field α :=
  { name, read, omitted := some value, unreached := some value }

def optional {α : Type} (name : String) (read : Tree → Except Fault α) : Field (Option α) :=
  { name, read := readOptional read, omitted := some none }

end Field

/-- The fields of a record, in order of declaration. -/
inductive Fields : List Type → Type 1
  | nil : Fields []
  | cons {α : Type} {types : List Type} (field : Field α) (rest : Fields types) :
      Fields (α :: types)

def Values : List Type → Type
  | [] => Unit
  | α :: types => α × Values types

/-- For every type, a value that may not have been read yet. -/
def Slots : List Type → Type
  | [] => Unit
  | α :: types => Option α × Slots types

def Slots.empty : (types : List Type) → Slots types
  | [] => ()
  | _ :: types => (none, Slots.empty types)

namespace Fields

def names : {types : List Type} → Fields types → List String
  | _, .nil => []
  | _, .cons field rest => field.name :: rest.names

/-- Reads the value of the named field; none when there is no such field. A field
that has been read before is a fault, found before its value is looked at. -/
def store : {types : List Type} → Fields types → Slots types → String → Tree →
    Option (Except Fault (Slots types))
  | _, .nil, _, _, _ => none
  | _, .cons field rest, (slot, slots), name, tree =>
      if field.name = name then
        match slot with
        | some _ => some (.error (.mismatch (.duplicateField name)))
        | none => some ((field.read tree).map fun value => (some value, slots))
      else (rest.store slots name tree).map fun result => result.map fun slots => (slot, slots)

/-- The values of the fields once an object is read, or the first one missing. -/
def finish : {types : List Type} → Fields types → Slots types → Except Fault (Values types)
  | _, .nil, _ => .ok ()
  | _, .cons field rest, (slot, slots) =>
      match slot <|> field.omitted with
      | some value => (rest.finish slots).map fun values => (value, values)
      | none => .error (.mismatch (.missingField field.name))

/-- Reads the members of an object. Members without a field are passed over,
unless the record is `strict`. -/
def readMembers {types : List Type} (fields : Fields types) (strict : Bool)
    (slots : Slots types) : Members → Except Fault (Slots types)
  | .closed => .ok slots
  | .stopped fault => .error fault
  | .cons key value tail =>
      match key.key with
      | .error fault => .error fault
      | .ok name =>
          match fields.store slots name value with
          | some (.error fault) => .error fault
          | some (.ok slots) => fields.readMembers strict slots tail
          | none =>
              if strict then .error (.mismatch (.unknownField name fields.names))
              else match value.skip with
                | .error fault => .error fault
                | .ok _ => fields.readMembers strict slots tail

/-- Reads the fields from the items of an array, the one at `index` first; gives
the items that are left. -/
def readItems (expected : String) : {types : List Type} → Fields types → Nat → Items →
    Except Fault (Values types × Items)
  | _, .nil, _, items => .ok ((), items)
  | _, .cons field rest, index, items =>
      match items with
      | .stopped fault => .error fault
      | .closed =>
          match field.unreached with
          | none => .error (.mismatch (.wrongLength index expected))
          | some value =>
              (rest.readItems expected (index + 1) .closed).map
                fun (values, items) => ((value, values), items)
      | .cons head tail =>
          match field.read head with
          | .error fault => .error fault
          | .ok value =>
              (rest.readItems expected (index + 1) tail).map
                fun (values, items) => ((value, values), items)

end Fields

/-- A record type: its fields, how messages name it, and its values from theirs. -/
structure Record (α : Type) where
  types : List Type
  fields : Fields types
  name : String
  /-- What messages expect when an array is too short. -/
  length : String := s!"struct {name} with {types.length} elements"
  /-- Whether members without a field are refused. -/
  strict : Bool := false
  build : Values types → Except Fault α

namespace Record

/-- Reads a record from an object or from an array of all its fields. -/
def read {α : Type} (record : Record α) : Tree → Except Fault α
  | .object members => do
      let slots ← record.fields.readMembers record.strict (Slots.empty record.types) members
      record.build (← record.fields.finish slots)
  | .array items => do
      let (values, rest) ← record.fields.readItems record.length 0 items
      let value ← record.build values
      match rest with
      | .closed => .ok value
      | .stopped fault => .error fault
      | .cons .. => .error .malformed
  | tree => refuse s!"struct {record.name}" tree

end Record

end ClusterLaunch.Json
