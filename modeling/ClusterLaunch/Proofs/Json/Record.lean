import ClusterLaunch.Json.Record
import ClusterLaunch.Proofs.Fallible
import ClusterLaunch.Proofs.Json.Tree

/-!
Readers on what was written. A reader recovers the values of a type when it gives back
each of them from the tree of its text; readers of containers do so if those of the
contents do. A record recovers its values when its members are written under the names
of its fields, in their order.
-/

namespace ClusterLaunch.Json

variable {α : Type} {read : Tree → Except Fault α} {write : α → Json}

/-- The reader gives back every value that is written. -/
def Recovers (read : Tree → Except Fault α) (write : α → Json) : Prop :=
  ∀ value, read (write value).tree = .ok value

theorem recovers_text : Recovers readText .text := by
  intro s
  rw [tree]
  rfl

/-- The value of the literal of a number that fits a word. -/
theorem value_ofNat {n : Nat} (hn : n < Numeral.wordBound) :
    (Numeral.ofNat n).value = .ok (.natural n) := by
  simp [Numeral.value, Numeral.value?, Numeral.isPlain, Numeral.ofNat, Text.digitsValue_numeral, hn]

theorem readNatural_number {bound n : Nat} (hbound : bound ≤ UInt64.size) (hn : n < bound)
    (expected : String) : readNatural bound expected (number n).tree = .ok n := by
  simp only [tree, readNatural, value_ofNat (hn.trans_le hbound), if_pos hn]

theorem recovers_word32 : Recovers readWord32 fun n => .number n.toNat := by
  intro n
  rw [readWord32, readNatural_number (by decide) n.toNat_lt_size, Except.map, UInt32.ofNat_toNat]

theorem recovers_word64 : Recovers readWord64 fun n => .number n.toNat := by
  intro n
  rw [readWord64, readNatural_number le_rfl n.toNat_lt_size, Except.map, UInt64.ofNat_toNat]

theorem tree_ne_null {json : Json} (h : json ≠ .null) : json.tree ≠ .null := by
  cases json <;> simp_all [tree]

/-- A value that is not written as `null` can be left unset. -/
theorem Recovers.ofOption (hread : Recovers read write) (hnull : ∀ value, write value ≠ .null) :
    Recovers (readOptional read) (ofOption write) := by
  intro value
  cases value with
  | none => rw [Json.ofOption, tree, readOptional]
  | some value =>
      rw [Json.ofOption, readOptional, hread, Except.map]
      exact tree_ne_null (hnull value)

theorem Recovers.array (hread : Recovers read write) :
    Recovers (readList read) fun values => .array (values.map write) := by
  intro values
  rw [tree, readList]
  induction values with
  | nil => rw [List.map_nil, itemTrees, Items.readAll]
  | cons value values ih =>
      rw [List.map_cons, itemTrees, Items.readAll, hread value]
      simp only [ih, Except.map]

theorem recovers_texts : Recovers (readList readText) texts :=
  recovers_text.array

/-- A name in a table stands for its first value there. -/
theorem readVariant_text {names : List (String × α)} {name : String} {value : α}
    (h : names.lookup name = some value) : readVariant names (text name).tree = .ok value := by
  simp only [tree, readVariant, Except.bind, named?, h]

/-! Records. -/

def Slots.filled : {types : List Type} → Values types → Slots types
  | [], _ => ()
  | _ :: _, (value, values) => (some value, Slots.filled values)

namespace Fields

inductive Written : {types : List Type} → Fields types → Values types → List (String × Json) → Prop
  | nil : Written .nil () []
  | cons {α : Type} {types : List Type} {field : Field α} {rest : Fields types} {value : α}
      {values : Values types} {json : Json} {members : List (String × Json)}
      (hread : field.read json.tree = .ok value) (hrest : Written rest values members) :
      Written (.cons field rest) (value, values) ((field.name, json) :: members)

variable {types : List Type} {fields rest : Fields types} {values : Values types}
  {members : List (String × Json)} {field : Field α}

theorem Written.names_eq (h : fields.Written values members) :
    members.map Prod.fst = fields.names := by
  induction h with
  | nil => rfl
  | cons _ _ ih => rw [List.map_cons, ih, names]

/-- Members of other names leave a field as it is. -/
theorem readMembers_cons {strict : Bool} {slot : Option α} {slots after : Slots types}
    (hname : field.name ∉ members.map Prod.fst)
    (h : rest.readMembers strict slots (memberTrees members) = .ok after) :
    (Fields.cons field rest).readMembers strict (slot, slots) (memberTrees members) =
      .ok (slot, after) := by
  induction members generalizing slots with
  | nil =>
      simp only [memberTrees, readMembers] at h ⊢
      cases h
      rfl
  | cons member members ih =>
      obtain ⟨key, value⟩ := member
      rw [List.map_cons, List.mem_cons, not_or] at hname
      simp only [memberTrees, readMembers, Tree.key, store, if_neg hname.1] at h ⊢
      cases hstore : rest.store slots key value.tree with
      | none =>
          simp only [hstore] at h
          cases strict with
          | true => cases h
          | false =>
              cases hskip : value.tree.skip with
              | error fault => simp [hskip] at h
              | ok _ => simpa [hskip] using ih hname.2 (by simpa [hskip] using h)
      | some result =>
          cases result with
          | error fault => simp [hstore] at h
          | ok stored => exact ih hname.2 (by simpa only [hstore] using h)

/-- The induction reads the first member into the first field, after which that field is
filled and the other members, which have other names, leave it so. -/
theorem Written.readMembers_eq (h : fields.Written values members) (hnames : fields.names.Nodup)
    (strict : Bool) :
    fields.readMembers strict (Slots.empty types) (memberTrees members) =
      .ok (Slots.filled values) := by
  induction h with
  | nil => rfl
  | @cons _ _ field rest value values json members hread hrest ih =>
      rw [names, List.nodup_cons, ← hrest.names_eq] at hnames
      have hfirst : (Fields.cons field rest).store (none, Slots.empty _) field.name json.tree =
          some (.ok (some value, Slots.empty _)) := by
        simp only [store, if_pos, hread, Except.map]
      simp only [memberTrees, readMembers, Tree.key, Slots.empty, hfirst]
      exact readMembers_cons hnames.1 (ih (hrest.names_eq ▸ hnames.2))

theorem finish_filled (fields : Fields types) (values : Values types) :
    fields.finish (Slots.filled values) = .ok values := by
  induction fields with
  | nil => rfl
  | cons field rest ih =>
      obtain ⟨value, values⟩ := values
      simp only [Slots.filled, finish, ih]
      rfl

end Fields

/-- A record is read from the members that its fields are written as. -/
theorem Record.read_written (record : Record α) {values : Values record.types}
    {members : List (String × Json)} {value : α} (hnames : record.fields.names.Nodup)
    (hwritten : record.fields.Written values members) (hbuild : record.build values = .ok value) :
    record.read (object members).tree = .ok value := by
  have hread := hwritten.readMembers_eq hnames record.strict
  rw [tree, Record.read, hread]
  exact (congrArg (·.bind record.build) (record.fields.finish_filled values)).trans hbuild

end ClusterLaunch.Json
