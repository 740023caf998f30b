import ClusterLaunch.Proofs.Json.Members

/-!
Layouts of a record. The same values can be laid out in several ways: the members of an
object stand in any order and others may be among them, a field that has a default may be
left out, and an array of all fields stands for the object. A record is read alike from all
of them. A field that is given twice is a fault in any of them.
-/

namespace ClusterLaunch.Json

variable {α : Type} {types : List Type}

inductive Fields.At (field : Field α) : {types : List Type} → Fields types → Nat → Prop
  | here {types : List Type} {rest : Fields types} : At field (.cons field rest) 0
  | there {β : Type} {types : List Type} {other : Field β} {rest : Fields types} {index : Nat}
      (h : At field rest index) : At field (.cons other rest) (index + 1)

/-- How a field is given by the item for it in an array: as its only value, or else by one
that reads as the value that it has when it is left out. -/
inductive Field.Arranges (field : Field α) : List Tree → Tree → Prop
  | given (tree : Tree) : Arranges field [tree] tree
  | omitted {tree : Tree} {value : α} (homitted : field.omitted = some value)
      (hread : field.read tree = .ok value) : Arranges field [] tree

namespace Fields

/-- The value reads as the one that the field with the name has when it is left out. -/
inductive Defaults (fields : Fields types) : String → Tree → Prop
  | intro {α : Type} {field : Field α} {index : Nat} {tree : Tree} {value : α}
      (hat : fields.At field index) (homitted : field.omitted = some value)
      (hread : field.read tree = .ok value) : Defaults fields field.name tree

/-- The item reads as the value that the field at the index has when an array ends before it. -/
inductive Ends (fields : Fields types) : Nat → Tree → Prop
  | intro {α : Type} {field : Field α} {index : Nat} {tree : Tree} {value : α}
      (hat : fields.At field index) (hunreached : field.unreached = some value)
      (hread : field.read tree = .ok value) : Ends fields index tree

inductive Reads (fields : Fields types) : String → Tree → Prop
  | intro {α : Type} {field : Field α} {index : Nat} {tree : Tree} {value : α}
      (hat : fields.At field index) (hread : field.read tree = .ok value) :
      Reads fields field.name tree

/-- The field with the name does not read the value, for the reason given. -/
inductive Refuses (fields : Fields types) : String → Tree → Fault → Prop
  | intro {α : Type} {field : Field α} {index : Nat} {tree : Tree} {fault : Fault}
      (hat : fields.At field index) (hread : field.read tree = .error fault) :
      Refuses fields field.name tree fault

/-- The items are the values of all fields, in their order. -/
def Arranges : {types : List Type} → Fields types → (String → List Tree) → List Tree → Prop
  | _, .nil, _, items => items = []
  | _, .cons _ _, _, [] => False
  | _, .cons field rest, values, item :: items =>
      field.Arranges (values field.name) item ∧ rest.Arranges values items

end Fields

namespace Record

/-- The same record, laid out in another way. -/
inductive Relaid (record : Record α) : Tree → Tree → Prop
  | permuted {members others : List (Tree × Tree)} (h : members.Perm others) :
      Relaid record (.object (.ofList members)) (.object (.ofList others))
  /-- With one more member that the record does not know, whatever its value. -/
  | extended {before after : List (Tree × Tree)} {key value : Tree} {name : String}
      (hkey : key.key = .ok name) (hname : name ∉ record.fields.names) (hvalue : value.IsJson) :
      Relaid record (.object (.ofList (before ++ after)))
        (.object (.ofList (before ++ (key, value) :: after)))
  /-- Without a member that gives a default. -/
  | omitted {before after : List (Tree × Tree)} {key value : Tree} {name : String}
      (hkey : key.key = .ok name) (hdefault : record.fields.Defaults name value) :
      Relaid record (.object (.ofList (before ++ (key, value) :: after)))
        (.object (.ofList (before ++ after)))
  /-- With the default of a field that is left out. -/
  | given {before after : List (Tree × Tree)} {key value : Tree} {name : String}
      (hkey : key.key = .ok name) (hdefault : record.fields.Defaults name value)
      (hleft : under name (before ++ after) = []) :
      Relaid record (.object (.ofList (before ++ after)))
        (.object (.ofList (before ++ (key, value) :: after)))
  /-- As the array of all fields. -/
  | listed {members : List (Tree × Tree)} {items : List Tree}
      (h : record.fields.Arranges (under · members) items) :
      Relaid record (.object (.ofList members)) (.array (.ofList items))
  /-- Without a default at the end of an array. -/
  | shortened {items : List Tree} {item : Tree} (h : record.fields.Ends items.length item) :
      Relaid record (.array (.ofList (items ++ [item]))) (.array (.ofList items))
  /-- With a default that an array ends before. -/
  | lengthened {items : List Tree} {item : Tree} (h : record.fields.Ends items.length item) :
      Relaid record (.array (.ofList items)) (.array (.ofList (items ++ [item])))

/-- The same record with a known member once more: behind the one that is there, whatever the
value, or before it with the same value or another that the field reads. -/
inductive Repeated (record : Record α) : Tree → Tree → String → Prop
  | behind {before after : List (Tree × Tree)} {key value : Tree} {name : String}
      (hkey : key.key = .ok name) (hname : name ∈ record.fields.names)
      (hgiven : under name before ≠ []) :
      Repeated record (.object (.ofList (before ++ after)))
        (.object (.ofList (before ++ (key, value) :: after))) name
  | ahead {before after : List (Tree × Tree)} {key value : Tree} {name : String}
      (hkey : key.key = .ok name) (hname : name ∈ record.fields.names)
      (hgiven : under name after ≠ [])
      (hvalue : value ∈ under name after ∨ record.fields.Reads name value) :
      Repeated record (.object (.ofList (before ++ after)))
        (.object (.ofList (before ++ (key, value) :: after))) name

/-- The same record with one more member before a known one of its name, whose value its field
does not read. -/
inductive Preceded (record : Record α) : Tree → Tree → Fault → Prop
  | ahead {before after : List (Tree × Tree)} {key value : Tree} {name : String} {fault : Fault}
      (hkey : key.key = .ok name) (hgiven : under name after ≠ [])
      (hvalue : record.fields.Refuses name value fault) :
      Preceded record (.object (.ofList (before ++ after)))
        (.object (.ofList (before ++ (key, value) :: after))) fault

def Doubled (record : Record α) (tree : Tree) : Prop :=
  ∃ members, tree = .object (.ofList members) ∧
    ∃ name ∈ record.fields.names, 1 < (under name members).length

end Record

/-! What is read from other values for the fields. -/

theorem under_insert {key : Tree} {name : String} (hkey : key.key = .ok name) (value : Tree)
    (before after : List (Tree × Tree)) (other : String) :
    under other (before ++ (key, value) :: after) =
      under other before ++ ((if name = other then [value] else []) ++ under other after) := by
  rw [List.append_cons, under_append, under_append, under_singleton hkey, List.append_assoc]

namespace Fields

variable {fields : Fields types} {field : Field α} {index : Nat} {name : String} {tree : Tree}
  {values others : String → List Tree} {results : Values types} {slots : Slots types}
  {items : List Tree} {item : Tree}

theorem At.name_mem (h : fields.At field index) : field.name ∈ fields.names := by
  induction h with
  | here => exact List.mem_cons_self
  | there _ ih => exact List.mem_cons_of_mem _ ih

theorem Defaults.name_mem (h : fields.Defaults name tree) : name ∈ fields.names := by
  cases h with
  | intro hat => exact hat.name_mem

theorem filled_perm (h : ∀ name, (values name).Perm (others name))
    (hfilled : fields.Filled values slots) : fields.Filled others slots := by
  induction fields with
  | nil => trivial
  | cons field rest ih =>
      obtain ⟨slot, slots⟩ := slots
      refine ⟨?_, ih hfilled.2⟩
      have hslot := hfilled.1
      have hperm := h field.name
      generalize values field.name = given at hslot hperm
      cases hslot with
      | unset => exact hperm.nil_eq ▸ .unset
      | set hread => exact (List.singleton_perm.mp hperm) ▸ .set hread

theorem give_congr (h : ∀ name ∈ fields.names, values name = others name) :
    fields.Give values results ↔ fields.Give others results := by
  induction fields with
  | nil => rfl
  | cons field rest ih =>
      obtain ⟨result, results⟩ := results
      rw [names, List.forall_mem_cons] at h
      simp only [Give, h.1, ih h.2]

theorem Reads.there {β : Type} (other : Field β) (h : fields.Reads name tree) :
    (Fields.cons other fields).Reads name tree := by
  cases h with
  | intro hat hread => exact .intro (.there hat) hread

/-- A field has one value at most, and that is one it reads. -/
theorem Give.values_eq (h : fields.Give values results) (hname : name ∈ fields.names) :
    values name = [] ∨ ∃ tree, values name = [tree] ∧ fields.Reads name tree := by
  induction fields with
  | nil => cases hname
  | cons field rest ih =>
      obtain ⟨result, results⟩ := results
      obtain ⟨hgives, hrest⟩ := h
      rcases List.mem_cons.mp hname with rfl | hname
      · generalize values field.name = given at hgives
        cases hgives with
        | read hread => exact .inr ⟨_, rfl, .intro .here hread⟩
        | omitted => exact .inl rfl
      · obtain hnone | ⟨tree, hgiven, hreads⟩ := ih hrest hname
        · exact .inl hnone
        · exact .inr ⟨tree, hgiven, hreads.there field⟩

theorem Give.reads (h : fields.Give values results) (hname : name ∈ fields.names)
    (htree : tree ∈ values name) : fields.Reads name tree := by
  obtain hnone | ⟨only, hgiven, hreads⟩ := h.values_eq hname
  · rw [hnone] at htree
    cases htree
  · rw [hgiven, List.mem_singleton] at htree
    exact htree ▸ hreads

theorem Give.length_le_one (h : fields.Give values results) (hname : name ∈ fields.names) :
    (values name).length ≤ 1 := by
  obtain hnone | ⟨tree, hgiven, -⟩ := h.values_eq hname
  · simp only [hnone, List.length_nil, Nat.zero_le]
  · simp only [hgiven, List.length_singleton, le_refl]

/-- Whether the default of a field is given or left out, the fields have the same values. -/
theorem give_iff_of_at (hnames : fields.names.Nodup) {value : α} (hat : fields.At field index)
    (homitted : field.omitted = some value) (hread : field.read tree = .ok value)
    (hvalue : values field.name = [tree]) (hleft : others field.name = [])
    (hothers : ∀ other, other ≠ field.name → values other = others other) :
    fields.Give values results ↔ fields.Give others results := by
  induction hat with
  | @here _ rest =>
      obtain ⟨result, results⟩ := results
      rw [names, List.nodup_cons] at hnames
      have hrest : rest.Give values results ↔ rest.Give others results :=
        give_congr fun other hother => hothers other (ne_of_mem_of_not_mem hother hnames.1)
      have hfield : field.Gives (values field.name) result ↔
          field.Gives (others field.name) result := by
        rw [hvalue, hleft]
        constructor
        · intro hgives
          cases hgives with
          | read hresult =>
              cases hread.symm.trans hresult
              exact .omitted homitted
        · intro hgives
          cases hgives with
          | omitted hresult =>
              cases homitted.symm.trans hresult
              exact .read hread
      exact and_congr hfield hrest
  | @there _ _ other rest _ hat ih =>
      obtain ⟨result, results⟩ := results
      rw [names, List.nodup_cons] at hnames
      have hname : other.name ≠ field.name := (ne_of_mem_of_not_mem hat.name_mem hnames.1).symm
      simp only [Give, hothers _ hname, ih hnames.2]

theorem Arranges.listed (h : fields.Arranges values items) (hgive : fields.Give values results) :
    fields.Listed items results := by
  induction fields generalizing items with
  | nil => exact h
  | cons field rest ih =>
      obtain ⟨result, results⟩ := results
      cases items with
      | nil => cases h
      | cons item items =>
          obtain ⟨hitem, hitems⟩ := h
          obtain ⟨hgives, hrest⟩ := hgive
          refine ⟨?_, ih hitems hrest⟩
          generalize values field.name = given at hitem hgives
          cases hitem with
          | given =>
              cases hgives with
              | read hread => exact hread
          | omitted homitted hread =>
              cases hgives with
              | omitted hresult =>
                  cases homitted.symm.trans hresult
                  exact hread

/-- Whether the default of the field that is next is listed or not, the fields have the same
values. -/
theorem listed_iff_of_at {value : α} (hat : fields.At field items.length)
    (hunreached : field.unreached = some value) (hread : field.read item = .ok value) :
    fields.Listed (items ++ [item]) results ↔ fields.Listed items results := by
  generalize hlength : items.length = index at hat
  induction hat generalizing items with
  | here =>
      obtain ⟨result, results⟩ := results
      obtain rfl := List.length_eq_zero_iff.mp hlength
      simp only [List.nil_append, Listed, hread, hunreached, Except.ok.injEq, Option.some.injEq]
  | there _ ih =>
      obtain ⟨result, results⟩ := results
      cases items with
      | nil => cases hlength
      | cons first items => exact and_congr_right' (ih (Nat.succ.inj hlength))

theorem listed_iff_of_ends (h : fields.Ends items.length item) :
    fields.Listed (items ++ [item]) results ↔ fields.Listed items results := by
  generalize hlength : items.length = index at h
  cases h with
  | intro hat hunreached hread => exact listed_iff_of_at (hlength ▸ hat) hunreached hread

/-- A field whose only value has been read does not take another one. -/
theorem store_of_filled (hname : name ∈ fields.names) (hgiven : values name ≠ [])
    (hfilled : fields.Filled values slots) (tree : Tree) :
    fields.store slots name tree = some (.error (.mismatch (.duplicateField name))) := by
  induction fields with
  | nil => cases hname
  | cons field rest ih =>
      obtain ⟨slot, slots⟩ := slots
      obtain ⟨hslot, hslots⟩ := hfilled
      by_cases hfield : field.name = name
      · subst hfield
        generalize values field.name = given at hslot hgiven
        cases hslot with
        | unset => exact absurd rfl hgiven
        | set hread => simp only [store, if_pos]
      · rw [names, List.mem_cons, or_iff_right (Ne.symm hfield)] at hname
        simp only [store, if_neg hfield, ih hname hslots, Option.map_some]
        rfl

/-- A field that has been read takes no value, and one that has not takes what it reads. -/
theorem At.store_eq (hat : fields.At field index) (hnames : fields.names.Nodup)
    (slots : Slots types) :
    (∀ tree, fields.store slots field.name tree =
      some (.error (.mismatch (.duplicateField field.name)))) ∨
    ∃ put : α → Slots types, ∀ tree,
      fields.store slots field.name tree = some ((field.read tree).map put) := by
  induction hat with
  | here =>
      obtain ⟨slot, slots⟩ := slots
      cases slot with
      | some value => exact .inl fun tree => by simp only [store, if_pos]
      | none =>
          exact .inr ⟨fun value => (some value, slots), fun tree => by simp only [store, if_pos]⟩
  | @there _ _ other rest _ hat ih =>
      obtain ⟨slot, slots⟩ := slots
      rw [names, List.nodup_cons] at hnames
      have hname : other.name ≠ field.name := (ne_of_mem_of_not_mem hat.name_mem hnames.1).symm
      rcases ih hnames.2 slots with htaken | ⟨put, hput⟩
      · refine .inl fun tree => ?_
        simp only [store, if_neg hname, htaken, Option.map_some]
        rfl
      · refine .inr ⟨fun value => (slot, put value), fun tree => ?_⟩
        simp only [store, if_neg hname, hput, Option.map_some]
        cases field.read tree <;> rfl

/-- A field that takes one value has not been read. -/
theorem At.exists_put (hat : fields.At field index) (hnames : fields.names.Nodup)
    {stored : Slots types} {other : Tree}
    (hstore : fields.store slots field.name other = some (.ok stored)) :
    ∃ put : α → Slots types, ∀ tree,
      fields.store slots field.name tree = some ((field.read tree).map put) := by
  rcases hat.store_eq hnames slots with htaken | hput
  · rw [htaken] at hstore
    cases hstore
  · exact hput

/-- A field that takes one value takes any other that it reads. -/
theorem Reads.exists_store (h : fields.Reads name tree) (hnames : fields.names.Nodup)
    {stored : Slots types} {other : Tree}
    (hstore : fields.store slots name other = some (.ok stored)) :
    ∃ stored, fields.store slots name tree = some (.ok stored) := by
  cases h with
  | intro hat hread =>
      obtain ⟨put, hput⟩ := hat.exists_put hnames hstore
      rw [hput, hread]
      exact ⟨_, rfl⟩

/-- A field that takes one value refuses all that it does not read. -/
theorem Refuses.store_eq {fault : Fault} (h : fields.Refuses name tree fault)
    (hnames : fields.names.Nodup) {stored : Slots types} {other : Tree}
    (hstore : fields.store slots name other = some (.ok stored)) :
    fields.store slots name tree = some (.error fault) := by
  cases h with
  | intro hat hread =>
      obtain ⟨put, hput⟩ := hat.exists_put hnames hstore
      rw [hput, hread]
      rfl

theorem Refuses.name_mem {fault : Fault} (h : fields.Refuses name tree fault) :
    name ∈ fields.names := by
  cases h with
  | intro hat => exact hat.name_mem

variable {members before after : List (Tree × Tree)} {key value : Tree}

theorem exists_of_under_ne_nil (h : under name members ≠ []) :
    ∃ front key value rest, members = front ++ (key, value) :: rest ∧ key.key = .ok name := by
  have hfilter : members.filter (fun member => member.1.key.toOption = some name) ≠ [] :=
    fun hnil => h (by rw [under, hnil, List.map_nil])
  obtain ⟨member, hmember⟩ := List.exists_mem_of_ne_nil _ hfilter
  obtain ⟨hmem, hname⟩ := List.mem_filter.mp hmember
  obtain ⟨front, rest, rfl⟩ := List.append_of_mem hmem
  refine ⟨front, member.1, member.2, rest, rfl, ?_⟩
  cases hkey : member.1.key with
  | error fault => simp [hkey, Except.toOption] at hname
  | ok other => simpa [hkey, Except.toOption] using hname

theorem passes_insert_iff {member : Tree × Tree} :
    fields.Passes (before ++ member :: after) ↔
      (∃ name, member.1.key = .ok name ∧ (name ∈ fields.names ∨ member.2.IsJson)) ∧
        fields.Passes (before ++ after) := by
  simp only [Passes, List.forall_mem_append, List.forall_mem_cons]
  exact and_left_comm

/-- A member without a field adds nothing to what the fields are given. -/
theorem give_insert_unknown (hkey : key.key = .ok name) (hname : name ∉ fields.names) :
    fields.Give (under · (before ++ (key, value) :: after)) results ↔
      fields.Give (under · (before ++ after)) results := by
  refine give_congr fun other hother => ?_
  rw [under_insert hkey, if_neg (ne_of_mem_of_not_mem hother hname).symm, List.nil_append,
    under_append]

/-- A field with a member has no other one. -/
theorem Give.under_eq_nil (h : fields.Give (under · (before ++ (key, value) :: after)) results)
    (hkey : key.key = .ok name) (hname : name ∈ fields.names) :
    under name (before ++ after) = [] := by
  have hlength := h.length_le_one hname
  rw [under_insert hkey, if_pos rfl] at hlength
  simp only [List.length_append, List.length_singleton] at hlength
  rw [← List.length_eq_zero_iff, under_append, List.length_append]
  omega

/-- A member with a default adds nothing to what the fields are given, if there is no other. -/
theorem give_insert_default (hnames : fields.names.Nodup) (hkey : key.key = .ok name)
    (hdefault : fields.Defaults name value) (hleft : under name (before ++ after) = []) :
    fields.Give (under · (before ++ (key, value) :: after)) results ↔
      fields.Give (under · (before ++ after)) results := by
  have hone : under name before = [] ∧ under name after = [] := by
    rwa [under_append, List.append_eq_nil_iff] at hleft
  cases hdefault with
  | intro hat homitted hread =>
      refine give_iff_of_at hnames hat homitted hread ?_ hleft fun other hother => ?_
      · rw [under_insert hkey, if_pos rfl, hone.1, hone.2]
        rfl
      · rw [under_insert hkey, if_neg hother.symm, List.nil_append, under_append]

theorem readMembers_perm (hnames : fields.names.Nodup) {others : List (Tree × Tree)}
    (hperm : members.Perm others)
    (hread : fields.readMembers false (Slots.empty types) (.ofList members) = .ok slots) :
    fields.readMembers false (Slots.empty types) (.ofList others) = .ok slots := by
  obtain ⟨hpasses, hfilled⟩ := (readMembers_eq_ok_iff hnames).mp hread
  refine (readMembers_eq_ok_iff hnames).mpr ⟨?_, filled_perm (under_perm hperm) hfilled⟩
  exact fun member hmember => hpasses member (hperm.mem_iff.mpr hmember)

/-- Where a known member stands that is read, its field has not been read before. -/
theorem exists_store_of_readMembers {other held : Tree} {rest : List (Tree × Tree)}
    (hother : other.key = .ok name) (hname : name ∈ fields.names)
    (hread : fields.readMembers false (Slots.empty types)
      (.ofList (before ++ (other, held) :: rest)) = .ok slots) :
    ∃ room, fields.readMembers false (Slots.empty types) (.ofList before) = .ok room ∧
      ∃ stored, fields.store room name held = some (.ok stored) := by
  rw [List.append_cons, readMembers_append, readMembers_append] at hread
  obtain ⟨stored, hstored, -⟩ := bind_eq_ok_iff.mp hread
  obtain ⟨room, hroom, hheld⟩ := bind_eq_ok_iff.mp hstored
  obtain ⟨_, hsame, hstore⟩ := readMember_eq_ok_iff.mp hheld
  cases hother.symm.trans hsame
  exact ⟨room, hroom, stored, hstore.resolve_right fun h => h.1 hname⟩

/-- The members up to one that stands alone can be read with another of its name among them,
if that is read. -/
theorem readMembers_ahead (hnames : fields.names.Nodup) (hkey : key.key = .ok name)
    (hreads : fields.Reads name value) {mid rest : List (Tree × Tree)} {other held : Tree}
    (hother : other.key = .ok name) (hname : name ∈ fields.names)
    (hread : fields.readMembers false (Slots.empty types)
      (.ofList (before ++ (mid ++ (other, held) :: rest))) = .ok slots) :
    ∃ stored, fields.readMembers false (Slots.empty types)
      (.ofList (before ++ (key, value) :: mid)) = .ok stored := by
  rw [← List.append_assoc] at hread
  obtain ⟨room, hroom, _, hheld⟩ := exists_store_of_readMembers hother hname hread
  obtain ⟨stored, hstored⟩ := hreads.exists_store hnames hheld
  have hperm : (before ++ mid ++ [(key, value)]).Perm (before ++ (key, value) :: mid) :=
    (List.perm_append_singleton _ _).trans List.perm_middle.symm
  refine ⟨stored, readMembers_perm hnames hperm ?_⟩
  rw [readMembers_append, hroom]
  exact readMember_eq_ok_iff.mpr ⟨name, hkey, .inl hstored⟩

end Fields

namespace Record

variable {record : Record α} {tree other : Tree} {result : α} {name : String}

/-- A record is read alike, however it is laid out. -/
theorem Relaid.read_eq (h : record.Relaid tree other) (hopen : record.IsOpen)
    (hread : record.read tree = .ok result) : record.read other = .ok result := by
  cases h with
  | permuted hperm =>
      simp only [read, hopen.lenient, bind_eq_ok_iff] at hread ⊢
      obtain ⟨slots, hmembers, hrest⟩ := hread
      exact ⟨slots, Fields.readMembers_perm hopen.distinct hperm hmembers, hrest⟩
  | extended hkey hname hvalue =>
      obtain ⟨hpasses, results, hgive, hbuild⟩ := (read_object_eq_ok_iff hopen).mp hread
      exact (read_object_eq_ok_iff hopen).mpr
        ⟨Fields.passes_insert_iff.mpr ⟨⟨_, hkey, .inr hvalue⟩, hpasses⟩, results,
          (Fields.give_insert_unknown hkey hname).mpr hgive, hbuild⟩
  | omitted hkey hdefault =>
      obtain ⟨hpasses, results, hgive, hbuild⟩ := (read_object_eq_ok_iff hopen).mp hread
      have hleft := hgive.under_eq_nil hkey hdefault.name_mem
      exact (read_object_eq_ok_iff hopen).mpr
        ⟨(Fields.passes_insert_iff.mp hpasses).2, results,
          (Fields.give_insert_default hopen.distinct hkey hdefault hleft).mp hgive, hbuild⟩
  | given hkey hdefault hleft =>
      obtain ⟨hpasses, results, hgive, hbuild⟩ := (read_object_eq_ok_iff hopen).mp hread
      exact (read_object_eq_ok_iff hopen).mpr
        ⟨Fields.passes_insert_iff.mpr ⟨⟨_, hkey, .inl hdefault.name_mem⟩, hpasses⟩, results,
          (Fields.give_insert_default hopen.distinct hkey hdefault hleft).mpr hgive, hbuild⟩
  | listed harranges =>
      obtain ⟨-, results, hgive, hbuild⟩ := (read_object_eq_ok_iff hopen).mp hread
      exact read_array_eq_ok_iff.mpr ⟨results, harranges.listed hgive, hbuild⟩
  | shortened hends =>
      obtain ⟨results, hlisted, hbuild⟩ := read_array_eq_ok_iff.mp hread
      exact read_array_eq_ok_iff.mpr ⟨results, (Fields.listed_iff_of_ends hends).mp hlisted, hbuild⟩
  | lengthened hends =>
      obtain ⟨results, hlisted, hbuild⟩ := read_array_eq_ok_iff.mp hread
      exact read_array_eq_ok_iff.mpr
        ⟨results, (Fields.listed_iff_of_ends hends).mpr hlisted, hbuild⟩

/-- A record with a member given twice is not read at all. -/
theorem Doubled.read_ne_ok (h : record.Doubled tree) (hopen : record.IsOpen) (result : α) :
    record.read tree ≠ .ok result := by
  obtain ⟨members, rfl, name, hname, htwice⟩ := h
  intro hread
  obtain ⟨-, results, hgive, -⟩ := (read_object_eq_ok_iff hopen).mp hread
  exact absurd (hgive.length_le_one hname) (Nat.not_le_of_lt htwice)

/-- A member that is known and has been read before is a fault, whatever its value is and
whatever comes behind it. -/
theorem read_duplicate (hopen : record.IsOpen) {front rest : List (Tree × Tree)} {key value : Tree}
    {slots : Slots record.types}
    (hfront : record.fields.readMembers false (Slots.empty _) (.ofList front) = .ok slots)
    (hkey : key.key = .ok name) (hname : name ∈ record.fields.names)
    (hgiven : under name front ≠ []) :
    record.read (.object (.ofList (front ++ (key, value) :: rest))) =
      .error (.mismatch (.duplicateField name)) := by
  have hfilled := ((Fields.readMembers_eq_ok_iff hopen.distinct).mp hfront).2
  have hstore := Fields.store_of_filled hname hgiven hfilled value
  have hmember : record.fields.readMembers false slots (.ofList ((key, value) :: rest)) =
      .error (.mismatch (.duplicateField name)) := by
    simp only [Members.ofList, Fields.readMembers, hkey, hstore]
  simp only [read, hopen.lenient, Fields.readMembers_append, hfront]
  exact congrArg (· >>= _) hmember

theorem Repeated.read_eq (h : record.Repeated tree other name) (hopen : record.IsOpen)
    (hread : record.read tree = .ok result) :
    record.read other = .error (.mismatch (.duplicateField name)) := by
  cases h with
  | behind hkey hname hgiven =>
      simp only [read, hopen.lenient, bind_eq_ok_iff, Fields.readMembers_append] at hread
      obtain ⟨_, ⟨slots, hbefore, -⟩, -⟩ := hread
      exact read_duplicate hopen hbefore hkey hname hgiven
  | ahead hkey hname hgiven hvalue =>
      obtain ⟨-, results, hgive, -⟩ := (read_object_eq_ok_iff hopen).mp hread
      have hreads : record.fields.Reads name _ := hvalue.elim (fun hmem => hgive.reads hname (by
        rw [under_append]
        exact List.mem_append_right _ hmem)) id
      obtain ⟨mid, other, held, rest, rfl, hother⟩ := Fields.exists_of_under_ne_nil hgiven
      simp only [read, hopen.lenient, bind_eq_ok_iff] at hread
      obtain ⟨_, hmembers, -⟩ := hread
      obtain ⟨stored, hstored⟩ :=
        Fields.readMembers_ahead hopen.distinct hkey hreads hother hname hmembers
      rw [← List.cons_append, ← List.append_assoc]
      refine read_duplicate hopen hstored hother hname ?_
      rw [under_insert hkey, if_pos rfl]
      simp

theorem Preceded.read_eq {fault : Fault} (h : record.Preceded tree other fault)
    (hopen : record.IsOpen) (hread : record.read tree = .ok result) :
    record.read other = .error fault := by
  cases h with
  | @ahead before after key value name _ hkey hgiven hvalue =>
      obtain ⟨mid, other, held, rest, rfl, hother⟩ := Fields.exists_of_under_ne_nil hgiven
      simp only [read, hopen.lenient, bind_eq_ok_iff] at hread
      obtain ⟨_, hmembers, -⟩ := hread
      have hfirst := Fields.readMembers_perm hopen.distinct (List.perm_middle.append_left before)
        hmembers
      obtain ⟨room, hroom, _, hheld⟩ :=
        Fields.exists_store_of_readMembers hother hvalue.name_mem hfirst
      have hmember : record.fields.readMembers false room
          (.ofList ((key, value) :: (mid ++ (other, held) :: rest))) = .error fault := by
        simp only [Members.ofList, Fields.readMembers, hkey,
          hvalue.store_eq hopen.distinct hheld]
      simp only [read, hopen.lenient, Fields.readMembers_append, hroom]
      exact congrArg (· >>= _) hmember

end Record

end ClusterLaunch.Json
