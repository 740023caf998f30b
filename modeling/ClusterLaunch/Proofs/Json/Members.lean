import ClusterLaunch.Proofs.Json.Closed

/-!
What is read from an object, whatever the order of its members. A field takes the members
with its name: there is one, whose value it reads, or there is none, and then the field may
have a value of its own. All other members only have to be JSON. From an array the fields
are read in their order.
-/

namespace ClusterLaunch.Json

variable {α : Type} {types : List Type}

/-! Members in a row, and what they hold under a name. -/

/-- The items of an array, one after the other. -/
def Items.ofList : List Tree → Items
  | [] => .closed
  | head :: tail => .cons head (ofList tail)

/-- The members of an object, one after the other. -/
def Members.ofList : List (Tree × Tree) → Members
  | [] => .closed
  | (key, value) :: tail => .cons key value (ofList tail)

def keyed (members : List (String × Json)) : List (Tree × Tree) :=
  members.map fun (name, json) => (.text (.ok name) (.ok ()), json.tree)

theorem tree_number (n : Nat) : (number n).tree = .number (.ofNat n) := by
  rw [tree]

theorem tree_array (items : List Json) :
    (array items).tree = .array (.ofList (items.map tree)) := by
  rw [tree]
  congr 1
  induction items with
  | nil => rfl
  | cons head tail ih => rw [itemTrees, ih, List.map_cons, Items.ofList]

theorem tree_object (members : List (String × Json)) :
    (object members).tree = .object (.ofList (keyed members)) := by
  rw [tree]
  congr 1
  induction members with
  | nil => rfl
  | cons member tail ih =>
      rw [memberTrees, ih]
      rfl

def under (name : String) (members : List (Tree × Tree)) : List Tree :=
  (members.filter fun member => member.1.key.toOption = some name).map Prod.snd

variable {name : String} {key value : Tree} {members before after : List (Tree × Tree)}

theorem under_append (name : String) (before after : List (Tree × Tree)) :
    under name (before ++ after) = under name before ++ under name after := by
  simp only [under, List.filter_append, List.map_append]

theorem under_singleton (hkey : key.key = .ok name) (other : String) :
    under other [(key, value)] = if name = other then [value] else [] := by
  by_cases hname : name = other <;> simp [under, hkey, Except.toOption, hname]

theorem under_perm (h : before.Perm after) (name : String) :
    (under name before).Perm (under name after) :=
  (h.filter _).map _

/-- What has been read of a field when its values are the given ones. -/
inductive Field.Filled (field : Field α) : List Tree → Option α → Prop
  | unset : Filled field [] none
  | set {tree : Tree} {value : α} (hread : field.read tree = .ok value) :
      Filled field [tree] (some value)

theorem Field.filled_none_iff {field : Field α} {given : List Tree} :
    field.Filled given none ↔ given = [] :=
  ⟨fun h => by cases h; rfl, fun h => h ▸ .unset⟩

/-- A field that has been given a value has read it, and it was the first one. -/
theorem Field.filled_append_iff {field : Field α} {given : List Tree} {tree : Tree}
    {slot : Option α} :
    field.Filled (given ++ [tree]) slot ↔
      given = [] ∧ ∃ value, field.read tree = .ok value ∧ slot = some value := by
  constructor
  · intro h
    generalize hvalues : given ++ [tree] = values at h
    cases h with
    | unset => exact absurd hvalues (List.append_ne_nil_of_right_ne_nil _ (List.cons_ne_nil _ _))
    | set hread =>
        obtain ⟨rfl, ⟨⟩⟩ | ⟨-, ⟨⟩⟩ := List.append_eq_singleton_iff.mp hvalues
        exact ⟨rfl, _, hread, rfl⟩
  · rintro ⟨rfl, value, hread, rfl⟩
    exact .set hread

namespace Fields

/-- Every member can be taken or passed over: its name can be read, and its value is JSON
unless there is a field with that name. -/
def Passes (fields : Fields types) (members : List (Tree × Tree)) : Prop :=
  ∀ member ∈ members, ∃ name, member.1.key = .ok name ∧
    (name ∈ fields.names ∨ member.2.IsJson)

def Filled : {types : List Type} → Fields types → (String → List Tree) → Slots types → Prop
  | _, .nil, _, _ => True
  | _, .cons field rest, values, (slot, slots) =>
      field.Filled (values field.name) slot ∧ rest.Filled values slots

variable {fields rest : Fields types} {field : Field α} {strict : Bool}
  {slots stored : Slots types} {values others : String → List Tree}

theorem readMembers_append (fields : Fields types) (strict : Bool) (slots : Slots types)
    (before after : List (Tree × Tree)) :
    fields.readMembers strict slots (.ofList (before ++ after)) =
      fields.readMembers strict slots (.ofList before) >>= fun slots =>
        fields.readMembers strict slots (.ofList after) := by
  induction before generalizing slots with
  | nil => rfl
  | cons member before ih =>
      obtain ⟨key, value⟩ := member
      simp only [List.cons_append, Members.ofList, readMembers]
      cases key.key with
      | error fault => rfl
      | ok name =>
          dsimp only
          cases fields.store slots name value with
          | some result =>
              cases result with
              | error fault => rfl
              | ok stored => exact ih stored
          | none =>
              cases strict with
              | true => rfl
              | false =>
                  cases value.skip with
                  | error fault => rfl
                  | ok _ => exact ih slots

theorem store_eq_none_iff (fields : Fields types) (slots : Slots types) (name : String)
    (tree : Tree) : fields.store slots name tree = none ↔ name ∉ fields.names := by
  induction fields with
  | nil => simp [store, names]
  | cons field rest ih =>
      obtain ⟨slot, slots⟩ := slots
      by_cases hname : field.name = name
      · cases slot <;> simp [store, names, hname]
      · simp [store, names, hname, ih, Ne.symm hname]

theorem filled_congr (h : ∀ name ∈ fields.names, values name = others name) :
    fields.Filled values slots ↔ fields.Filled others slots := by
  induction fields with
  | nil => rfl
  | cons field rest ih =>
      obtain ⟨slot, slots⟩ := slots
      rw [names, List.forall_mem_cons] at h
      simp only [Filled, h.1, ih h.2]

theorem filled_nil_iff (h : ∀ name, values name = []) :
    fields.Filled values slots ↔ slots = Slots.empty types := by
  induction fields with
  | nil => exact ⟨fun _ => rfl, fun _ => trivial⟩
  | cons field rest ih =>
      obtain ⟨slot, slots⟩ := slots
      simp only [Filled, h, ih]
      constructor
      · rintro ⟨⟨⟩, rfl⟩
        rfl
      · intro hslots
        cases hslots
        exact ⟨.unset, rfl⟩

/-- One more value is read into a field if it is the first one there. -/
theorem store_filled_iff (hnames : fields.names.Nodup) (hname : name ∈ fields.names)
    (hvalue : others name = values name ++ [value])
    (hothers : ∀ other, other ≠ name → others other = values other) :
    (∃ slots, fields.Filled values slots ∧ fields.store slots name value = some (.ok stored)) ↔
      fields.Filled others stored := by
  induction fields with
  | nil => cases hname
  | cons field rest ih =>
      rw [names, List.nodup_cons] at hnames
      obtain ⟨slot, stored⟩ := stored
      by_cases hfield : field.name = name
      · subst hfield
        have hrest : ∀ slots, rest.Filled others slots ↔ rest.Filled values slots := by
          intro slots
          refine filled_congr fun other hother => hothers other ?_
          rintro rfl
          exact hnames.1 hother
        simp only [Filled, hrest, hvalue]
        constructor
        · rintro ⟨⟨before, slots⟩, ⟨hbefore, hslots⟩, hstore⟩
          rw [store_cons_eq_ok_iff, if_pos rfl] at hstore
          obtain ⟨rfl, rfl, x, hread, rfl⟩ := hstore
          have hgiven := Field.filled_none_iff.mp hbefore
          exact ⟨Field.filled_append_iff.mpr ⟨hgiven, x, hread, rfl⟩, hslots⟩
        · rintro ⟨hslot, hstored⟩
          obtain ⟨hgiven, x, hread, rfl⟩ := Field.filled_append_iff.mp hslot
          refine ⟨(none, stored), ⟨Field.filled_none_iff.mpr hgiven, hstored⟩, ?_⟩
          rw [store_cons_eq_ok_iff, if_pos rfl]
          exact ⟨rfl, rfl, x, hread, rfl⟩
      · have hother : others field.name = values field.name := hothers field.name hfield
        rw [names, List.mem_cons, or_iff_right (Ne.symm hfield)] at hname
        simp only [Filled, hother, ← ih hnames.2 hname]
        constructor
        · rintro ⟨⟨before, slots⟩, ⟨hbefore, hslots⟩, hstore⟩
          rw [store_cons_eq_ok_iff, if_neg hfield] at hstore
          obtain ⟨rfl, hstore⟩ := hstore
          exact ⟨hbefore, slots, hslots, hstore⟩
        · rintro ⟨hslot, slots, hslots, hstore⟩
          refine ⟨(slot, slots), ⟨hslot, hslots⟩, ?_⟩
          rw [store_cons_eq_ok_iff, if_neg hfield]
          exact ⟨rfl, hstore⟩

/-- A single member is taken by the field with its name, or passed over. -/
theorem readMember_eq_ok_iff :
    fields.readMembers false slots (.ofList [(key, value)]) = .ok stored ↔
      ∃ name, key.key = .ok name ∧ (fields.store slots name value = some (.ok stored) ∨
        name ∉ fields.names ∧ value.IsJson ∧ slots = stored) := by
  rw [← Tree.skip_eq_ok_iff]
  simp only [Members.ofList, readMembers]
  cases key.key with
  | error fault => simp
  | ok name =>
      simp only [Except.ok.injEq, exists_eq_left', ← store_eq_none_iff fields slots name value]
      cases fields.store slots name value with
      | some result => cases result <;> simp
      | none => cases value.skip <;> simp

/-- A known member is read behind others if none of these has its name. -/
theorem filled_known_iff (hnames : fields.names.Nodup) (hkey : key.key = .ok name)
    (hname : name ∈ fields.names) :
    fields.Filled (under · (members ++ [(key, value)])) stored ↔
      ∃ slots, fields.Filled (under · members) slots ∧
        fields.store slots name value = some (.ok stored) := by
  refine (store_filled_iff hnames hname ?_ fun other hother => ?_).symm
  · rw [under_append, under_singleton hkey, if_pos rfl]
  · rw [under_append, under_singleton hkey, if_neg hother.symm, List.append_nil]

/-- What has been read of the fields is the same behind a member that is not known. -/
theorem filled_unknown_iff (hkey : key.key = .ok name) (hname : name ∉ fields.names) :
    fields.Filled (under · (members ++ [(key, value)])) slots ↔
      fields.Filled (under · members) slots := by
  refine filled_congr fun other hother => ?_
  rw [under_append, under_singleton hkey, if_neg (ne_of_mem_of_not_mem hother hname).symm,
    List.append_nil]

/-- What is read from the members of an object: each of them can be taken or passed over,
and each field has read the only value that it is given, if there is any. -/
theorem readMembers_eq_ok_iff (hnames : fields.names.Nodup) :
    fields.readMembers false (Slots.empty types) (.ofList members) = .ok slots ↔
      fields.Passes members ∧ fields.Filled (under · members) slots := by
  induction members using List.reverseRecOn generalizing slots with
  | nil =>
      have hfilled : fields.Filled (under · []) slots ↔ slots = Slots.empty types :=
        filled_nil_iff fun _ => rfl
      rw [hfilled]
      exact ⟨fun h => ⟨nofun, (Except.ok.inj h).symm⟩, fun h => congrArg Except.ok h.2.symm⟩
  | append_singleton members member ih =>
      obtain ⟨key, value⟩ := member
      have hpasses : fields.Passes (members ++ [(key, value)]) ↔ fields.Passes members ∧
          ∃ name, key.key = .ok name ∧ (name ∈ fields.names ∨ value.IsJson) := by
        simp only [Passes, List.forall_mem_append, List.forall_mem_singleton]
      rw [readMembers_append, bind_eq_ok_iff, hpasses]
      simp only [ih, readMember_eq_ok_iff]
      constructor
      · rintro ⟨before, ⟨hpass, hfilled⟩, name, hkey, hstore | ⟨hname, hjson, rfl⟩⟩
        · have hname : name ∈ fields.names := by
            by_contra hnone
            rw [(store_eq_none_iff fields before name value).mpr hnone] at hstore
            cases hstore
          exact ⟨⟨hpass, name, hkey, .inl hname⟩,
            (filled_known_iff hnames hkey hname).mpr ⟨before, hfilled, hstore⟩⟩
        · exact ⟨⟨hpass, name, hkey, .inr hjson⟩, (filled_unknown_iff hkey hname).mpr hfilled⟩
      · rintro ⟨⟨hpass, name, hkey, htaken⟩, hfilled⟩
        by_cases hname : name ∈ fields.names
        · obtain ⟨before, hbefore, hstore⟩ := (filled_known_iff hnames hkey hname).mp hfilled
          exact ⟨before, ⟨hpass, hbefore⟩, name, hkey, .inl hstore⟩
        · have hbefore := (filled_unknown_iff hkey hname).mp hfilled
          exact ⟨slots, ⟨hpass, hbefore⟩, name, hkey,
            .inr ⟨hname, htaken.resolve_left hname, rfl⟩⟩

end Fields

/-- The value that a field has in the end when its values are the given ones. -/
inductive Field.Gives (field : Field α) : List Tree → α → Prop
  | read {tree : Tree} {value : α} (hread : field.read tree = .ok value) : Gives field [tree] value
  | omitted {value : α} (hvalue : field.omitted = some value) : Gives field [] value

/-- A field has the value that it has read, or else the one that it has when it is left out. -/
theorem Field.gives_iff {field : Field α} {given : List Tree} {result : α} :
    field.Gives given result ↔
      ∃ slot, field.Filled given slot ∧ (slot <|> field.omitted) = some result := by
  constructor
  · intro h
    cases h with
    | read hread => exact ⟨_, .set hread, rfl⟩
    | omitted hvalue => exact ⟨none, .unset, hvalue⟩
  · rintro ⟨slot, hslot, hresult⟩
    cases hslot with
    | unset => exact .omitted hresult
    | set hread =>
        cases hresult
        exact .read hread

namespace Fields

def Give : {types : List Type} → Fields types → (String → List Tree) → Values types → Prop
  | _, .nil, _, _ => True
  | _, .cons field rest, values, (result, results) =>
      field.Gives (values field.name) result ∧ rest.Give values results

/-- The values of the fields that are listed, one item each. Those that the list ends before
have values of their own. -/
def Listed : {types : List Type} → Fields types → List Tree → Values types → Prop
  | _, .nil, items, _ => items = []
  | _, .cons field rest, [], (result, results) =>
      field.unreached = some result ∧ rest.Listed [] results
  | _, .cons field rest, item :: items, (result, results) =>
      field.read item = .ok result ∧ rest.Listed items results

variable {fields rest : Fields types} {field : Field α} {values others : String → List Tree}
  {results : Values types} {items : List Tree}

theorem finish_cons_eq_ok_iff {slot : Option α} {slots : Slots types} {result : α} :
    (Fields.cons field rest).finish (slot, slots) = .ok (result, results) ↔
      (slot <|> field.omitted) = some result ∧ rest.finish slots = .ok results := by
  rw [finish]
  cases (slot <|> field.omitted) with
  | none => simp
  | some value =>
      rw [Option.some.injEq]
      refine map_eq_ok_iff.trans ⟨?_, ?_⟩
      · rintro ⟨values, hrest, heq⟩
        cases heq
        exact ⟨rfl, hrest⟩
      · rintro ⟨rfl, hrest⟩
        exact ⟨_, hrest, rfl⟩

/-- The fields have their values in the end from what has been read of them. -/
theorem finish_eq_ok_iff :
    (∃ slots, fields.Filled values slots ∧ fields.finish slots = .ok results) ↔
      fields.Give values results := by
  induction fields with
  | nil => exact ⟨fun _ => trivial, fun _ => ⟨(), trivial, rfl⟩⟩
  | cons field rest ih =>
      obtain ⟨result, results⟩ := results
      rw [Give, ← ih, Field.gives_iff]
      constructor
      · rintro ⟨⟨slot, slots⟩, ⟨hslot, hslots⟩, hfinish⟩
        obtain ⟨hresult, hrest⟩ := finish_cons_eq_ok_iff.mp hfinish
        exact ⟨⟨slot, hslot, hresult⟩, slots, hslots, hrest⟩
      · rintro ⟨⟨slot, hslot, hresult⟩, slots, hslots, hrest⟩
        exact ⟨(slot, slots), ⟨hslot, hslots⟩, finish_cons_eq_ok_iff.mpr ⟨hresult, hrest⟩⟩

theorem map_cons_eq_ok_iff {read : Except Fault (Values types × Items)} {value result : α}
    {rest : Items} :
    (read.map fun (values, items) => (((value, values) : Values (α :: types)), items)) =
        .ok ((result, results), rest) ↔ value = result ∧ read = .ok (results, rest) := by
  rw [map_eq_ok_iff]
  constructor
  · rintro ⟨⟨values, items⟩, hread, heq⟩
    cases heq
    exact ⟨rfl, hread⟩
  · rintro ⟨rfl, hread⟩
    exact ⟨_, hread, rfl⟩

theorem readItems_eq_ok_iff {expected : String} {index : Nat} :
    fields.readItems expected index (.ofList items) = .ok (results, .closed) ↔
      fields.Listed items results := by
  induction fields generalizing index items with
  | nil =>
      cases items with
      | nil => exact ⟨fun _ => rfl, fun _ => rfl⟩
      | cons => exact iff_of_false (fun h => by cases h) (List.cons_ne_nil _ _)
  | cons field rest ih =>
      obtain ⟨result, results⟩ := results
      cases items with
      | nil =>
          simp only [Items.ofList, readItems, Listed]
          cases field.unreached with
          | none => simp
          | some value =>
              have hrest :
                  rest.readItems expected (index + 1) (.ofList []) = .ok (results, .closed) ↔
                    rest.Listed [] results := ih
              rw [Option.some.injEq]
              exact map_cons_eq_ok_iff.trans (and_congr_right' hrest)
      | cons item items =>
          simp only [Items.ofList, readItems, Listed]
          cases field.read item with
          | error fault => simp
          | ok value =>
              rw [Except.ok.injEq]
              exact map_cons_eq_ok_iff.trans (and_congr_right' ih)

end Fields

/-- The record passes over members that it does not know, and its fields have different names. -/
structure Record.IsOpen (record : Record α) : Prop where
  lenient : record.strict = false
  distinct : record.fields.names.Nodup

namespace Record

variable {record : Record α} {result : α} {items : List Tree}

/-- What a record is read as from an object, whatever the order of the members. -/
theorem read_object_eq_ok_iff (hopen : record.IsOpen) :
    record.read (.object (.ofList members)) = .ok result ↔
      record.fields.Passes members ∧ ∃ results, record.fields.Give (under · members) results ∧
        record.build results = .ok result := by
  simp only [read, hopen.lenient, bind_eq_ok_iff, Fields.readMembers_eq_ok_iff hopen.distinct,
    ← Fields.finish_eq_ok_iff]
  constructor
  · rintro ⟨slots, ⟨hpasses, hfilled⟩, results, hfinish, hbuild⟩
    exact ⟨hpasses, results, ⟨slots, hfilled, hfinish⟩, hbuild⟩
  · rintro ⟨hpasses, results, ⟨slots, hfilled, hfinish⟩, hbuild⟩
    exact ⟨slots, ⟨hpasses, hfilled⟩, results, hfinish, hbuild⟩

/-- What a record is read as from an array. -/
theorem read_array_eq_ok_iff :
    record.read (.array (.ofList items)) = .ok result ↔
      ∃ results, record.fields.Listed items results ∧ record.build results = .ok result := by
  rw [read, bind_eq_ok_iff]
  constructor
  · rintro ⟨⟨results, rest⟩, hitems, hbuild⟩
    obtain ⟨value, hvalue, hrest⟩ := bind_eq_ok_iff.mp hbuild
    cases rest with
    | closed =>
        cases hrest
        exact ⟨results, Fields.readItems_eq_ok_iff.mp hitems, hvalue⟩
    | _ => cases hrest
  · rintro ⟨results, hlisted, hbuild⟩
    exact ⟨(results, .closed), Fields.readItems_eq_ok_iff.mpr hlisted,
      bind_eq_ok_iff.mpr ⟨result, hbuild, rfl⟩⟩

end Record

end ClusterLaunch.Json
