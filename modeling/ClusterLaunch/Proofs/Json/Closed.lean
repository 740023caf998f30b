import ClusterLaunch.Proofs.Json.Gaps
import ClusterLaunch.Proofs.Json.Record

/-!
What is read holds no fault. Just what is well-formed can be passed over, however deep it
goes, and no reader gives a value for a tree with a fault in it. So a text that is read is
the text of a tree without one.
-/

namespace ClusterLaunch.Json

variable {α β : Type} {types : List Type}

/-! Passing over. -/

/-- Well-formed JSON of any depth: no fault in it, and all of its strings complete. -/
def Tree.IsJson (tree : Tree) : Prop :=
  tree.Closed ∧ ∀ token ∈ tree.tokens, token.isWhole = true

theorem Items.skip_cons_eq_ok_iff (head : Tree) (tail : Items) :
    (cons head tail).skip = .ok () ↔ head.skip = .ok () ∧ tail.skip = .ok () := by
  rw [Items.skip]
  cases head.skip <;> simp

theorem Members.skip_cons_eq_ok_iff (key value : Tree) (tail : Members) :
    (cons key value tail).skip = .ok () ↔
      (∃ content, key = .text content (.ok ())) ∧ value.skip = .ok () ∧ tail.skip = .ok () := by
  rcases key with _ | _ | _ | ⟨content, fault | ⟨⟩⟩ | _ | _ | _ | _ <;>
    cases hvalue : value.skip <;> simp [Members.skip, hvalue]

theorem Tree.whole_key_iff (key : Tree) :
    (∃ content, key = .text content (.ok ())) ↔
      (∃ content skip, key = .text content skip) ∧ ∀ token ∈ key.tokens, token.isWhole = true := by
  constructor
  · rintro ⟨content, rfl⟩
    exact ⟨⟨content, .ok (), rfl⟩, List.forall_mem_singleton.mpr rfl⟩
  · rintro ⟨⟨content, fault | ⟨⟩, rfl⟩, hwhole⟩
    · exact absurd (List.forall_mem_singleton.mp hwhole) Bool.false_ne_true
    · exact ⟨content, rfl⟩

theorem whole_comma : ∀ token ∈ [Token.comma], token.isWhole = true :=
  List.forall_mem_singleton.mpr rfl

mutual

/-- Just what is well-formed is passed over. -/
theorem Tree.skip_eq_ok_iff (tree : Tree) : tree.skip = .ok () ↔ tree.IsJson := by
  match tree with
  | .null | .bool _ | .number _ | .absent | .broken _ _ | .text _ (.ok _) | .text _ (.error _) =>
      simp [Tree.skip, Tree.IsJson, Tree.Closed, Tree.tokens, Token.isWhole, Except.toBool]
  | .array items =>
      have hitems := Items.skip_eq_ok_iff items [] (List.forall_mem_nil _)
      simp only [Tree.skip, hitems, Tree.IsJson, Tree.Closed, Tree.tokens, List.forall_mem_cons,
        Token.isWhole, true_and]
  | .object members =>
      have hmembers := Members.skip_eq_ok_iff members [] (List.forall_mem_nil _)
      simp only [Tree.skip, hmembers, Tree.IsJson, Tree.Closed, Tree.tokens, List.forall_mem_cons,
        Token.isWhole, true_and]

theorem Items.skip_eq_ok_iff (items : Items) (lead : List Token)
    (hlead : ∀ token ∈ lead, token.isWhole = true) :
    items.skip = .ok () ↔
      items.Closed ∧ ∀ token ∈ items.tokens lead, token.isWhole = true := by
  cases items with
  | closed => simp [Items.skip, Items.Closed, Items.tokens, Token.isWhole]
  | stopped fault => simp [Items.skip, Items.Closed]
  | cons head tail =>
      have htail := Items.skip_eq_ok_iff tail [.comma] whole_comma
      rw [Items.skip_cons_eq_ok_iff, Tree.skip_eq_ok_iff head, htail]
      simp only [Tree.IsJson, Items.Closed, Items.tokens, List.forall_mem_append]
      tauto

theorem Members.skip_eq_ok_iff (members : Members) (lead : List Token)
    (hlead : ∀ token ∈ lead, token.isWhole = true) :
    members.skip = .ok () ↔
      members.Closed ∧ ∀ token ∈ members.tokens lead, token.isWhole = true := by
  cases members with
  | closed => simp [Members.skip, Members.Closed, Members.tokens, Token.isWhole]
  | stopped fault => simp [Members.skip, Members.Closed]
  | cons key value tail =>
      have htail := Members.skip_eq_ok_iff tail [.comma] whole_comma
      have hcolon : Token.colon.isWhole = true := rfl
      rw [Members.skip_cons_eq_ok_iff, Tree.whole_key_iff, Tree.skip_eq_ok_iff value, htail]
      simp only [Tree.IsJson, Members.Closed, Members.tokens, List.forall_mem_append,
        List.forall_mem_cons]
      tauto

end

/-! Reading. -/

/-- The reader answers with a value only for trees without a fault. -/
def Closes (read : Tree → Except Fault α) : Prop :=
  ∀ tree value, read tree = .ok value → tree.Closed

theorem refuse_ne_ok (expected : String) (tree : Tree) (value : α) :
    refuse expected tree ≠ .ok value := by
  unfold refuse
  split <;> nofun

theorem Closes.map {read : Tree → Except Fault α} (h : Closes read) (f : α → β) :
    Closes fun tree => (read tree).map f := by
  intro tree value hread
  obtain ⟨inner, hinner, -⟩ := map_eq_ok_iff.mp hread
  exact h tree inner hinner

theorem closes_text : Closes readText := by
  intro tree value
  fun_cases readText tree with
  | case1 content skip => exact fun _ => trivial
  | case2 tree => exact fun h => absurd h (refuse_ne_ok _ _ _)

theorem closes_natural (bound : Nat) (expected : String) : Closes (readNatural bound expected) := by
  intro tree value
  fun_cases readNatural bound expected tree with
  | case6 tree => exact fun h => absurd h (refuse_ne_ok _ _ _)
  | _ => exact fun _ => trivial

theorem closes_word32 : Closes readWord32 :=
  (closes_natural _ _).map _

theorem closes_word64 : Closes readWord64 :=
  (closes_natural _ _).map _

theorem Closes.optional {read : Tree → Except Fault α} (h : Closes read) :
    Closes (readOptional read) := by
  intro tree value
  fun_cases readOptional read tree with
  | case1 => exact fun _ => trivial
  | case2 tree => exact h.map some tree value

theorem Closes.items {read : Tree → Except Fault α} (h : Closes read) {items : Items}
    {values : List α} (hread : items.readAll read = .ok values) : items.Closed := by
  match items with
  | .closed => trivial
  | .stopped fault => cases hread
  | .cons head tail =>
      rw [Items.readAll] at hread
      split at hread
      · cases hread
      · next value hhead =>
        obtain ⟨rest, htail, -⟩ := map_eq_ok_iff.mp hread
        exact ⟨h head value hhead, h.items htail⟩

theorem Closes.list {read : Tree → Except Fault α} (h : Closes read) : Closes (readList read) := by
  intro tree values
  fun_cases readList read tree with
  | case1 items => exact h.items
  | case2 tree => exact fun h => absurd h (refuse_ne_ok _ _ _)

theorem exists_of_key_eq_ok {key : Tree} {name : String} (h : key.key = .ok name) :
    ∃ content skip, key = .text content skip := by
  cases key with
  | text content skip => exact ⟨content, skip, rfl⟩
  | _ => cases h

/-- All fields are read only from trees without a fault. -/
def Fields.Close : {types : List Type} → Fields types → Prop
  | _, .nil => True
  | _, .cons field rest => Closes field.read ∧ rest.Close

/-- What the first field reads is stored there if nothing has been; what another field reads is
stored behind it. -/
theorem Fields.store_cons_eq_ok_iff {field : Field α} {rest : Fields types}
    {slot after : Option α} {slots stored : Slots types} {name : String} {tree : Tree} :
    (cons field rest).store (slot, slots) name tree = some (.ok (after, stored)) ↔
      if field.name = name then
        slot = none ∧ stored = slots ∧ ∃ value, field.read tree = .ok value ∧ after = some value
      else after = slot ∧ rest.store slots name tree = some (.ok stored) := by
  by_cases hname : field.name = name
  · cases slot with
    | some value => simp [store, hname]
    | none =>
        simp only [store, if_pos hname, Option.some.injEq, true_and]
        refine map_eq_ok_iff.trans ?_
        constructor
        · rintro ⟨value, hread, heq⟩
          cases heq
          exact ⟨rfl, value, hread, rfl⟩
        · rintro ⟨rfl, value, hread, rfl⟩
          exact ⟨value, hread, rfl⟩
  · simp only [store, if_neg hname, Option.map_eq_some_iff]
    constructor
    · rintro ⟨result, hresult, hstore⟩
      obtain ⟨inner, rfl, heq⟩ := map_eq_ok_iff.mp hstore
      cases heq
      exact ⟨rfl, hresult⟩
    · rintro ⟨rfl, hresult⟩
      exact ⟨.ok stored, hresult, rfl⟩

theorem Fields.Close.of_store {fields : Fields types} (h : fields.Close)
    {slots stored : Slots types} {name : String} {tree : Tree}
    (hstore : fields.store slots name tree = some (.ok stored)) : tree.Closed := by
  induction fields with
  | nil => cases hstore
  | cons field rest ih =>
      obtain ⟨slot, slots⟩ := slots
      obtain ⟨after, stored⟩ := stored
      rw [store_cons_eq_ok_iff] at hstore
      split at hstore
      · obtain ⟨-, -, value, hread, -⟩ := hstore
        exact h.1 tree value hread
      · exact ih h.2 hstore.2

theorem Fields.Close.of_members {fields : Fields types} (h : fields.Close) {strict : Bool}
    {slots stored : Slots types} {members : Members}
    (hread : fields.readMembers strict slots members = .ok stored) : members.Closed := by
  match members with
  | .closed => trivial
  | .stopped fault => cases hread
  | .cons key value tail =>
      rw [Fields.readMembers] at hread
      split at hread
      · cases hread
      · next name hkey =>
        split at hread
        · cases hread
        · next after hstore =>
          exact ⟨exists_of_key_eq_ok hkey, h.of_store hstore, h.of_members hread⟩
        · split at hread
          · cases hread
          · split at hread
            · cases hread
            · next hskip =>
              exact ⟨exists_of_key_eq_ok hkey, ((Tree.skip_eq_ok_iff value).mp hskip).1,
                h.of_members hread⟩

theorem Fields.Close.of_items {fields : Fields types} (h : fields.Close) {expected : String}
    {index : Nat} {items rest : Items} {values : Values types}
    (hread : fields.readItems expected index items = .ok (values, rest)) (hrest : rest.Closed) :
    items.Closed := by
  induction fields generalizing index items with
  | nil =>
      cases hread
      exact hrest
  | cons field others ih =>
      match items with
      | .closed => trivial
      | .stopped fault => cases hread
      | .cons head tail =>
          simp only [Fields.readItems] at hread
          split at hread
          · cases hread
          · next value hhead =>
            obtain ⟨after, htail, heq⟩ := map_eq_ok_iff.mp hread
            cases heq
            exact ⟨h.1 head value hhead, ih h.2 htail⟩

theorem Record.closes {record : Record α} (h : record.fields.Close) : Closes record.read := by
  intro tree value
  fun_cases read record tree with
  | case1 members =>
      intro hread
      obtain ⟨slots, hmembers, -⟩ := bind_eq_ok_iff.mp hread
      exact h.of_members hmembers
  | case2 items =>
      intro hread
      obtain ⟨⟨values, rest⟩, hitems, hread⟩ := bind_eq_ok_iff.mp hread
      obtain ⟨value, -, hrest⟩ := bind_eq_ok_iff.mp hread
      cases rest with
      | closed => exact h.of_items hitems trivial
      | _ => cases hrest
  | case3 tree => exact fun hread => absurd hread (refuse_ne_ok _ _ _)

theorem closes_variant (names : List (String × α)) : Closes (readVariant names) := by
  intro tree value
  fun_cases readVariant names tree with
  | case3 key held tail =>
      intro h
      obtain ⟨name, hkey, h⟩ := bind_eq_ok_iff.mp h
      obtain ⟨variant, -, h⟩ := bind_eq_ok_iff.mp h
      cases held with
      | null =>
          cases tail with
          | closed => exact ⟨exists_of_key_eq_ok hkey, trivial, trivial⟩
          | _ => cases h
      | _ => exact absurd h (refuse_ne_ok _ _ _)
  | _ => first | exact fun _ => trivial | exact nofun

/-- A text that is read is the text of a tree without a fault. -/
theorem Closes.exists_isOf {read : Tree → Except Fault α} (h : Closes read) {text : String}
    {value : α} (hread : readDocument read text = .ok value) : ∃ tree : Tree, tree.IsOf text := by
  rcases htext : Tree.ofText text with ⟨tree, rest⟩
  simp only [readDocument, htext] at hread
  split at hread
  · cases hread
  · next result hresult =>
    cases rest with
    | nil => exact ⟨tree, Tree.isOf_of_ofText htext (h tree result hresult)⟩
    | cons => cases hread

end ClusterLaunch.Json
