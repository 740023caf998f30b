import ClusterLaunch.Proofs.Json.Frame

/-!
Records with one value exchanged. When a record is read from a document, and the value at the
place of one of its fields is exchanged for another, the document is read just if the field
reads the new value, and the record that is read then differs in this field only.
-/

namespace ClusterLaunch.Json

variable {α β : Type} {types : List Type}

/-- How the values of the fields change when the field at an index takes another value. -/
inductive Fields.Sets (field : Field α) :
    {types : List Type} → Fields types → Nat → (Values types → α → Values types) → Prop
  | here {types : List Type} {rest : Fields types} :
      Sets field (.cons field rest) 0 fun results value => (value, results.2)
  | there {β : Type} {types : List Type} {other : Field β} {rest : Fields types} {index : Nat}
      {set : Values types → α → Values types} (h : Sets field rest index set) :
      Sets field (.cons other rest) (index + 1) fun results value =>
        (results.1, set results.2 value)

namespace Fields.Sets

variable {fields : Fields types} {field : Field α} {index : Nat}
  {set : Values types → α → Values types} {values others : String → List Tree}
  {results : Values types} {before after : List Tree} {tree other : Tree} {value : α}

theorem fields_at (h : fields.Sets field index set) : fields.At field index := by
  induction h with
  | here => exact .here
  | there _ ih => exact .there ih

/-- With another value under its name, the field has what it reads of that, and all other fields
have what they had. -/
theorem give (h : fields.Sets field index set) (hnames : fields.names.Nodup)
    (hgive : fields.Give values results) (hread : field.read tree = .ok value)
    (hvalue : others field.name = [tree])
    (hothers : ∀ name, name ≠ field.name → others name = values name) :
    fields.Give others (set results value) := by
  induction h with
  | here =>
      obtain ⟨result, results⟩ := results
      rw [names, List.nodup_cons] at hnames
      have hrest : ∀ name ∈ _, others name = values name :=
        fun name hname => hothers name (ne_of_mem_of_not_mem hname hnames.1)
      exact ⟨hvalue ▸ .read hread, (give_congr hrest).mpr hgive.2⟩
  | @there _ _ other _ _ _ h ih =>
      obtain ⟨result, results⟩ := results
      rw [names, List.nodup_cons] at hnames
      have hname : other.name ≠ field.name :=
        (ne_of_mem_of_not_mem h.fields_at.name_mem hnames.1).symm
      exact ⟨(hothers other.name hname) ▸ hgive.1, ih hnames.2 hgive.2⟩

/-- With another item at its index, the field has what it reads of that, and all other fields
have what they had. -/
theorem listed (h : fields.Sets field before.length set)
    (hlisted : fields.Listed (before ++ other :: after) results)
    (hread : field.read tree = .ok value) :
    fields.Listed (before ++ tree :: after) (set results value) := by
  generalize hlength : before.length = index at h
  induction h generalizing before with
  | here =>
      obtain rfl := List.length_eq_zero_iff.mp hlength
      exact ⟨hread, hlisted.2⟩
  | there _ ih =>
      cases before with
      | nil => cases hlength
      | cons first before => exact ⟨hlisted.1, ih hlisted.2 (Nat.succ.inj hlength)⟩

end Fields.Sets

/-- The record has a field at the index, and when the field takes another value, so does that
part of the record, and no other. -/
structure Record.Puts (record : Record β) (field : Field α) (index : Nat) (put : β → α → β) :
    Prop where
  isOpen : record.IsOpen
  exists_sets : ∃ (set : Values record.types → α → Values record.types)
    (build : Values record.types → β), record.fields.Sets field index set ∧
      (∀ results, record.build results = .ok (build results)) ∧
      ∀ results value, build (set results value) = put (build results) value

namespace Record.Puts

variable {record : Record β} {field : Field α} {index : Nat} {put : β → α → β} {whole : β}
  {frame : Tree → Tree} {other : Tree}

theorem fields_at (h : record.Puts field index put) : record.fields.At field index := by
  obtain ⟨set, build, hsets, -⟩ := h.exists_sets
  exact hsets.fields_at

theorem carries (h : record.Puts field index put) (hframe : Frame field.name index frame) :
    Carries (fun part => record.read (frame part)) field.read :=
  Record.carries h.isOpen.distinct h.fields_at hframe

/-- A record that is read takes what the field reads from its place: with another value there,
all else is read as before. -/
theorem read_of_ok (h : record.Puts field index put) (hframe : Frame field.name index frame)
    (hread : record.read (frame other) = .ok whole) {part : Tree} {value : α}
    (hpart : field.read part = .ok value) : record.read (frame part) = .ok (put whole value) := by
  obtain ⟨set, build, hsets, hbuild, hput⟩ := h.exists_sets
  have hwhole {results : Values record.types} (hbuilt : record.build results = .ok whole) :
      record.build (set results value) = .ok (put whole value) := by
    rw [hbuild, Except.ok.injEq] at hbuilt
    rw [hbuild, hput, hbuilt]
  cases hframe with
  | @member key hkey before after =>
      obtain ⟨hpasses, results, hgive, hbuilt⟩ := (read_object_eq_ok_iff h.isOpen).mp hread
      -- no name is read twice, so the exchanged value was alone under its name
      have hlength := hgive.length_le_one h.fields_at.name_mem
      rw [under_insert hkey, if_pos rfl, List.length_append, List.length_append,
        List.length_singleton] at hlength
      have hbefore : under field.name before = [] := List.eq_nil_of_length_eq_zero (by omega)
      have hafter : under field.name after = [] := List.eq_nil_of_length_eq_zero (by omega)
      refine (read_object_eq_ok_iff h.isOpen).mpr ⟨?_, set results value, ?_, hwhole hbuilt⟩
      · intro member hmember
        rcases List.mem_append.mp hmember with hold | hnew
        · exact hpasses member (List.mem_append_left _ hold)
        rcases List.mem_cons.mp hnew with rfl | hold
        · exact ⟨field.name, hkey, .inl h.fields_at.name_mem⟩
        · exact hpasses member (List.mem_append_right _ (List.mem_cons_of_mem _ hold))
      · refine hsets.give h.isOpen.distinct hgive hpart ?_ fun name hname => ?_
        · simp only [under_insert hkey, hbefore, hafter, if_pos, List.nil_append, List.append_nil]
        · simp only [under_insert hkey, if_neg hname.symm]
  | item before after hindex =>
      subst hindex
      obtain ⟨results, hlisted, hbuilt⟩ := read_array_eq_ok_iff.mp hread
      exact read_array_eq_ok_iff.mpr
        ⟨set results value, hsets.listed hlisted hpart, hwhole hbuilt⟩

/-- With another value at the place of a field, a record that is read is read just if the field
reads that value, and differs in this field only. -/
theorem read_eq (h : record.Puts field index put) (hframe : Frame field.name index frame)
    (hread : record.read (frame other) = .ok whole) (part : Tree) :
    record.read (frame part) = (field.read part).map (put whole) := by
  cases hpart : field.read part with
  | ok value => exact h.read_of_ok hframe hread hpart
  | error fault => exact (h.carries hframe).fault hread hpart

/-- The field of a record that is read has read what is in that part of the record. -/
theorem exists_read (h : record.Puts field index put) (hframe : Frame field.name index frame)
    (hread : record.read (frame other) = .ok whole) :
    ∃ value, field.read other = .ok value ∧ put whole value = whole :=
  map_eq_ok_iff.mp ((h.read_eq hframe hread other).symm.trans hread)

end Record.Puts

end ClusterLaunch.Json
