import ClusterLaunch.Proofs.Options

/-!
The fields of options, told from what they are rendered to. When no text has a space in it,
single spaces part a flag for each field that is set and the further flags. A flag tells
its field by what stands before its first equals sign, whatever the text behind that is, and
what is told of the fields in their order leaves no choice of options.
-/

namespace ClusterLaunch.Options

variable {o p : Options} {name text : String} {a b : List (String × Option String)}

/-- What single spaces part in a line. An empty line has no tokens. -/
def tokens (line : String) : List String :=
  if line = "" then [] else (Text.pieces (· == ' ') line.toList).map String.ofList

/-- No text of the options has a blank in it, and no further flag either. -/
structure Unbroken (o : Options) : Prop where
  texts : o.Unspaced
  extra : ∀ flag ∈ o.extra, ∀ c ∈ flag.toList, Text.isBlank c = false

theorem unbroken_iff (o : Options) : o.Unbroken ↔
    o.Unspaced ∧ ∀ flag ∈ o.extra, (flag.toList.all fun c => !Text.isBlank c) = true := by
  simp only [List.all_eq_true, Bool.not_eq_true']
  exact ⟨fun h => ⟨h.texts, h.extra⟩, fun h => ⟨h.1, h.2⟩⟩

instance (o : Options) : Decidable o.Unbroken :=
  decidable_of_iff _ o.unbroken_iff.symm

/-- Nothing is rendered just if no field is set and every further flag is empty. -/
theorem render_eq_empty_iff_unset (o : Options) :
    o.render = "" ↔ o.given = [] ∧ ∀ flag ∈ o.extra, flag = "" := by
  rw [render_eq_empty_iff, rendered_eq, List.append_eq_nil_iff, List.map_eq_nil_iff,
    List.filter_eq_nil_iff]
  simp

/-! Tokens. -/

/-- Words that are not empty and have no space in them are the tokens of what they make. -/
theorem tokens_intercalate {words : List String} (hfilled : ∀ word ∈ words, word ≠ "")
    (hspace : ∀ word ∈ words, ∀ c ∈ word.toList, (c == ' ') = false) :
    tokens (" ".intercalate words) = words := by
  by_cases hwords : words = []
  · rw [hwords]
    rfl
  · have hne : " ".intercalate words ≠ "" := mt (intercalate_eq_empty_iff hfilled).mp hwords
    have hpieces : Text.pieces (· == ' ') ([' '].intercalate (words.map String.toList)) =
        words.map String.toList := by
      refine Text.pieces_intercalate rfl (mt List.map_eq_nil_iff.mp hwords) ?_
      exact List.forall_mem_map.mpr hspace
    have htoList : (" ".intercalate words).toList = [' '].intercalate (words.map String.toList) :=
      String.toList_intercalate
    rw [tokens, if_neg hne, htoList, hpieces, List.map_map]
    simp

theorem Unbroken.spaceless (h : o.Unbroken) :
    ∀ word ∈ o.rendered, ∀ c ∈ word.toList, (c == ' ') = false := by
  have hblank : ∀ word ∈ o.rendered, ∀ c ∈ word.toList, Text.isBlank c = false := by
    rw [rendered, List.forall_mem_append]
    exact ⟨fun word hword => ((o.isFlag_of_mem_flags word hword).isWord h.texts).unbroken,
      fun word hword => h.extra word (List.mem_filter.mp hword).1⟩
  intro word hword c hc
  have hspace : Text.isBlank ' ' = true := rfl
  rw [beq_eq_false_iff_ne]
  rintro rfl
  exact Bool.false_ne_true ((hblank word hword ' ' hc).symm.trans hspace)

theorem Unbroken.tokens_render (h : o.Unbroken) : tokens o.render = o.rendered := by
  rw [render_eq]
  exact tokens_intercalate o.rendered_filled h.spaceless

/-! Fields told from their flags. -/

/-- The name that a flag shows, and the text behind its first equals sign. -/
def ofFlag (flag : String) : String × String :=
  let shown := flag.toList.drop 2
  (String.ofList (Text.before (· == '=') shown),
    String.ofList ((shown.dropWhile (· != '=')).drop 1))

theorem ofFlag_flag (h : '=' ∉ name.toList) : ofFlag (flag (name, text)) = (name, text) := by
  have hne : ∀ c ∈ name.toList, c ≠ '=' := fun c hc => ne_of_mem_of_not_mem hc h
  have hshown : (flag (name, text)).toList.drop 2 = name.toList ++ '=' :: text.toList := by
    simp [flag]
  have hname : Text.before (· == '=') (name.toList ++ '=' :: text.toList) = name.toList := by
    rw [Text.before, List.takeWhile_append_of_pos (by simpa using hne)]
    simp
  have htext : (name.toList ++ '=' :: text.toList).dropWhile (· != '=') = '=' :: text.toList := by
    rw [List.dropWhile_append_of_pos (by simpa using hne)]
    simp
  simp only [ofFlag, hshown, hname, htext, List.drop_one, List.tail_cons, String.ofList_toList]

theorem map_ofFlag_given (o : Options) : (o.given.map flag).map ofFlag = o.given := by
  have hnames : ∀ name ∈ flagNames, '=' ∉ name.toList := by decide
  have htold : ∀ setting ∈ o.given, (ofFlag ∘ flag) setting = id setting :=
    fun setting hsetting => ofFlag_flag (hnames _ (name_mem_of_given hsetting))
  rw [List.map_map, List.map_congr_left htold, List.map_id]

/-! Options told from the fields that are set. -/

/-- Fields under the same names, none of them twice, are the same when none is empty and what
is set is the same. -/
theorem eq_of_given_eq (hnames : a.map Prod.fst = b.map Prod.fst) (hnodup : (a.map Prod.fst).Nodup)
    (ha : ∀ field ∈ a, field.2 ≠ some "") (hb : ∀ field ∈ b, field.2 ≠ some "")
    (h : a.filterMap given? = b.filterMap given?) : a = b := by
  induction a generalizing b with
  | nil => exact (List.map_eq_nil_iff.mp hnames.symm).symm
  | cons field a ih =>
      cases b with
      | nil => cases hnames
      | cons other b =>
          obtain ⟨name, value⟩ := field
          obtain ⟨_, value'⟩ := other
          obtain ⟨rfl, hrest⟩ := List.cons.inj hnames
          obtain ⟨hfresh, hothers⟩ := List.nodup_cons.mp hnodup
          obtain ⟨hvalue, hfilled⟩ := List.forall_mem_cons.mp ha
          obtain ⟨hvalue', hfilled'⟩ := List.forall_mem_cons.mp hb
          have hset {text : String} (htext : some text ≠ some "") :
              given? (name, some text) = some (name, text) :=
            if_neg fun hempty => htext (congrArg some hempty)
          -- a field that is set in one list only would be set behind the first place in the other
          rcases value with _ | text
          · rcases value' with _ | text'
            · rw [ih hrest hothers hfilled hfilled' h]
            · rw [List.filterMap_cons_none rfl, List.filterMap_cons_some (hset hvalue')] at h
              exact absurd (name_mem_of_given (h ▸ List.mem_cons_self)) hfresh
          · rcases value' with _ | text'
            · rw [List.filterMap_cons_some (hset hvalue), List.filterMap_cons_none rfl] at h
              exact absurd (name_mem_of_given (h ▸ List.mem_cons_self)) (hrest ▸ hfresh)
            · rw [List.filterMap_cons_some (hset hvalue), List.filterMap_cons_some (hset hvalue')]
                at h
              obtain ⟨hhead, htail⟩ := List.cons.inj h
              rw [ih hrest hothers hfilled hfilled' htail, (Prod.mk.inj hhead).2]

theorem shownNumber_injective : Function.Injective shownNumber :=
  Option.map_injective fun _ _ h => UInt32.toNat_inj.mp (Text.decimal_injective h)

theorem shownNumber_ne (value : Option UInt32) : shownNumber value ≠ some "" := by
  cases value with
  | none => nofun
  | some n => exact fun h => Text.decimal_ne_empty n.toNat (Option.some.inj h)

theorem fields_filled (h : some "" ∉ o.textFields) : ∀ field ∈ o.fields, field.2 ≠ some "" := by
  intro field hfield
  rcases o.text_or_number_of_mem_fields field hfield with htext | ⟨value, hvalue⟩
  · exact ne_of_mem_of_not_mem htext h
  · exact hvalue ▸ shownNumber_ne value

/-- Options are their fields that are shown by flags, and the further flags. -/
theorem eq_of_fields_eq (h : o.fields = p.fields) (hextra : o.extra = p.extra) : o = p := by
  simp only [fields, List.cons.injEq, Prod.mk.injEq, true_and, and_true] at h
  obtain ⟨hname, hnodes, htasks, hcpus, hmemory, htime, hpartition, hreservation, haccount⟩ := h
  cases o
  cases p
  rw [Options.mk.injEq]
  exact ⟨hname, shownNumber_injective hnodes, shownNumber_injective htasks,
    shownNumber_injective hcpus, hmemory, htime, hpartition, hreservation, haccount, hextra⟩

/-- There are no further flags, and no text is set but empty. -/
structure OnlyFields (o : Options) : Prop where
  extra : o.extra = []
  filled : some "" ∉ o.textFields

/-- Options that are nothing but their fields are told from what they are rendered to. -/
theorem OnlyFields.eq_of_render_eq (ho : o.OnlyFields) (hp : p.OnlyFields) (hunbroken : o.Unbroken)
    (hunbroken' : p.Unbroken) (h : o.render = p.render) : o = p := by
  have htokens {o : Options} (ho : o.OnlyFields) (hunbroken : o.Unbroken) :
      (tokens o.render).map ofFlag = o.given := by
    rw [hunbroken.tokens_render, rendered_eq, ho.extra, List.filter_nil, List.append_nil,
      map_ofFlag_given]
  have hgiven : o.given = p.given := by
    rw [← htokens ho hunbroken, h, htokens hp hunbroken']
  refine eq_of_fields_eq ?_ (ho.extra.trans hp.extra.symm)
  exact eq_of_given_eq rfl (by decide : flagNames.Nodup) (fields_filled ho.filled)
    (fields_filled hp.filled) hgiven

/-- Single spaces part what options without blanks are rendered to into a flag for each field
that is set, in the order of the fields, and the further flags that are not empty; it is empty
just if there are none. Options that are nothing but their fields are told from it. -/
theorem render_in_tokens (h : o.Unbroken) :
    tokens o.render = o.given.map flag ++ o.extra.filter (fun flag => !flag.isEmpty) ∧
    "" ∉ tokens o.render ∧
    (o.render = "" ↔ o.given = [] ∧ ∀ flag ∈ o.extra, flag = "") ∧
    (o.OnlyFields → ∀ p : Options, p.OnlyFields → p.Unbroken → p.render = o.render → p = o) := by
  refine ⟨?_, ?_, o.render_eq_empty_iff_unset, fun ho p hp hunbroken => ?_⟩
  · rw [h.tokens_render, rendered_eq]
  · rw [h.tokens_render]
    exact fun hempty => o.rendered_filled "" hempty rfl
  · exact hp.eq_of_render_eq ho hunbroken h

theorem render_in_tokens_like_flags :
    let o : Options :=
      { name := some "--nodes=2", nodes := some 0, maxTime := some "", partition := some "=",
        extra := ["", "--mem=", "", "x"] }
    o.Unbroken ∧
      tokens o.render = ["--job-name=--nodes=2", "--nodes=0", "--partition==", "--mem=", "x"] ∧
      ({ memory := some "4=" } : Options).render ≠ ({ maxTime := some "4=" } : Options).render := by
  intro o
  have hunbroken : o.Unbroken := by decide
  refine ⟨hunbroken, (render_in_tokens hunbroken).1.trans (by decide), fun h => ?_⟩
  have heq := (render_in_tokens (o := { maxTime := some "4=" }) (by decide)).2.2.2
    ⟨rfl, by decide⟩ { memory := some "4=" } ⟨rfl, by decide⟩ (by decide) h
  exact absurd heq (by decide)

end ClusterLaunch.Options
