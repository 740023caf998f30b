import ClusterLaunch.Proofs.Digits
import ClusterLaunch.Proofs.Words
import ClusterLaunch.Request
import Mathlib.Data.List.Basic

/-!
Rendered options. They are words that are never empty, a flag for each field that is set
and the further flags, with a blank between two, so they come to nothing only if there are
none. A name that is set stands in front. When no text that is set has a blank in it, each
flag is one word, and splitting what is rendered gives the flags and the words of the
further flags.
-/

namespace ClusterLaunch.Options

variable {o : Options} {name : String}

def shownNumber : Option UInt32 → Option String :=
  Option.map fun n => Text.decimal n.toNat

/-- The fields that are shown by flags, in the order of these: the name of the flag, and the
text that shows what the field holds. -/
def fields (o : Options) : List (String × Option String) :=
  [("job-name", o.name), ("nodes", shownNumber o.nodes), ("ntasks", shownNumber o.tasks),
    ("cpus-per-task", shownNumber o.cpusPerTask), ("mem", o.memory), ("time", o.maxTime),
    ("partition", o.partition), ("reservation", o.reservation), ("account", o.account)]

/-- What a field is set to, beside its name. An empty text counts as unset. -/
def given? : String × Option String → Option (String × String)
  | (_, none) => none
  | (name, some text) => if text = "" then none else some (name, text)

def given (o : Options) : List (String × String) :=
  o.fields.filterMap given?

def flag (field : String × String) : String :=
  "--" ++ field.1 ++ "=" ++ field.2

theorem textFlag_eq (name : String) (value : Option String) :
    textFlag name value = ((given? (name, value)).map flag).toList := by
  cases value with
  | none => rfl
  | some text => by_cases htext : text = "" <;> simp [textFlag, given?, flag, htext]

theorem numberFlag_eq (name : String) (value : Option UInt32) :
    numberFlag name value = textFlag name (shownNumber value) := by
  cases value with
  | none => rfl
  | some n => simp [numberFlag, textFlag, shownNumber, Text.decimal_ne_empty]

theorem flags_eq (o : Options) : o.flags = o.given.map flag := by
  rw [given, List.map_filterMap, List.filterMap_eq_flatMap_toList]
  simp only [flags, numberFlag_eq, textFlag_eq, fields, List.flatMap_cons, List.flatMap_nil,
    List.append_nil, List.append_assoc]

def rendered (o : Options) : List String :=
  o.flags ++ o.extra.filter fun flag => !flag.isEmpty

theorem render_eq (o : Options) : o.render = " ".intercalate o.rendered := rfl

theorem rendered_eq (o : Options) :
    o.rendered = o.given.map flag ++ o.extra.filter fun flag => !flag.isEmpty := by
  rw [rendered, flags_eq]

/-- No word of rendered options is empty. -/
theorem rendered_filled (o : Options) : ∀ word ∈ o.rendered, word ≠ "" := by
  rw [rendered_eq, List.forall_mem_append, List.forall_mem_map]
  refine ⟨fun setting _ => by simp [flag], ?_⟩
  intro word hword
  rintro rfl
  cases (List.mem_filter.mp hword).2

/-- Words that are not empty, put together, come to nothing only if there are none. -/
theorem intercalate_eq_empty_iff {words : List String} (h : ∀ word ∈ words, word ≠ "") :
    " ".intercalate words = "" ↔ words = [] := by
  cases words with
  | nil => simp
  | cons first rest =>
      have hfirst : first ≠ "" := h first List.mem_cons_self
      cases rest with
      | nil => simp [hfirst]
      | cons second rest => simp [String.intercalate_cons_cons, hfirst]

theorem render_eq_empty_iff (o : Options) : o.render = "" ↔ o.rendered = [] := by
  rw [render_eq]
  exact intercalate_eq_empty_iff o.rendered_filled

/-- The name comes first, and takes nothing from the other options. -/
theorem rendered_of_name (h : o.name = some name) (hne : name ≠ "") :
    o.rendered = ("--job-name=" ++ name) :: ({ o with name := none } : Options).rendered := by
  have hfilled : name.isEmpty = false := String.isEmpty_eq_false_iff.mpr hne
  have hflag : textFlag "job-name" (some name) = ["--job-name=" ++ name] := by
    simp [textFlag, hfilled]
  have hunset : textFlag "job-name" none = [] := rfl
  simp [rendered, flags, h, hflag, hunset]

/-- A name that is set is rendered first; what follows it are the other options. -/
theorem render_of_name (h : o.name = some name) (hne : name ≠ "") :
    let others := ({ o with name := none } : Options).render
    o.render = "--job-name=" ++ name ++ if others = "" then "" else " " ++ others := by
  intro others
  rw [render_eq, rendered_of_name h hne]
  by_cases hnone : ({ o with name := none } : Options).rendered = []
  · have hothers : others = "" := (render_eq_empty_iff _).mpr hnone
    rw [if_pos hothers, hnone, String.intercalate_singleton, String.append_empty]
  · have hothers : others ≠ "" := fun hempty => hnone ((render_eq_empty_iff _).mp hempty)
    rw [if_neg hothers, String.intercalate_cons_of_ne_nil hnone, ← String.append_assoc]
    rfl

/-! The words that rendered options are split into again. -/

def textFields (o : Options) : List (Option String) :=
  [o.name, o.memory, o.maxTime, o.partition, o.reservation, o.account]

/-- No text that is set has a blank in it. -/
def Unspaced (o : Options) : Prop :=
  ∀ text, some text ∈ o.textFields → ∀ c ∈ text.toList, Text.isBlank c = false

theorem unspaced_iff (o : Options) : o.Unspaced ↔
    ∀ field ∈ o.textFields, ((field.getD "").toList.all fun c => !Text.isBlank c) = true := by
  simp only [List.all_eq_true, Bool.not_eq_true']
  constructor
  · intro h field hfield
    cases field with
    | none => exact fun c hc => absurd hc List.not_mem_nil
    | some text => exact h text hfield
  · exact fun h text htext => h (some text) htext

instance (o : Options) : Decidable o.Unspaced :=
  decidable_of_iff _ (unspaced_iff o).symm

def flagNames : List String :=
  ["job-name", "nodes", "ntasks", "cpus-per-task", "mem", "time", "partition", "reservation",
    "account"]

def IsFlag (o : Options) (word : String) : Prop :=
  ∃ flag ∈ flagNames, ∃ value, word = "--" ++ flag ++ "=" ++ value ∧
    (some value ∈ o.textFields ∨ ∃ n, value = Text.decimal n)

/-- A field is set to the text that it holds, unless this is empty. -/
theorem given?_eq_some_iff {field : String × Option String} {setting : String × String} :
    given? field = some setting ↔ field = (setting.1, some setting.2) ∧ setting.2 ≠ "" := by
  obtain ⟨name, _ | text⟩ := field
  · simp [given?]
  · by_cases htext : text = ""
    · simp only [given?, htext, if_true, reduceCtorEq, false_iff, Prod.mk.injEq]
      exact fun h => h.2 (Option.some.inj h.1.2).symm
    · rw [given?, if_neg htext]
      constructor
      · rintro ⟨⟩
        exact ⟨rfl, htext⟩
      · rintro ⟨⟨⟩, -⟩
        rfl

theorem name_mem_of_given {a : List (String × Option String)} {setting : String × String}
    (h : setting ∈ a.filterMap given?) : setting.1 ∈ a.map Prod.fst := by
  obtain ⟨field, hfield, hsetting⟩ := List.mem_filterMap.mp h
  rw [(given?_eq_some_iff.mp hsetting).1] at hfield
  exact List.mem_map_of_mem hfield

/-- A field that is shown by a flag holds a text or shows a number. -/
theorem text_or_number_of_mem_fields (o : Options) :
    ∀ field ∈ o.fields, field.2 ∈ o.textFields ∨ ∃ value, field.2 = shownNumber value := by
  simp only [fields, List.forall_mem_cons, List.not_mem_nil, false_implies, implies_true, and_true]
  refine ⟨.inl ?_, .inr ⟨_, rfl⟩, .inr ⟨_, rfl⟩, .inr ⟨_, rfl⟩, .inl ?_, .inl ?_, .inl ?_,
    .inl ?_, .inl ?_⟩
  all_goals simp [textFields]

theorem isFlag_of_mem_flags (o : Options) : ∀ word ∈ o.flags, o.IsFlag word := by
  rw [flags_eq, List.forall_mem_map]
  rintro ⟨name, text⟩ hgiven
  obtain ⟨field, hfield, hset⟩ := List.mem_filterMap.mp hgiven
  obtain ⟨rfl, -⟩ := given?_eq_some_iff.mp hset
  have hname : name ∈ flagNames := name_mem_of_given hgiven
  refine ⟨name, hname, text, rfl, ?_⟩
  rcases o.text_or_number_of_mem_fields _ hfield with htext | ⟨_ | n, hnumber⟩
  · exact .inl htext
  · cases hnumber
  · exact .inr ⟨n.toNat, Option.some.inj hnumber⟩

theorem IsFlag.isWord {word : String} (h : o.IsFlag word) (hspaces : o.Unspaced) :
    Text.IsWord word.toList := by
  obtain ⟨flag, hflag, value, rfl, hvalue⟩ := h
  have hname : ∀ flag ∈ flagNames, Text.IsWord ("--" ++ flag ++ "=").toList := by decide
  have hunspaced : ∀ c ∈ value.toList, Text.isBlank c = false := by
    rcases hvalue with hset | ⟨n, rfl⟩
    · exact hspaces value hset
    · intro c hc
      rw [Text.decimal, String.toList_ofList] at hc
      exact Text.not_isBlank_of_isDigit (Text.isDigit_of_mem_numeral hc)
  constructor
  · simp
  · rw [String.toList_append]
    exact List.forall_mem_append.mpr ⟨(hname flag hflag).unbroken, hunspaced⟩

/-- Rendered options are split into the flags and the words of the further flags. -/
theorem words_render (h : o.Unspaced) :
    Text.words o.render.toList =
      o.flags.map String.toList ++ o.extra.flatMap fun flag => Text.words flag.toList := by
  have hflags : ∀ flag ∈ o.flags, Text.IsWord flag.toList :=
    fun flag hflag => (o.isFlag_of_mem_flags flag hflag).isWord h
  have hextra : ∀ flag ∈ o.extra, (!flag.isEmpty) = false → Text.words flag.toList = [] := by
    intro flag _ hempty
    obtain rfl : flag = "" := by simpa using hempty
    rfl
  rw [render_eq, rendered, Text.words_intercalate, List.flatMap_append,
    Text.flatMap_words_of_isWord hflags, Text.flatMap_filter_eq hextra]

end ClusterLaunch.Options
