import ClusterLaunch.Outputs
import ClusterLaunch.Proofs.Options

/-!
The files that flags declare. Flags are read as items: a declaration in one of its eight
forms, a flag that holds no file, or a word that is no flag for an output. Reading items
gives the files of the declarations, and it is the same however the items are cut into
texts. Nothing that options are rendered to besides the further flags is such a flag, so
the rendered options declare what the options do.
-/

namespace ClusterLaunch.Outputs

open Text

/-- The two streams of a job that can be sent to a file. -/
inductive Stream
  | output
  | error
  deriving DecidableEq, Repr

inductive Flag
  | short (stream : Stream)
  | long (stream : Stream)
  deriving DecidableEq, Repr

namespace Flag

def text : Flag → String
  | .short .output => "-o"
  | .short .error => "-e"
  | .long .output => "--output"
  | .long .error => "--error"

def lead : Flag → String
  | .short .output => "-o"
  | .short .error => "-e"
  | .long .output => "--output="
  | .long .error => "--error="

end Flag

structure Word where
  text : String
  isWord : IsWord text.toList

/-- A word that is no flag for an output and does not begin like one that holds a file. -/
structure IsPlain (word : List Char) : Prop where
  ne_text : ∀ flag : Flag, word ≠ flag.text.toList
  not_lead : ∀ flag : Flag, ¬ flag.lead.toList <+: word

inductive Item
  /-- A flag and its file, a word each. -/
  | apart (flag : Flag) (file : Word)
  /-- A flag and its file in one word. -/
  | joined (flag : Flag) (file : Word)
  /-- A long flag with an equals sign and nothing after it. -/
  | unfilled (stream : Stream)
  /-- Any other word. -/
  | other (word : Word) (plain : IsPlain word.text.toList)

namespace Item

def words : Item → List String
  | .apart flag file => [flag.text, file.text]
  | .joined flag file => [flag.lead ++ file.text]
  | .unfilled stream => [(Flag.long stream).lead]
  | .other word _ => [word.text]

def file? : Item → Option String
  | .apart _ file | .joined _ file => some file.text
  | .unfilled _ | .other .. => none

end Item

/-- Texts that words are cut into, in their order: each text is some of the words, with
blanks before, between and after them. -/
inductive Cut : List String → List String → Prop
  | nil : Cut [] []
  | cons {text : String} {part texts rest : List String} :
      Spaced text.toList (part.map String.toList) → Cut texts rest →
      Cut (text :: texts) (part ++ rest)

theorem cut_iff {texts words : List String} :
    Cut texts words ↔
      (texts.flatMap fun text => Text.words text.toList) = words.map String.toList := by
  constructor
  · intro h
    induction h with
    | nil => rfl
    | cons hspaced _ ih => rw [List.flatMap_cons, words_eq_of_spaced hspaced, ih, List.map_append]
  · intro h
    induction texts generalizing words with
    | nil =>
        obtain rfl : words = [] := List.map_eq_nil_iff.mp h.symm
        exact .nil
    | cons text texts ih =>
        rw [List.flatMap_cons, eq_comm, List.map_eq_append_iff] at h
        obtain ⟨part, rest, rfl, hpart, hrest⟩ := h
        exact .cons (spaced_iff.mpr hpart.symm) (ih hrest.symm)

/-! What is made of a word. -/

def isBare (word : List Char) : Bool :=
  bareFlags.any (·.toList == word)

theorem ofWords_bare {word : List Char} (h : isBare word = true) (file : List Char)
    (rest : List (List Char)) : ofWords (word :: file :: rest) = file :: ofWords rest := by
  rw [isBare] at h
  rw [ofWords, if_pos h]

theorem ofWords_bare_last {word : List Char} (h : isBare word = true) : ofWords [word] = [] := by
  rw [isBare] at h
  rw [ofWords, if_pos h]

theorem ofWords_of_not_isBare {word : List Char} (h : isBare word = false)
    (rest : List (List Char)) :
    ofWords (word :: rest) = (joined? word).toList ++ ofWords rest := by
  rw [isBare] at h
  cases rest with
  | nil => simp [ofWords, h]
  | cons next rest => simp [ofWords, h]

theorem isBare_text (flag : Flag) : isBare flag.text.toList = true := by
  rcases flag with (_ | _) | (_ | _) <;> decide

/-- A flag that holds a file is not taken for one whose file is the next word. -/
theorem not_isBare_lead (flag : Flag) {file : List Char} (h : file ≠ []) :
    isBare (flag.lead.toList ++ file) = false := by
  obtain ⟨c, file, rfl⟩ := List.exists_cons_of_ne_nil h
  rcases flag with (_ | _) | (_ | _) <;> simp [isBare, bareFlags, Flag.lead]

theorem joined?_lead (flag : Flag) (file : List Char) :
    joined? (flag.lead.toList ++ file) = if file = [] then none else some file := by
  rcases flag with (_ | _) | (_ | _) <;>
    simp [joined?, joinedFlags, Flag.lead, afterLead?, Option.filter]

theorem exists_of_mem_bareFlags : ∀ text ∈ bareFlags, ∃ flag : Flag, text = flag.text := by
  simp only [bareFlags, List.forall_mem_cons]
  exact ⟨⟨.short .output, rfl⟩, ⟨.short .error, rfl⟩, ⟨.long .output, rfl⟩, ⟨.long .error, rfl⟩,
    fun _ h => absurd h List.not_mem_nil⟩

theorem exists_of_mem_joinedFlags : ∀ lead ∈ joinedFlags, ∃ flag : Flag, lead = flag.lead := by
  simp only [joinedFlags, List.forall_mem_cons]
  exact ⟨⟨.long .output, rfl⟩, ⟨.long .error, rfl⟩, ⟨.short .output, rfl⟩, ⟨.short .error, rfl⟩,
    fun _ h => absurd h List.not_mem_nil⟩

theorem not_isBare_of_isPlain {word : List Char} (h : IsPlain word) : isBare word = false := by
  rw [isBare, List.any_eq_false]
  intro text htext
  obtain ⟨flag, rfl⟩ := exists_of_mem_bareFlags text htext
  rw [beq_iff_eq]
  exact fun heq => h.ne_text flag heq.symm

theorem joined?_of_isPlain {word : List Char} (h : IsPlain word) : joined? word = none := by
  have hnone : (joinedFlags.findSome? fun lead => afterLead? lead.toList word) = none := by
    rw [List.findSome?_eq_none_iff]
    intro lead hlead
    obtain ⟨flag, rfl⟩ := exists_of_mem_joinedFlags lead hlead
    cases hafter : afterLead? flag.lead.toList word with
    | none => rfl
    | some file => exact absurd ⟨file, (eq_append_of_afterLead? hafter).symm⟩ (h.not_lead flag)
  rw [joined?, hnone]
  rfl

/-- A plain word declares nothing, and takes nothing from what follows it. -/
theorem ofWords_of_isPlain {word : List Char} (h : IsPlain word) (rest : List (List Char)) :
    ofWords (word :: rest) = ofWords rest := by
  rw [ofWords_of_not_isBare (not_isBare_of_isPlain h), joined?_of_isPlain h]
  rfl

/-- Reading an item first gives its file, and leaves what follows to be read. -/
theorem ofWords_item (item : Item) (rest : List (List Char)) :
    ofWords (item.words.map String.toList ++ rest) =
      (item.file?.map String.toList).toList ++ ofWords rest := by
  cases item with
  | apart flag file => exact ofWords_bare (isBare_text flag) file.text.toList rest
  | joined flag file =>
      have hfile : file.text.toList ≠ [] := file.isWord.filled
      simp only [Item.words, Item.file?, List.map_singleton, List.singleton_append,
        String.toList_append]
      rw [ofWords_of_not_isBare (not_isBare_lead flag hfile), joined?_lead, if_neg hfile]
      rfl
  | unfilled stream =>
      have hbare : isBare (Flag.long stream).lead.toList = false := by cases stream <;> decide
      have hnone := joined?_lead (.long stream) []
      rw [List.append_nil, if_pos rfl] at hnone
      simp only [Item.words, Item.file?, List.map_singleton, List.singleton_append]
      rw [ofWords_of_not_isBare hbare, hnone]
      rfl
  | other word plain => exact ofWords_of_isPlain plain rest

/-- Reading items gives their files; a flag that is left without a file at the end adds none. -/
theorem ofWords_items (items : List Item) (last : Option Flag) :
    ofWords ((items.flatMap Item.words ++ (last.map Flag.text).toList).map String.toList) =
      (items.filterMap Item.file?).map String.toList := by
  induction items with
  | nil =>
      cases last with
      | none => rfl
      | some flag => exact ofWords_bare_last (isBare_text flag)
  | cons item items ih =>
      rw [List.flatMap_cons, List.append_assoc, List.map_append, ofWords_item, ih,
        List.filterMap_cons]
      cases item.file? <;> rfl

/-- Flags declare the files of their declarations, in order, each once and no others. The form
of a declaration makes no difference, nor does the way in which the words are cut into texts.
A long flag with nothing after its equals sign, and a flag at the end that no word follows,
declare no file. -/
theorem declared_items (options : Options) (items : List Item) (last : Option Flag)
    (hcut : Cut options.extra (items.flatMap Item.words ++ (last.map Flag.text).toList)) :
    declared options = items.filterMap Item.file? := by
  rw [declared, cut_iff.mp hcut, ofWords_items, List.map_map]
  simp

/-- Files that look like flags are taken as files, a blank text between a flag and its file
does not matter, and the last flag has no file. -/
theorem declared_items_like_flags :
    let options : Options :=
      { extra := ["-o", " \t", "--output  --exclusive", "", "--error= -e-o --error", "=b.log ",
        "-o"] }
    let items : List Item :=
      [.apart (.short .output) ⟨"--output", by decide⟩,
        .other ⟨"--exclusive", by decide⟩
          ⟨by rintro ((_ | _) | (_ | _)) <;> decide, by rintro ((_ | _) | (_ | _)) <;> decide⟩,
        .unfilled .error,
        .joined (.short .error) ⟨"-o", by decide⟩,
        .apart (.long .error) ⟨"=b.log", by decide⟩]
    let last : Option Flag := some (.short .output)
    Cut options.extra (items.flatMap Item.words ++ (last.map Flag.text).toList) ∧
      declared options = ["--output", "-o", "=b.log"] := by
  intro options items last
  have hcut : Cut options.extra (items.flatMap Item.words ++ (last.map Flag.text).toList) :=
    cut_iff.mpr (by decide)
  exact ⟨hcut, declared_items options items last hcut⟩

/-! What options are rendered to. -/

theorem isPlain_of_third {c : Char} (ho : c ≠ 'o') (he : c ≠ 'e') (rest : List Char) :
    IsPlain ('-' :: '-' :: c :: rest) := by
  constructor
  · rintro ((_ | _) | (_ | _)) <;> simp [Flag.text, ho, he]
  · rintro ((_ | _) | (_ | _)) <;> simp [Flag.lead, ho.symm, he.symm]

/-- No flag with a text or a number is one for an output: they begin otherwise. -/
theorem isPlain_of_isFlag {o : Options} {word : String} (h : o.IsFlag word) :
    IsPlain word.toList := by
  obtain ⟨flag, hflag, value, rfl, -⟩ := h
  have hfirst : ∀ flag ∈ Options.flagNames,
      flag.toList.head? ∉ [none, some 'o', some 'e'] := by decide
  have hhead := hfirst flag hflag
  cases hname : flag.toList with
  | nil => simp [hname] at hhead
  | cons c rest =>
      obtain ⟨ho, he⟩ : c ≠ 'o' ∧ c ≠ 'e' := by simpa [hname] using hhead
      have hword : ("--" ++ flag ++ "=" ++ value).toList =
          '-' :: '-' :: c :: (rest ++ '=' :: value.toList) := by simp [hname]
      rw [hword]
      exact isPlain_of_third ho he _

theorem ofWords_append_of_isPlain {front : List (List Char)} (h : ∀ word ∈ front, IsPlain word)
    (rest : List (List Char)) : ofWords (front ++ rest) = ofWords rest := by
  induction front with
  | nil => rfl
  | cons word front ih =>
      obtain ⟨hword, hfront⟩ := List.forall_mem_cons.mp h
      rw [List.cons_append, ofWords_of_isPlain hword, ih hfront]

/-- Rendered options declare the files that the options declare. -/
theorem declared_of_extra_eq_render {o other : Options} (h : o.Unspaced)
    (hother : other.extra = [o.render]) : declared other = declared o := by
  have hplain : ∀ word ∈ o.flags.map String.toList, IsPlain word := by
    rw [List.forall_mem_map]
    exact fun flag hflag => isPlain_of_isFlag (o.isFlag_of_mem_flags flag hflag)
  rw [declared, declared, hother, List.flatMap_singleton, o.words_render h,
    ofWords_append_of_isPlain hplain]

end ClusterLaunch.Outputs
