import ClusterLaunch.Proofs.Lines

/-!
The words of a text. A text is its words in their order, with blanks around them and at
least one blank between two; there is only one way to see a text like that. What a text
is put together from has its own words when it meets its neighbours in a blank, so the
words of a text are also those of its filled lines.
-/

namespace ClusterLaunch.Text

variable {text lead tail word : List Char} {c : Char}

/-- Some characters, none of them blank. -/
structure IsWord (word : List Char) : Prop where
  filled : word ≠ []
  unbroken : ∀ c ∈ word, isBlank c = false

theorem isWord_iff : IsWord word ↔ word ≠ [] ∧ (word.all fun c => !isBlank c) = true := by
  rw [List.all_eq_true]
  constructor
  · exact fun h => ⟨h.filled, fun c hc => by simp [h.unbroken c hc]⟩
  · exact fun ⟨hfilled, hall⟩ => ⟨hfilled, fun c hc => by simpa using hall c hc⟩

instance : Decidable (IsWord word) :=
  decidable_of_iff _ isWord_iff.symm

/-- A text that is words in their order, with blanks before, between and after them. -/
inductive Spaced : List Char → List (List Char) → Prop
  | blank {text : List Char} : isBlankText text = true → Spaced text []
  | last {lead word : List Char} : isBlankText lead = true → IsWord word →
      Spaced (lead ++ word) [word]
  | more {lead word rest : List Char} {c : Char} {others : List (List Char)} :
      isBlankText lead = true → IsWord word → isBlank c = true → Spaced rest others →
      Spaced (lead ++ word ++ c :: rest) (word :: others)

/-! What the words of a text are. -/

@[simp] theorem words_nil : words [] = [] := rfl

/-- A blank parts the words before it from those after it. -/
theorem words_append_cons (h : isBlank c = true) (text rest : List Char) :
    words (text ++ c :: rest) = words text ++ words rest := by
  rw [words, pieces_append h, List.filter_append]
  rfl

theorem words_of_isWord (h : IsWord word) : words word = [word] := by
  rw [words, pieces_of_none h.unbroken]
  simp [h.filled]

/-- Parts that are words are the words of what they make. -/
theorem flatMap_words_of_isWord {parts : List String}
    (h : ∀ part ∈ parts, IsWord part.toList) :
    (parts.flatMap fun part => words part.toList) = parts.map String.toList := by
  induction parts with
  | nil => rfl
  | cons part parts ih =>
      obtain ⟨hpart, hparts⟩ := List.forall_mem_cons.mp h
      rw [List.flatMap_cons, words_of_isWord hpart, ih hparts]
      rfl

theorem words_blank_append (h : isBlankText lead = true) (text : List Char) :
    words (lead ++ text) = words text := by
  induction lead with
  | nil => rfl
  | cons c lead ih =>
      obtain ⟨hc, hlead⟩ : isBlank c = true ∧ isBlankText lead = true := by
        simpa [isBlankText] using h
      calc
        words (c :: lead ++ text) = words [] ++ words (lead ++ text) :=
          words_append_cons hc [] (lead ++ text)
        _ = words text := ih hlead

theorem words_of_isBlankText (h : isBlankText text = true) : words text = [] := by
  have hwords := words_blank_append h []
  rwa [List.append_nil] at hwords

/-- What begins with a blank takes nothing from the words before it. -/
theorem words_append_of_head (text : List Char) (h : ∀ c ∈ tail.head?, isBlank c = true) :
    words (text ++ tail) = words text ++ words tail := by
  cases tail with
  | nil => simp
  | cons c rest =>
      have hc : isBlank c = true := h c rfl
      have htail : words (c :: rest) = words rest := words_append_cons hc [] rest
      rw [words_append_cons hc, htail]

/-- What ends in a blank takes nothing from the words after it. -/
theorem words_append_of_getLast (h : ∀ c ∈ lead.getLast?, isBlank c = true) (text : List Char) :
    words (lead ++ text) = words lead ++ words text := by
  rcases List.eq_nil_or_concat lead with rfl | ⟨front, c, rfl⟩
  · rfl
  · have hc : isBlank c = true := h c (by simp)
    rw [List.concat_eq_append, List.append_assoc, List.singleton_append, words_append_cons hc,
      words_append_cons hc, words_nil, List.append_nil]

theorem words_append_blank (text : List Char) (h : isBlankText tail = true) :
    words (text ++ tail) = words text := by
  have hhead : ∀ c ∈ tail.head?, isBlank c = true :=
    fun c hc => List.all_eq_true.mp h c (List.mem_of_mem_head? hc)
  rw [words_append_of_head text hhead, words_of_isBlankText h, List.append_nil]

/-! Words are the one way to see a text as words with blanks around them. -/

theorem words_eq_of_spaced {found : List (List Char)} (h : Spaced text found) :
    words text = found := by
  induction h with
  | blank htext => exact words_of_isBlankText htext
  | last hlead hword => rw [words_blank_append hlead, words_of_isWord hword]
  | more hlead hword hc _ ih =>
      rw [List.append_assoc, words_blank_append hlead, words_append_cons hc, words_of_isWord hword,
        ih, List.singleton_append]

/-- A text that is not blank begins with blanks and a word; then it ends, or a blank follows. -/
theorem exists_first_word (h : isBlankText text = false) :
    ∃ lead word rest, text = lead ++ word ++ rest ∧ isBlankText lead = true ∧ IsWord word ∧
      ∀ c ∈ rest.head?, isBlank c = true := by
  have hsplit : text = text.takeWhile isBlank ++ text.dropWhile isBlank :=
    List.takeWhile_append_dropWhile.symm
  cases hfrom : text.dropWhile isBlank with
  | nil =>
      have hall : ∀ c ∈ text, isBlank c = true := List.dropWhile_eq_nil_iff.mp hfrom
      rw [isBlankText, List.all_eq_true.mpr hall] at h
      cases h
  | cons c more =>
      have hc : isBlank c = false := by
        have hhead := List.head_dropWhile_not isBlank (l := text) (by simp [hfrom])
        simpa [hfrom] using hhead
      refine ⟨text.takeWhile isBlank, c :: more.takeWhile (!isBlank ·),
        more.dropWhile (!isBlank ·), ?_, List.all_takeWhile, ⟨List.cons_ne_nil _ _, ?_⟩, ?_⟩
      · rw [List.append_assoc, List.cons_append, List.takeWhile_append_dropWhile, ← hfrom]
        exact hsplit
      · refine List.forall_mem_cons.mpr ⟨hc, fun d hd => ?_⟩
        simpa using List.mem_takeWhile_imp hd
      · exact fun d hd => by simpa using not_of_mem_head?_dropWhile d hd

theorem spaced_words (text : List Char) : Spaced text (words text) := by
  cases hblank : isBlankText text with
  | true =>
      rw [words_of_isBlankText hblank]
      exact .blank hblank
  | false =>
      obtain ⟨lead, word, rest, rfl, hlead, hword, hrest⟩ := exists_first_word hblank
      cases rest with
      | nil =>
          rw [List.append_nil, words_blank_append hlead, words_of_isWord hword]
          exact .last hlead hword
      | cons c rest =>
          have hc : isBlank c = true := hrest c rfl
          rw [List.append_assoc, words_blank_append hlead, words_append_cons hc,
            words_of_isWord hword, ← List.append_assoc]
          exact .more hlead hword hc (spaced_words rest)
termination_by text.length
decreasing_by
  subst_vars
  simp only [List.length_append, List.length_cons]
  omega

theorem spaced_iff {found : List (List Char)} : Spaced text found ↔ words text = found :=
  ⟨words_eq_of_spaced, fun h => h ▸ spaced_words text⟩

theorem Spaced.isWord {found : List (List Char)} (h : Spaced text found) :
    ∀ word ∈ found, IsWord word := by
  induction h with
  | blank _ => exact fun _ hmem => absurd hmem List.not_mem_nil
  | last _ hword => exact List.forall_mem_singleton.mpr hword
  | more _ hword _ _ ih => exact List.forall_mem_cons.mpr ⟨hword, ih⟩

theorem words_eq_nil_iff (text : List Char) : words text = [] ↔ isBlankText text = true := by
  refine ⟨fun h => ?_, words_of_isBlankText⟩
  cases spaced_iff.mpr h with
  | blank hblank => exact hblank

theorem exists_words_eq_concat (h : isBlankText text = false) :
    ∃ earlier word, words text = earlier ++ [word] := by
  rcases List.eq_nil_or_concat (words text) with hnone | ⟨earlier, word, hwords⟩
  · rw [(words_eq_nil_iff text).mp hnone] at h
    cases h
  · exact ⟨earlier, word, hwords.trans List.concat_eq_append⟩

/-- What is put together with a blank between two has the words of its parts. -/
theorem words_intercalate (parts : List String) :
    words (" ".intercalate parts).toList = parts.flatMap fun part => words part.toList := by
  induction parts with
  | nil => rfl
  | cons part parts ih =>
      rw [List.flatMap_cons, ← ih]
      cases parts with
      | nil => simp
      | cons next parts =>
          rw [String.intercalate_cons_cons, String.toList_append, String.toList_append,
            List.append_assoc]
          exact words_append_cons (c := ' ') (by decide) _ _

/-! The words of the lines. -/

theorem words_trim (text : List Char) : words (trim text) = words text := by
  obtain ⟨lead, tail, htext, hlead, htail⟩ := exists_strip_eq isBlank text
  have hwords := words_append_blank (lead ++ trim text) (List.all_eq_true.mpr htail)
  rw [words_blank_append (List.all_eq_true.mpr hlead)] at hwords
  rw [← hwords]
  exact congrArg words htext.symm

/-- The words of a text are those of its lines. -/
theorem flatMap_words_lines (text : List Char) : (lines text).flatMap words = words text := by
  by_cases hbreak : '\n' ∈ text
  · obtain ⟨line, rest, rfl, hline⟩ := List.eq_append_cons_of_mem hbreak
    have hlines : lines (line ++ '\n' :: rest) = line :: lines rest := by
      rw [lines, pieces_append rfl, pieces_of_none fun c hc => ?_]
      · rfl
      · exact beq_eq_false_iff_ne.mpr (ne_of_mem_of_not_mem hc hline)
    rw [hlines, List.flatMap_cons, flatMap_words_lines rest, words_append_cons (by decide)]
  · have hline : lines text = [text] :=
      pieces_of_none fun c hc => beq_eq_false_iff_ne.mpr (ne_of_mem_of_not_mem hc hbreak)
    rw [hline, List.flatMap_singleton]
termination_by text.length
decreasing_by
  subst_vars
  simp only [List.length_append, List.length_cons]
  omega

/-- Parts without words can be left out. -/
theorem flatMap_filter_eq {α : Type} {f : α → List (List Char)} {p : α → Bool} {parts : List α}
    (h : ∀ part ∈ parts, p part = false → f part = []) :
    (parts.filter p).flatMap f = parts.flatMap f := by
  induction parts with
  | nil => rfl
  | cons part parts ih =>
      obtain ⟨hpart, hparts⟩ := List.forall_mem_cons.mp h
      rw [List.flatMap_cons, ← ih hparts]
      cases hkept : p part with
      | true => simp [hkept]
      | false => simp [hkept, hpart hkept]

/-- A line that is not filled has no words, and trimming takes none away. -/
theorem flatMap_words_filledLines (text : List Char) :
    (filledLines text).flatMap words = words text := by
  have hblank : ∀ line ∈ lines text, (!isBlankText line) = false → words line = [] :=
    fun line _ hline => words_of_isBlankText (by simpa using hline)
  rw [filledLines_eq, List.flatMap_map]
  simp only [words_trim]
  rw [flatMap_filter_eq hblank, flatMap_words_lines]

def LastLine (text line : List Char) : Prop :=
  ∃ above below, lines text = above ++ line :: below ∧ isBlankText line = false ∧
    ∀ later ∈ below, isBlankText later = true

/-- All that is said last is said in the last line that is not blank. -/
theorem getLast?_words_of_lastLine {line : List Char} (h : LastLine text line) :
    (words text).getLast? = (words line).getLast? := by
  obtain ⟨above, below, hlines, hfilled, hbelow⟩ := h
  have hnone : below.flatMap words = [] :=
    List.flatMap_eq_nil_iff.mpr fun later hlater => words_of_isBlankText (hbelow later hlater)
  obtain ⟨earlier, word, hwords⟩ := exists_words_eq_concat hfilled
  rw [← flatMap_words_lines, hlines, List.flatMap_append, List.flatMap_cons, hnone,
    List.append_nil, hwords, ← List.append_assoc, List.getLast?_concat, List.getLast?_concat]

/-- A text with a line that is not blank is not blank. -/
theorem not_isBlankText_of_mem_lines {line : List Char} (hmem : line ∈ lines text)
    (hfilled : isBlankText line = false) : isBlankText text = false := by
  rw [← Bool.not_eq_true, ← words_eq_nil_iff, ← flatMap_words_lines, List.flatMap_eq_nil_iff]
  intro hnone
  rw [(words_eq_nil_iff line).mp (hnone line hmem)] at hfilled
  cases hfilled

theorem exists_lastLine (h : isBlankText text = false) : ∃ line, LastLine text line := by
  have hfound : ((lines text).reverse.find? fun line => !isBlankText line).isSome = true := by
    rw [List.find?_isSome]
    by_contra hnone
    have hwords : words text = [] := by
      rw [← flatMap_words_lines, List.flatMap_eq_nil_iff]
      intro line hline
      refine words_of_isBlankText ?_
      by_contra hfilled
      exact hnone ⟨line, List.mem_reverse.mpr hline, by simp [hfilled]⟩
    rw [(words_eq_nil_iff text).mp hwords] at h
    cases h
  obtain ⟨line, hline⟩ := Option.isSome_iff_exists.mp hfound
  obtain ⟨hfilled, below, above, hlines, hbelow⟩ := List.find?_eq_some_iff_append.mp hline
  refine ⟨line, above.reverse, below.reverse, ?_, by simpa using hfilled, ?_⟩
  · have hreverse := congrArg List.reverse hlines
    simpa using hreverse
  · intro later hlater
    simpa using hbelow later (List.mem_reverse.mp hlater)

end ClusterLaunch.Text
