import ClusterLaunch.Text.Blank
import ClusterLaunch.Text.Digits
import Mathlib.Data.List.Induction
import Mathlib.Data.List.TakeWhile

/-!
Lines that hold something. Every one of them has a character that is not blank, and
a line feed parts those before it from those after it, so line feeds at the ends of
a text make no difference to them.
-/

namespace ClusterLaunch.Text

/-- What is left of a text after trimming begins and ends outside the class. -/
theorem exists_not_of_strip_ne_nil {p : Char → Bool} {text : List Char} (h : strip p text ≠ []) :
    ∃ c ∈ strip p text, p c = false := by
  have hrest : (stripStart p text).reverse.dropWhile p ≠ [] := by
    simpa [strip, stripEnd] using h
  refine ⟨_, ?_, List.head_dropWhile_not p hrest⟩
  rw [strip, stripEnd, List.mem_reverse]
  exact List.head_mem hrest

/-- What is stripped from a text stands before and after what is left. -/
theorem exists_strip_eq (p : Char → Bool) (text : List Char) :
    ∃ lead tail, text = lead ++ strip p text ++ tail ∧ (∀ c ∈ lead, p c = true) ∧
      (∀ c ∈ tail, p c = true) := by
  refine ⟨text.takeWhile p, ((stripStart p text).reverse.takeWhile p).reverse, ?_,
    fun c hc => List.mem_takeWhile_imp hc,
    fun c hc => List.mem_takeWhile_imp (List.mem_reverse.mp hc)⟩
  have hstart : text = text.takeWhile p ++ stripStart p text :=
    List.takeWhile_append_dropWhile.symm
  have hend : stripStart p text =
      strip p text ++ ((stripStart p text).reverse.takeWhile p).reverse := by
    rw [strip, stripEnd, ← List.reverse_append, List.takeWhile_append_dropWhile,
      List.reverse_reverse]
  rw [List.append_assoc, ← hend]
  exact hstart

/-- What is left after characters of a class are dropped begins outside of it. -/
theorem not_of_mem_head?_dropWhile {p : Char → Bool} {text : List Char} :
    ∀ c ∈ (text.dropWhile p).head?, p c = false := by
  intro c hc
  have hnot := List.head?_dropWhile_not p text
  rw [Option.mem_def.mp hc] at hnot
  simpa using hnot

/-- What is left of a text ends outside the class. -/
theorem getLast?_strip {p : Char → Bool} {text : List Char} :
    ∀ c ∈ (strip p text).getLast?, p c = false := by
  intro c hc
  rw [strip, stripEnd, List.getLast?_reverse] at hc
  exact not_of_mem_head?_dropWhile c hc

/-- What is left of a text begins outside the class. -/
theorem head?_strip {p : Char → Bool} {text : List Char} :
    ∀ c ∈ (strip p text).head?, p c = false := by
  intro c hc
  have hprefix : strip p text <+: stripStart p text := by
    rw [strip, stripEnd, ← List.reverse_suffix, List.reverse_reverse]
    exact List.dropWhile_suffix p
  obtain ⟨tail, htail⟩ := hprefix
  have hstart : c ∈ (text.dropWhile p).head? := by
    rw [← stripStart, ← htail, List.head?_append, Option.mem_def.mp hc]
    rfl
  exact not_of_mem_head?_dropWhile c hstart

/-- A text that begins and ends outside the class stays as it is. -/
theorem strip_eq_self {p : Char → Bool} {text : List Char} (hhead : ∀ c ∈ text.head?, p c = false)
    (hlast : ∀ c ∈ text.getLast?, p c = false) : strip p text = text := by
  have hkept {part : List Char} (h : ∀ c ∈ part.head?, p c = false) : part.dropWhile p = part := by
    cases part with
    | nil => rfl
    | cons c rest => exact List.dropWhile_cons_of_neg (by simp [h c rfl])
  have hreverse : ∀ c ∈ text.reverse.head?, p c = false := by
    rwa [List.head?_reverse]
  rw [strip, stripStart, hkept hhead, stripEnd, hkept hreverse, List.reverse_reverse]

/-- Nothing is left of a text just if it is blank. -/
theorem trim_eq_nil_iff (text : List Char) : trim text = [] ↔ isBlankText text = true := by
  have hends : trim text = [] ↔ ∀ c ∈ stripStart isBlank text, isBlank c = true := by
    simp [trim, strip, stripEnd]
  rw [hends, isBlankText, List.all_eq_true]
  constructor
  · intro h
    by_cases hstart : stripStart isBlank text = []
    · exact List.dropWhile_eq_nil_iff.mp hstart
    · exact absurd (h _ (List.head_mem hstart)) (by simp [stripStart, List.head_dropWhile_not])
  · exact fun h c hc => h c ((List.dropWhile_sublist _).subset hc)

/-- The filled lines are the lines that are not blank, each of them trimmed. -/
theorem filledLines_eq (text : List Char) :
    filledLines text = ((lines text).filter fun line => !isBlankText line).map trim := by
  have hkept : (fun line => !line.isEmpty) ∘ trim = fun line => !isBlankText line := by
    funext line
    rw [Function.comp_apply, Bool.eq_iff_iff]
    simp [trim_eq_nil_iff]
  rw [filledLines, List.filter_map, hkept]

/-- A filled line is not blank. -/
theorem not_isBlankText_of_mem_filledLines {text line : List Char} (h : line ∈ filledLines text) :
    isBlankText line = false := by
  obtain ⟨hmem, hne⟩ := List.mem_filter.mp h
  obtain ⟨whole, -, rfl⟩ := List.mem_map.mp hmem
  have hstrip : strip isBlank whole ≠ [] := by simpa [trim] using hne
  obtain ⟨c, hc, hblank⟩ := exists_not_of_strip_ne_nil hstrip
  rw [isBlankText, List.all_eq_false]
  exact ⟨c, hc, by simp [hblank]⟩

@[simp] theorem filledLines_nil : filledLines [] = [] := rfl

/-- A line feed parts the filled lines before it from those after it. -/
theorem filledLines_append (text rest : List Char) :
    filledLines (text ++ '\n' :: rest) = filledLines text ++ filledLines rest := by
  have hpieces : lines (text ++ '\n' :: rest) = lines text ++ lines rest :=
    pieces_append rfl text rest
  simp [filledLines, hpieces]

theorem filledLines_stripStart (text : List Char) :
    filledLines (stripStart (· == '\n') text) = filledLines text := by
  induction text with
  | nil => rfl
  | cons c text ih =>
      by_cases hc : c = '\n'
      · subst hc
        calc
          filledLines (stripStart (· == '\n') ('\n' :: text)) =
              filledLines (stripStart (· == '\n') text) := rfl
          _ = filledLines text := ih
          _ = filledLines ('\n' :: text) := (filledLines_append [] text).symm
      · simp [stripStart, hc]

theorem filledLines_stripEnd (text : List Char) :
    filledLines (stripEnd (· == '\n') text) = filledLines text := by
  induction text using List.reverseRecOn with
  | nil => rfl
  | append_singleton text c ih =>
      by_cases hc : c = '\n'
      · subst hc
        calc
          filledLines (stripEnd (· == '\n') (text ++ ['\n'])) =
              filledLines (stripEnd (· == '\n') text) := by simp [stripEnd]
          _ = filledLines text := ih
          _ = filledLines (text ++ ['\n']) := by simp [filledLines_append]
      · simp [stripEnd, hc]

/-- Line feeds around a text add no filled lines to it. -/
theorem filledLines_strip (text : List Char) :
    filledLines (strip (· == '\n') text) = filledLines text := by
  rw [strip, filledLines_stripEnd, filledLines_stripStart]

/-- A digit is not blank: all blanks are before `0` or after `9`. -/
theorem not_isBlank_of_isDigit {c : Char} (h : isDigit c = true) : isBlank c = false := by
  rw [isDigit, Bool.and_eq_true, decide_eq_true_eq, decide_eq_true_eq] at h
  obtain ⟨hzero, hnine⟩ := h
  have hother (d : Char) (hd : ¬ ('0' ≤ d ∧ d ≤ '9')) : (c == d) = false := by
    rw [beq_eq_false_iff_ne]
    rintro rfl
    exact hd ⟨hzero, hnine⟩
  have hcontrol : decide (c ≤ '\r') = false := by
    rw [decide_eq_false_iff_not]
    intro hle
    exact absurd (Char.le_trans hzero hle) (by decide)
  have hspace : decide ('\u2000' ≤ c) = false := by
    rw [decide_eq_false_iff_not]
    intro hle
    exact absurd (Char.le_trans hle hnine) (by decide)
  simp [isBlank, hcontrol, hspace, hother]

/-- A text with a digit in it is not blank. -/
theorem not_isBlankText_of_any_isDigit {text : List Char} (h : text.any isDigit = true) :
    isBlankText text = false := by
  obtain ⟨c, hc, hdigit⟩ := List.any_eq_true.mp h
  rw [isBlankText, List.all_eq_false]
  exact ⟨c, hc, by simp [not_isBlank_of_isDigit hdigit]⟩

end ClusterLaunch.Text
