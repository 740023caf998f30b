/-!
Cutting a text at separator characters. A cut of any text has one piece more
than the text has separators, so the pieces are given as a first one and the
others; joining them again with the separators restores the text.
-/

namespace ClusterLaunch.Text

/-- The piece before the first separator, and the pieces after it. -/
def cut (isSeparator : Char → Bool) : List Char → List Char × List (List Char)
  | [] => ([], [])
  | c :: rest =>
      let (first, others) := cut isSeparator rest
      if isSeparator c then ([], first :: others) else (c :: first, others)

/-- All pieces, in order; empty ones stand between neighbouring separators. -/
def pieces (isSeparator : Char → Bool) (text : List Char) : List (List Char) :=
  let (first, others) := cut isSeparator text
  first :: others

/-- What stands before the first separator. -/
def before (isSeparator : Char → Bool) (text : List Char) : List Char :=
  text.takeWhile fun c => !isSeparator c

/-- What follows `lead`, when the text begins with it. -/
def afterLead? : List Char → List Char → Option (List Char)
  | [], text => some text
  | _ :: _, [] => none
  | a :: lead, c :: text => if a = c then afterLead? lead text else none

@[simp] theorem pieces_nil (p : Char → Bool) : pieces p [] = [[]] := rfl

theorem cut_append {p : Char → Bool} {c : Char} (h : p c = true) (text rest : List Char) :
    cut p (text ++ c :: rest) = ((cut p text).1, (cut p text).2 ++ pieces p rest) := by
  induction text with
  | nil => simp [cut, pieces, h]
  | cons d text ih =>
      simp only [List.cons_append, cut, ih]
      split <;> rfl

/-- A separator parts the pieces before it from those after it. -/
theorem pieces_append {p : Char → Bool} {c : Char} (h : p c = true) (text rest : List Char) :
    pieces p (text ++ c :: rest) = pieces p text ++ pieces p rest := by
  rw [pieces, cut_append h]
  rfl

/-- A text without separators is its own only piece. -/
theorem pieces_of_none {p : Char → Bool} {text : List Char} (h : ∀ c ∈ text, p c = false) :
    pieces p text = [text] := by
  induction text with
  | nil => rfl
  | cons c rest ih =>
      have hc : p c = false := h c (by simp)
      have hrest := ih fun d hd => h d (by simp [hd])
      simp only [pieces, List.cons.injEq] at hrest
      simp [pieces, cut, hc, hrest]

/-- Parts that are put together with a separator between two are the pieces of the whole. -/
theorem pieces_intercalate {p : Char → Bool} {c : Char} (hc : p c = true)
    {parts : List (List Char)} (hne : parts ≠ []) (h : ∀ part ∈ parts, ∀ d ∈ part, p d = false) :
    pieces p ([c].intercalate parts) = parts := by
  induction parts with
  | nil => exact absurd rfl hne
  | cons part parts ih =>
      have hpart : pieces p part = [part] := pieces_of_none (h part List.mem_cons_self)
      cases parts with
      | nil => simpa using hpart
      | cons next parts =>
          have hrest := ih (List.cons_ne_nil _ _)
            fun part hmem => h part (List.mem_cons_of_mem _ hmem)
          rw [List.intercalate_cons_cons, List.append_assoc, List.singleton_append,
            pieces_append hc, hpart, hrest]
          rfl

@[simp] theorem afterLead?_append (lead text : List Char) :
    afterLead? lead (lead ++ text) = some text := by
  induction lead with
  | nil => rfl
  | cons a lead ih => simp [afterLead?, ih]

theorem eq_append_of_afterLead? {lead text rest : List Char}
    (h : afterLead? lead text = some rest) : text = lead ++ rest := by
  induction lead generalizing text with
  | nil => simpa [afterLead?] using h
  | cons a lead ih =>
      cases text with
      | nil => simp [afterLead?] at h
      | cons c text =>
          simp only [afterLead?] at h
          split at h
          · next hac => subst hac; simp [ih h]
          · simp at h

end ClusterLaunch.Text
