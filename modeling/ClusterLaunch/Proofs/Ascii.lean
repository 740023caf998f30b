import ClusterLaunch.Text.Normal
import Mathlib.Data.List.Basic

/-!
Texts in ASCII. The tables of characters that are not in ASCII leave them alone: no set of such
characters contains any of theirs, and they are their own canonical composition.
-/

namespace ClusterLaunch.Text

variable {p : List Char → Bool} {table : List String}

/-- Every entry of a table has a property, which is told of the characters of each line. -/
inductive EachEntry (p : List Char → Bool) : List String → Prop
  | nil : EachEntry p []
  | cons {line : List Char} {table : List String} (hline : (pieces (· == ' ') line).all p = true)
      (h : EachEntry p table) : EachEntry p (String.ofList line :: table)

theorem EachEntry.of_mem (h : EachEntry p table) {entry : List Char}
    (hentry : entry ∈ entries table) : p entry = true := by
  induction h with
  | nil => exact absurd hentry List.not_mem_nil
  | cons hline _ ih =>
      rw [entries, List.flatMap_cons, String.toList_ofList] at hentry
      rcases List.mem_append.mp hentry with hfirst | hrest
      · exact List.all_eq_true.mp hline _ hfirst
      · exact ih hrest

/-! Sets of characters. -/

namespace CharSet

def isBeyond (entry : List Char) : Bool :=
  (readRange? entry).all fun range => 128 ≤ range.1

theorem search_eq_false {ranges : Array (Nat × Nat)} {n : Nat} (h : ∀ range ∈ ranges, n < range.1)
    (fuel low high : Nat) : search ranges n fuel low high = false := by
  induction fuel generalizing low high with
  | zero => rfl
  | succ fuel ih =>
      simp only [search]
      split
      · split
        · rfl
        · next first last hmiddle =>
          have hfirst : n < first := h _ (Array.mem_of_getElem? hmiddle)
          rw [if_pos hfirst]
          exact ih _ _
      · rfl

/-- A set whose entries lie beyond ASCII contains no character in ASCII. -/
theorem contains_eq_false {c : Char} (h : EachEntry isBeyond table) (hc : c.toNat < 128) :
    (ofText table).contains c = false := by
  refine search_eq_false (fun range hrange => ?_) _ _ _
  obtain ⟨entry, hentry, hread⟩ := List.mem_filterMap.mp (List.mem_toArray.mp hrange)
  have hbeyond : (readRange? entry).all (fun range => 128 ≤ range.1) = true := h.of_mem hentry
  rw [hread, Option.all_some, decide_eq_true_eq] at hbeyond
  omega

end CharSet

/-! Canonical composition. -/

namespace Normal

/-- Whether the pair that an entry gives, all but its first character, lies beyond ASCII. -/
def isBeyond (entry : List Char) : Bool :=
  match readEntry? '-' entry with
  | some ([_, b], [c]) => 128 ≤ b && 128 ≤ c
  | _ => true

theorem pairText_beyond : EachEntry isBeyond pairText := by
  repeat' first
    | exact .nil
    | refine .cons (by decide +kernel) ?_

theorem pairs_beyond {a b c : Nat} (h : (a, b, c) ∈ pairs) : 128 ≤ b ∧ 128 ≤ c := by
  obtain ⟨entry, hentry, hread⟩ := List.mem_filterMap.mp h
  have hbeyond : isBeyond entry = true := EachEntry.of_mem pairText_beyond hentry
  unfold isBeyond at hbeyond
  split at hread
  · next heq =>
    cases hread
    simpa [heq] using hbeyond
  · cases hread

theorem parts_getElem? {n : Nat} (h : n < 128) : parts[n]? = none := by
  refine Std.HashMap.getElem?_ofList_of_contains_eq_false ?_
  rw [List.map_map, Bool.eq_false_iff, ne_eq, List.contains_iff_mem, List.mem_map]
  rintro ⟨⟨a, b, c⟩, hpair, rfl⟩
  have hbeyond := (pairs_beyond hpair).2
  simp only [Function.comp_apply] at h
  omega

theorem composed_getElem? {m n : Nat} (h : n < 128) : composed[(m, n)]? = none := by
  refine Std.HashMap.getElem?_ofList_of_contains_eq_false ?_
  rw [List.map_map, Bool.eq_false_iff, ne_eq, List.contains_iff_mem, List.mem_map]
  rintro ⟨⟨a, b, c⟩, hpair, heq⟩
  have hbeyond := (pairs_beyond hpair).1
  simp only [Function.comp_apply, Prod.mk.injEq] at heq
  omega

variable {c : Char} {text : List Char}

theorem classOf_ascii (h : c.toNat < 128) : classOf c = 0 := by
  rw [classOf, if_pos (by omega)]

theorem takeApart_ascii (fuel : Nat) (h : c.toNat < 128) : takeApart fuel c = [c] := by
  have hsplit : split? c = none := by
    simp [split?, parts_getElem? h]
    omega
  cases fuel with
  | zero => rfl
  | succ fuel => rw [takeApart, hsplit]

theorem join?_ascii (a : Char) (h : c.toNat < 128) : join? a c = none := by
  simp only [join?, composed_getElem? h, Bool.and_eq_true, decide_eq_true_eq, Option.map_none]
  rw [if_neg (by omega), if_neg (by omega)]

theorem order_ascii (h : ∀ c ∈ text, c.toNat < 128) : order text = text := by
  induction text with
  | nil => rfl
  | cons c rest ih =>
      rw [order, ih fun d hd => h d (List.mem_cons_of_mem c hd)]
      cases rest with
      | nil => rfl
      | cons d rest =>
          have hd : classOf d = 0 := classOf_ascii (h d (by simp))
          simp [insert, hd]

theorem composeOn_ascii (base : Char) (h : ∀ c ∈ text, c.toNat < 128) :
    composeOn base [] text = base :: text := by
  induction text generalizing base with
  | nil => rfl
  | cons c rest ih =>
      have hc : c.toNat < 128 := h c List.mem_cons_self
      have hrest := ih c fun d hd => h d (List.mem_cons_of_mem c hd)
      simp [composeOn, join?_ascii base hc, classOf_ascii hc, hrest]

/-- A text in ASCII is its own canonical composition. -/
theorem normalize_ascii (h : ∀ c ∈ text, c.toNat < 128) : normalize text = text := by
  have happart : text.flatMap (takeApart 4) = text := by
    rw [List.flatMap_congr fun c hc => takeApart_ascii 4 (h c hc)]
    exact List.flatMap_singleton' text
  rw [normalize, happart, order_ascii h]
  cases text with
  | nil => rfl
  | cons c rest =>
      have hc : classOf c = 0 := classOf_ascii (h c List.mem_cons_self)
      rw [compose, if_pos hc]
      exact composeOn_ascii c fun d hd => h d (List.mem_cons_of_mem c hd)

end Normal

end ClusterLaunch.Text
