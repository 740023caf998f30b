import ClusterLaunch.Text.Lowercase
import Mathlib.Tactic.ByContra

/-!
Lower-case forms in ASCII. A character beyond ASCII is mapped to something beyond ASCII,
all but the Kelvin sign, which becomes a `k`. So a text whose lower-case form is in ASCII
and has no `k` is itself in ASCII, and there the full mapping is that of `A` to `Z`.
-/

namespace ClusterLaunch.Text

namespace Lowercase

/-- Whether a run leads to characters beyond ASCII, or from the Kelvin sign to the `k`. -/
def Run.isApart (run : Run) : Bool :=
  (128 ≤ run.first + run.shift &&
    (run.last + run.shift < 0xd800 ||
      (0xe000 ≤ run.first + run.shift && run.last + run.shift < 0x110000))) ||
  (run.first == 0x212a && run.last == 0x212a && run.shift == 107 - 0x212a)

theorem runs_apart : ∀ run ∈ runs, run.isApart = true :=
  List.all_eq_true.mp (by decide +kernel)

theorem Run.image_of_covers {run : Run} {n : Nat} (hapart : run.isApart = true)
    (h : run.covers n = true) :
    (128 ≤ run.image n ∧ (run.image n).isValidChar) ∨ run.image n = 107 := by
  simp only [Run.covers, Bool.and_eq_true, decide_eq_true_eq] at h
  simp only [Run.isApart, Bool.or_eq_true, Bool.and_eq_true, decide_eq_true_eq,
    beq_iff_eq] at hapart
  simp only [Run.image, Nat.isValidChar]
  omega

/-- What a character beyond ASCII is mapped to is not all in ASCII, unless it is a `k`. -/
theorem beyondAscii_apart {c : Char} (hc : 128 ≤ c.toNat) :
    (∃ d ∈ beyondAscii c, 128 ≤ d.toNat) ∨ beyondAscii c = ['k'] := by
  unfold beyondAscii
  split
  · exact .inl ⟨'\u0307', by simp, by decide⟩
  · split
    · next run hfind =>
        have hapart := runs_apart run (List.mem_of_find?_eq_some hfind)
        have hcovers := List.find?_some hfind
        rcases run.image_of_covers hapart hcovers with ⟨hbeyond, hvalid⟩ | hk
        · refine .inl ⟨Char.ofNat (run.image c.toNat), List.mem_singleton_self _, ?_⟩
          rwa [Char.ofNat, dif_pos hvalid]
        · exact .inr (by rw [hk])
    · exact .inl ⟨c, List.mem_singleton_self _, hc⟩

/-- In ASCII the full mapping is that of the letters `A` to `Z`. -/
theorem walk_eq_map {text : List Char} (h : ∀ c ∈ text, c.toNat < 128) (seen : List Char) :
    walk seen text = text.map Char.toLower := by
  induction text generalizing seen with
  | nil => rfl
  | cons c rest ih =>
      have hc : c.toNat < 128 := h c List.mem_cons_self
      have hsigma : c ≠ 'Σ' := by
        rintro rfl
        exact absurd hc (by decide)
      have hrest := ih (fun d hd => h d (List.mem_cons_of_mem c hd)) (c :: seen)
      rw [walk, if_neg hsigma, ofChar, if_pos hc, hrest]
      rfl

/-- A text that is mapped into ASCII, and to nothing with a `k`, is in ASCII. -/
theorem ascii_of_walk {seen text : List Char} (h : ∀ d ∈ walk seen text, d.toNat < 128 ∧ d ≠ 'k') :
    ∀ c ∈ text, c.toNat < 128 := by
  induction text generalizing seen with
  | nil => exact fun c hc => absurd hc List.not_mem_nil
  | cons c rest ih =>
      rw [walk] at h
      have hfirst := fun d hd => h d (List.mem_append_left _ hd)
      have hrest := ih fun d hd => h d (List.mem_append_right _ hd)
      refine List.forall_mem_cons.mpr ⟨?_, hrest⟩
      by_contra hbeyond
      split at hfirst
      · have hsigma := (hfirst (sigma seen rest) List.mem_cons_self).1
        unfold sigma at hsigma
        split at hsigma
        · exact absurd hsigma (by decide)
        · exact absurd hsigma (by decide)
      · rw [ofChar, if_neg hbeyond] at hfirst
        rcases beyondAscii_apart (Nat.le_of_not_lt hbeyond) with ⟨d, hd, hdbeyond⟩ | hk
        · exact absurd (hfirst d hd).1 (Nat.not_lt_of_le hdbeyond)
        · rw [hk] at hfirst
          exact (hfirst 'k' List.mem_cons_self).2 rfl

end Lowercase

/-- Only letters from `A` to `Z` have another form within ASCII. -/
theorem toNat_lt_of_toLower {c : Char} (h : c.toLower.toNat < 128) : c.toNat < 128 := by
  unfold Char.toLower at h
  split at h
  · next hupper => exact Nat.lt_of_le_of_lt (UInt32.le_iff_toNat_le.mp hupper.2) (by decide)
  · exact h

/-- For a text in ASCII without a `k`, having it as the lower-case form is being equal to it
when the case of the letters `A` to `Z` is ignored. -/
theorem lowercase_eq_iff {s t : String} (hplain : ∀ d ∈ t.toList, d.toNat < 128 ∧ d ≠ 'k')
    (hlower : t.toList.map Char.toLower = t.toList) :
    lowercase s = t ↔ equalIgnoringAsciiCase s t = true := by
  have hform : lowercase s = t ↔ Lowercase.walk [] s.toList = t.toList := by
    rw [lowercase, ← String.toList_inj, String.toList_ofList]
  rw [hform, equalIgnoringAsciiCase, beq_iff_eq, hlower]
  constructor
  · intro hwalk
    have hascii := Lowercase.ascii_of_walk (hwalk ▸ hplain)
    rwa [Lowercase.walk_eq_map hascii] at hwalk
  · intro hmap
    have hascii : ∀ c ∈ s.toList, c.toNat < 128 := by
      intro c hc
      have hmem : c.toLower ∈ t.toList := hmap ▸ List.mem_map_of_mem hc
      exact toNat_lt_of_toLower (hplain _ hmem).1
    rwa [Lowercase.walk_eq_map hascii]

end ClusterLaunch.Text
