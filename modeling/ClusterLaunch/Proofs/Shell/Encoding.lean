import ClusterLaunch.Proofs.Shell.Octets
import ClusterLaunch.Shell.Utility.Encoding

/-!
Octets written as letters of six bits and read back. Three octets are four groups of six bits;
a part of three leaves bits over, which are zero, and equal signs say how many octets it has.
-/

namespace ClusterLaunch.Shell.Utility

/-- A text of the shell: octets, each given by a character. -/
def IsOctets (text : List Char) : Prop :=
  ∀ c ∈ text, c.toNat < 256

theorem idxOf?_sixBitLetter {value : Nat} (h : value < 64) :
    sixBitLetters.idxOf? (sixBitLetter value) = some value := by
  have hall : ∀ value < 64, sixBitLetters.idxOf? (sixBitLetter value) = some value := by
    decide +kernel
  exact hall value h

theorem idxOf?_equal : sixBitLetters.idxOf? '=' = none := by
  decide +kernel

theorem ofNat_eq {n : Nat} {c : Char} (h : n = c.toNat) : Char.ofNat n = c := by
  rw [h, Char.ofNat_toNat]

/-- Letters are read as the octets that they were written for. -/
theorem fromLetters_inLetters {text : List Char} (h : IsOctets text) :
    fromLetters (inLetters text) = (text, true) := by
  induction text using inLetters.induct with
  | case1 => rfl
  | case2 a =>
      have ha : a.toNat < 256 := h a List.mem_cons_self
      simp only [inLetters, fromLetters]
      rw [idxOf?_sixBitLetter (by omega), idxOf?_sixBitLetter (by omega), idxOf?_equal]
      simp only [beq_self_eq_true, List.isEmpty_nil, Bool.and_true, Prod.mk.injEq, List.cons.injEq,
        and_true]
      exact ofNat_eq (by omega)
  | case3 a b =>
      have ha : a.toNat < 256 := h a List.mem_cons_self
      have hb : b.toNat < 256 := h b (by simp)
      simp only [inLetters, fromLetters]
      rw [idxOf?_sixBitLetter (by omega), idxOf?_sixBitLetter (by omega),
        idxOf?_sixBitLetter (by omega), idxOf?_equal]
      simp only [beq_self_eq_true, List.isEmpty_nil, Bool.and_true, Prod.mk.injEq, List.cons.injEq,
        and_true]
      exact ⟨ofNat_eq (by omega), ofNat_eq (by omega)⟩
  | case4 a b c rest ih =>
      have ha : a.toNat < 256 := h a List.mem_cons_self
      have hb : b.toNat < 256 := h b (by simp)
      have hc : c.toNat < 256 := h c (by simp)
      have hrest : IsOctets rest := fun d hd => h d (by simp [hd])
      simp only [inLetters, fromLetters]
      rw [idxOf?_sixBitLetter (by omega), idxOf?_sixBitLetter (by omega),
        idxOf?_sixBitLetter (by omega), idxOf?_sixBitLetter (by omega), ih hrest]
      simp only [Prod.mk.injEq, List.cons.injEq, and_true]
      exact ⟨ofNat_eq (by omega), ofNat_eq (by omega), ofNat_eq (by omega)⟩

/-- What is written is made of letters and equal signs. -/
theorem forall_mem_inLetters {text : List Char} (h : IsOctets text) :
    ∀ c ∈ inLetters text, c = '=' ∨ c ∈ sixBitLetters := by
  have hletter {value : Nat} (hvalue : value < 64) :
      sixBitLetter value = '=' ∨ sixBitLetter value ∈ sixBitLetters := by
    refine .inr (List.isSome_idxOf?.mp ?_)
    rw [idxOf?_sixBitLetter hvalue]
    rfl
  have hequal : True ∨ '=' ∈ sixBitLetters := .inl trivial
  have hend : ∀ c ∈ [], c = '=' ∨ c ∈ sixBitLetters := fun _ hc => absurd hc List.not_mem_nil
  induction text using inLetters.induct with
  | case1 => exact hend
  | case2 a =>
      have ha : a.toNat < 256 := h a List.mem_cons_self
      simp only [inLetters, List.forall_mem_cons]
      exact ⟨hletter (by omega), hletter (by omega), hequal, hequal, hend⟩
  | case3 a b =>
      have ha : a.toNat < 256 := h a List.mem_cons_self
      have hb : b.toNat < 256 := h b (by simp)
      simp only [inLetters, List.forall_mem_cons]
      exact ⟨hletter (by omega), hletter (by omega), hletter (by omega), hequal, hend⟩
  | case4 a b c rest ih =>
      have ha : a.toNat < 256 := h a List.mem_cons_self
      have hb : b.toNat < 256 := h b (by simp)
      have hc : c.toNat < 256 := h c (by simp)
      simp only [inLetters, List.forall_mem_cons]
      exact ⟨hletter (by omega), hletter (by omega), hletter (by omega), hletter (by omega),
        ih fun d hd => h d (by simp [hd])⟩

/-- Lines of a width that make up a text. -/
theorem exists_wrapped_eq {width fuel : Nat} {text : List Char} (hwidth : 0 < width)
    (hfuel : text.length ≤ fuel) :
    ∃ lines, wrapped width fuel text = unlines lines ∧ lines.flatten = text ∧
      ∀ line ∈ lines, line.length ≤ width := by
  induction fuel generalizing text with
  | zero =>
      obtain rfl : text = [] := List.length_eq_zero_iff.mp (Nat.le_zero.mp hfuel)
      exact ⟨[], rfl, rfl, fun _ h => (nomatch h)⟩
  | succ fuel ih =>
      cases text with
      | nil => exact ⟨[], rfl, rfl, fun _ h => (nomatch h)⟩
      | cons c text =>
          have hrest : ((c :: text).drop width).length ≤ fuel := by
            rw [List.length_drop]
            omega
          obtain ⟨lines, hlines, hflatten, hlength⟩ := ih hrest
          refine ⟨(c :: text).take width :: lines, ?_, ?_, ?_⟩
          · have hzero : (width == 0) = false := beq_false_of_ne (Nat.ne_of_gt hwidth)
            simp only [wrapped, hzero, Bool.false_eq_true, if_false, hlines, unlines,
              List.flatMap_cons, List.append_assoc, List.singleton_append]
          · rw [List.flatten_cons, hflatten, List.take_append_drop]
          · exact List.forall_mem_cons.mpr ⟨List.length_take_le .., hlength⟩

/-- Line feeds are all that is added when a text is parted into lines. -/
theorem filter_wrapped (width fuel : Nat) {text : List Char} {keeps : Char → Bool}
    (hfeed : keeps '\n' = false) : (wrapped width fuel text).filter keeps = text.filter keeps := by
  induction fuel generalizing text with
  | zero => rfl
  | succ fuel ih =>
      cases text with
      | nil => rfl
      | cons c text =>
          simp only [wrapped]
          split
          · rfl
          · rw [List.filter_append, List.filter_cons_of_neg (by simp [hfeed]), ih,
              ← List.filter_append, List.take_append_drop]

/-- Octets that were written as letters, on lines of any width, are read back, whether what is
no letter is passed over or not. -/
theorem read_written {text : List Char} (h : IsOctets text) (width fuel : Nat) (ignores : Bool) :
    fromLetters ((wrapped width fuel (inLetters text)).filter fun c =>
      c != '\n' && (!ignores || c == '=' || sixBitLetters.contains c)) = (text, true) := by
  rw [filter_wrapped width fuel rfl, List.filter_eq_self.mpr, fromLetters_inLetters h]
  intro c hc
  have hfeed : '\n' ∉ sixBitLetters := by
    decide +kernel
  rcases forall_mem_inLetters h c hc with rfl | hletter
  · simp
  · have hne : c ≠ '\n' := fun heq => hfeed (heq ▸ hletter)
    simp [hne, hletter]

end ClusterLaunch.Shell.Utility
