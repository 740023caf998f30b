import ClusterLaunch.Json.Reader
import ClusterLaunch.Proofs.Digits
import ClusterLaunch.Proofs.Fallible

/-!
Number literals as they are read. A literal is read as a number of some width only if it is
that of a natural number which fits, and then as that number.
-/

namespace ClusterLaunch.Json.Numeral

def size (literal : Numeral) : Nat :=
  Text.digitsValue literal.whole

/-- The literal is that of a natural number below the bound: it has no sign, no fraction and no
exponent. -/
structure IsCount (literal : Numeral) (bound : Nat) : Prop where
  unsigned : literal.negative = false
  whole : literal.fraction = none
  plain : literal.exponent = none
  lt : literal.size < bound

variable {literal : Numeral} {bound n : Nat}

theorem isPlain_iff :
    literal.isPlain = true ↔ literal.fraction = none ∧ literal.exponent = none := by
  rw [isPlain, Bool.and_eq_true, Option.isNone_iff_eq_none, Option.isNone_iff_eq_none]

theorem value_eq_natural_iff :
    literal.value = .ok (.natural n) ↔ literal.IsCount wordBound ∧ literal.size = n := by
  have hfloat : literal.float?.map Number.float ≠ some (.natural n) := by
    cases literal.float? <;> nofun
  have hvalue : literal.value = .ok (.natural n) ↔ literal.value? = some (.natural n) := by
    unfold value
    split <;> simp_all
  rw [hvalue, value?]
  constructor
  · intro h
    split at h
    · next hplain =>
        obtain ⟨hfraction, hexponent⟩ := isPlain_iff.mp hplain
        dsimp only at h
        split at h
        · next hsize =>
            rw [Bool.and_eq_true, Bool.not_eq_true', decide_eq_true_eq] at hsize
            cases h
            exact ⟨⟨hsize.1, hfraction, hexponent, hsize.2⟩, rfl⟩
        · split at h
          · cases h
          · exact absurd h hfloat
    · exact absurd h hfloat
  · rintro ⟨⟨hunsigned, hfraction, hexponent, hlt⟩, rfl⟩
    rw [if_pos (isPlain_iff.mpr ⟨hfraction, hexponent⟩), hunsigned]
    exact if_pos (decide_eq_true hlt)

/-- A literal is read just if it is that of a natural number below the bound, and as that. -/
theorem readNatural_eq_ok_iff {expected : String} (hbound : bound ≤ UInt64.size) :
    readNatural bound expected (.number literal) = .ok n ↔
      literal.IsCount bound ∧ literal.size = n := by
  rw [readNatural]
  constructor
  · intro h
    split at h
    · cases h
    · next m hvalue =>
        obtain ⟨hcount, hsize⟩ := value_eq_natural_iff.mp hvalue
        split at h
        · next hlt =>
            cases h
            exact ⟨{ hcount with lt := hsize ▸ hlt }, hsize⟩
        · cases h
    · cases h
    · cases h
  · rintro ⟨hcount, rfl⟩
    have hword : literal.IsCount wordBound := { hcount with lt := Nat.lt_of_lt_of_le hcount.lt hbound }
    simp only [value_eq_natural_iff.mpr ⟨hword, rfl⟩, if_pos hcount.lt]

theorem readWord32_eq_ok_iff {word : UInt32} :
    readWord32 (.number literal) = .ok word ↔
      literal.IsCount UInt32.size ∧ word.toNat = literal.size := by
  rw [readWord32, map_eq_ok_iff]
  simp only [readNatural_eq_ok_iff (by decide : UInt32.size ≤ UInt64.size)]
  constructor
  · rintro ⟨n, ⟨hcount, rfl⟩, rfl⟩
    exact ⟨hcount, UInt32.toNat_ofNat_of_lt' hcount.lt⟩
  · rintro ⟨hcount, hsize⟩
    exact ⟨_, ⟨hcount, rfl⟩, hsize ▸ UInt32.ofNat_toNat⟩

theorem readWord64_eq_ok_iff {word : UInt64} :
    readWord64 (.number literal) = .ok word ↔
      literal.IsCount UInt64.size ∧ word.toNat = literal.size := by
  rw [readWord64, map_eq_ok_iff]
  simp only [readNatural_eq_ok_iff (Nat.le_refl UInt64.size)]
  constructor
  · rintro ⟨n, ⟨hcount, rfl⟩, rfl⟩
    exact ⟨hcount, UInt64.toNat_ofNat_of_lt' hcount.lt⟩
  · rintro ⟨hcount, hsize⟩
    exact ⟨_, ⟨hcount, rfl⟩, hsize ▸ UInt64.ofNat_toNat⟩

/-! Literals of numbers. -/

theorem size_ofNat (n : Nat) : (ofNat n).size = n :=
  Text.digitsValue_numeral n

theorem isCount_ofNat : (ofNat n).IsCount bound ↔ n < bound :=
  ⟨fun h => size_ofNat n ▸ h.lt, fun h => ⟨rfl, rfl, rfl, (size_ofNat n).symm ▸ h⟩⟩

end ClusterLaunch.Json.Numeral
