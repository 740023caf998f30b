import ClusterLaunch.Tag
import Mathlib.Data.Nat.Digits.Defs

/-!
Digits of a fixed width. They show a number as far as their width goes, so that two
numbers that fit are shown alike only if they are equal, and are shown in digits that sort
as the numbers do. Numerals have as many digits as they need: none of them is a zero in
front, and they read as the number they write.
-/

namespace ClusterLaunch

namespace Text

theorem digitChar_injective {a b : Nat} (ha : a < 16) (hb : b < 16)
    (h : digitChar a = digitChar b) : a = b := by
  have hall : ∀ a < 16, ∀ b < 16, digitChar a = digitChar b → a = b := by decide
  exact hall a ha b hb h

@[simp] theorem take_padded (base width n : Nat) :
    (padded base width n).take width = padded base width n :=
  List.take_of_length_le (Nat.le_of_eq (padded_length base width n))

@[simp] theorem take_padded_append (base width n : Nat) (rest : List Char) :
    (padded base width n ++ rest).take width = padded base width n :=
  List.take_left' (padded_length base width n)

@[simp] theorem drop_padded_append (base width n : Nat) (rest : List Char) :
    (padded base width n ++ rest).drop width = rest :=
  List.drop_left' (padded_length base width n)

theorem exists_of_mem_padded {base width n : Nat} {c : Char} (hbase : 0 < base)
    (h : c ∈ padded base width n) : ∃ d < base, c = digitChar d := by
  induction width generalizing n with
  | zero => cases h
  | succ width ih =>
      rcases List.mem_append.mp h with hfront | hlast
      · exact ih hfront
      · exact ⟨n % base, Nat.mod_lt n hbase, List.mem_singleton.mp hlast⟩

/-- Equal digits show numbers that are equal as far as the digits go. -/
theorem mod_eq_of_padded_eq {base width m n : Nat} (hpos : 0 < base) (hbase : base ≤ 16)
    (h : padded base width m = padded base width n) :
    m % base ^ width = n % base ^ width := by
  induction width generalizing m n with
  | zero => simp [Nat.mod_one]
  | succ width ih =>
      obtain ⟨hfront, hlast⟩ := List.append_inj' h rfl
      have hquotient : m / base % base ^ width = n / base % base ^ width := ih hfront
      have hm := Nat.mod_lt m hpos
      have hn := Nat.mod_lt n hpos
      have hdigit : m % base = n % base :=
        digitChar_injective (by omega) (by omega) (List.singleton_inj.mp hlast)
      rw [Nat.pow_succ', Nat.mod_mul, Nat.mod_mul, hquotient, hdigit]

theorem hexValue?_digitChar {d : Nat} (hd : d < 16) : hexValue? (digitChar d) = some d := by
  have hall : ∀ d < 16, hexValue? (digitChar d) = some d := by decide
  exact hall d hd

/-- Digits of a fixed width read as the number they show, as far as they go. -/
theorem readOn_padded {base : Nat} (hpos : 0 < base) (hbase : base ≤ 16) (width n value : Nat)
    (rest : List Char) :
    readOn base value (padded base width n ++ rest) =
      readOn base (value * base ^ width + n % base ^ width) rest := by
  induction width generalizing n rest with
  | zero => simp [padded, Nat.mod_one]
  | succ width ih =>
      have hlast : n % base < base := Nat.mod_lt n hpos
      have hvalue : (value * base ^ width + n / base % base ^ width) * base + n % base =
          value * base ^ (width + 1) + n % base ^ (width + 1) := by
        rw [Nat.pow_succ', Nat.mod_mul]
        ring
      rw [padded, List.append_assoc, ih, List.singleton_append, readOn,
        hexValue?_digitChar (by omega)]
      simp only [if_pos hlast, hvalue]

theorem digitChar_lt {a b : Nat} (hb : b < 16) (h : a < b) : digitChar a < digitChar b := by
  have hall : ∀ b < 16, ∀ a < b, digitChar a < digitChar b := by decide
  exact hall b hb a h

/-- Texts with fronts of one length sort by these, and by what follows if they are equal. -/
theorem append_lt_append {front last x y : List Char} (hlength : front.length = last.length)
    (h : front < last ∨ front = last ∧ x < y) : front ++ x < last ++ y := by
  rcases h with h | ⟨rfl, h⟩
  · induction front generalizing last with
    | nil =>
        rw [List.eq_nil_of_length_eq_zero hlength.symm] at h
        exact absurd h (List.lt_irrefl [])
    | cons c front ih =>
        obtain ⟨d, last, rfl⟩ := List.exists_cons_of_length_eq_add_one hlength.symm
        rcases List.cons_lt_cons_iff.mp h with hlt | ⟨rfl, hlt⟩
        · exact List.cons_lt_cons_iff.mpr (.inl hlt)
        · exact List.cons_lt_cons_iff.mpr (.inr ⟨rfl, ih (Nat.succ.inj hlength) hlt⟩)
  · exact List.append_left_lt h

/-- Digits of a fixed width sort as the numbers they show. -/
theorem padded_lt_padded {base width m n : Nat} (hbase : base ≤ 16) (hn : n < base ^ width)
    (h : m < n) : padded base width m < padded base width n := by
  induction width generalizing m n with
  | zero =>
      rw [Nat.pow_zero] at hn
      omega
  | succ width ih =>
      have hpos : 0 < base := Nat.pos_of_ne_zero (by rintro rfl; simp at hn)
      have hle : m / base ≤ n / base := Nat.div_le_div_right (Nat.le_of_lt h)
      refine append_lt_append (by rw [padded_length, padded_length]) ?_
      rcases Nat.lt_or_eq_of_le hle with hlt | heq
      · exact .inl (ih (Nat.div_lt_of_lt_mul (Nat.pow_succ' ▸ hn)) hlt)
      · have hm := Nat.div_add_mod m base
        have hn := Nat.div_add_mod n base
        rw [heq] at hm
        have hdigit : n % base < 16 := (Nat.mod_lt n hpos).trans_le hbase
        refine .inr ⟨by rw [heq], List.cons_lt_cons_iff.mpr (.inl ?_)⟩
        exact digitChar_lt hdigit (by omega)

/-- The digits of base ten: each reads as what it shows, and only zero is shown as such. -/
theorem digitChar_decimal {d : Nat} (hd : d < 10) :
    isDigit (digitChar d) = true ∧ (digitChar d).toNat - 48 = d ∧
      (0 < d → digitChar d ≠ '0') := by
  have hall : ∀ d < 10, isDigit (digitChar d) = true ∧ (digitChar d).toNat - 48 = d ∧
      (0 < d → digitChar d ≠ '0') := by decide
  exact hall d hd

theorem isDigit_of_mem_padded {width n : Nat} {c : Char} (h : c ∈ padded 10 width n) :
    isDigit c = true := by
  obtain ⟨d, hd, rfl⟩ := exists_of_mem_padded (by decide) h
  exact (digitChar_decimal hd).1

/-- Decimal digits of a fixed width read as the number they show, as far as they go. -/
theorem digitsValue_padded (width n : Nat) : digitsValue (padded 10 width n) = n % 10 ^ width := by
  induction width generalizing n with
  | zero => exact (Nat.mod_one n).symm
  | succ width ih =>
      have hdigit := (digitChar_decimal (Nat.mod_lt n (y := 10) (by decide))).2.1
      have hfront : (padded 10 width (n / 10)).foldl
          (fun value c => value * 10 + (c.toNat - 48)) 0 = n / 10 % 10 ^ width := ih (n / 10)
      rw [digitsValue, padded, List.foldl_append, hfront, List.foldl_cons, List.foldl_nil, hdigit,
        Nat.pow_succ', Nat.mod_mul]
      ring

theorem exists_of_mem_digitsOnto {base fuel n : Nat} {rest : List Char} {c : Char}
    (hbase : 0 < base) (h : c ∈ digitsOnto base fuel n rest) :
    c ∈ rest ∨ ∃ d < base, c = digitChar d := by
  induction fuel generalizing n rest with
  | zero => exact .inl h
  | succ fuel ih =>
      unfold digitsOnto at h
      split at h
      next hlast =>
        rcases List.mem_cons.mp h with rfl | hold
        · exact .inr ⟨n, hlast, rfl⟩
        · exact .inl hold
      next =>
        rcases ih h with hfront | hdigit
        · rcases List.mem_cons.mp hfront with rfl | hold
          · exact .inr ⟨n % base, Nat.mod_lt n hbase, rfl⟩
          · exact .inl hold
        · exact .inr hdigit

/-- A numeral is made of digits of its base. -/
theorem exists_of_mem_numeral {base n : Nat} {c : Char} (hbase : 0 < base)
    (h : c ∈ numeral base n) : ∃ d < base, c = digitChar d :=
  (exists_of_mem_digitsOnto hbase h).resolve_left List.not_mem_nil

/-- Reading the digits that were put in front is to go on from their number. -/
theorem foldl_digitsOnto {fuel n : Nat} (hfuel : n < fuel) (rest : List Char) :
    (digitsOnto 10 fuel n rest).foldl (fun value c => value * 10 + (c.toNat - 48)) 0 =
      rest.foldl (fun value c => value * 10 + (c.toNat - 48)) n := by
  induction fuel generalizing n rest with
  | zero => omega
  | succ fuel ih =>
      unfold digitsOnto
      split
      next hlast => rw [List.foldl_cons, (digitChar_decimal hlast).2.1, Nat.zero_mul, Nat.zero_add]
      next hmore =>
        have hdigit : (digitChar (n % 10)).toNat - 48 = n % 10 :=
          (digitChar_decimal (Nat.mod_lt n (by decide))).2.1
        rw [ih (by omega), List.foldl_cons, hdigit, Nat.div_add_mod' n 10]

theorem head_digitsOnto {fuel n : Nat} (hpos : 0 < n) (hfuel : n < fuel) (rest : List Char) :
    ∃ c more, digitsOnto 10 fuel n rest = c :: more ∧ c ≠ '0' := by
  induction fuel generalizing n rest with
  | zero => omega
  | succ fuel ih =>
      unfold digitsOnto
      split
      next hlast => exact ⟨_, rest, rfl, (digitChar_decimal hlast).2.2 hpos⟩
      next hmore => exact ih (by omega) (by omega) _

theorem isDigit_of_mem_numeral {n : Nat} {c : Char} (h : c ∈ numeral 10 n) :
    isDigit c = true := by
  obtain ⟨d, hd, rfl⟩ := exists_of_mem_numeral (by decide) h
  exact (digitChar_decimal hd).1

theorem digitsOnto_append (base fuel n : Nat) (rest tail : List Char) :
    digitsOnto base fuel n rest ++ tail = digitsOnto base fuel n (rest ++ tail) := by
  induction fuel generalizing n rest with
  | zero => rfl
  | succ fuel ih =>
      unfold digitsOnto
      split
      next => rfl
      next => exact ih _ _

theorem digitsValue_numeral (n : Nat) : digitsValue (numeral 10 n) = n :=
  foldl_digitsOnto (Nat.lt_succ_self n) []

/-- The digits that were put in front are read as their number, in any base. -/
theorem readOn_digitsOnto {base fuel n : Nat} (htwo : 2 ≤ base) (hbase : base ≤ 16)
    (hfuel : n < fuel) (rest : List Char) :
    readOn base 0 (digitsOnto base fuel n rest) = readOn base n rest := by
  have hdigit {d value : Nat} (hd : d < base) (rest : List Char) :
      readOn base value (digitChar d :: rest) = readOn base (value * base + d) rest := by
    rw [readOn, hexValue?_digitChar (by omega)]
    exact if_pos hd
  induction fuel generalizing n rest with
  | zero => omega
  | succ fuel ih =>
      unfold digitsOnto
      split
      next hlast => rw [hdigit hlast, Nat.zero_mul, Nat.zero_add]
      next hmore =>
        have hless : n / base < n := Nat.div_lt_self (by omega) htwo
        rw [ih (by omega), hdigit (Nat.mod_lt n (by omega)), Nat.div_add_mod' n base]

/-- A numeral is read as its number. -/
theorem readNumeral?_numeral {base : Nat} (htwo : 2 ≤ base) (hbase : base ≤ 16) (n : Nat) :
    readNumeral? base (numeral base n) = some n := by
  have hread : readOn base 0 (numeral base n) = some n :=
    readOn_digitsOnto htwo hbase (Nat.lt_succ_self n) []
  have hfilled : numeral base n ≠ [] := by
    intro hempty
    rw [hempty, readOn, Option.some.injEq] at hread
    subst hread
    rw [numeral, digitsOnto, if_pos (by omega)] at hempty
    cases hempty
  rw [readNumeral?, if_neg (by simpa using hfilled), hread]

/-- A numeral has a digit, and a zero in front only when that is all it has. -/
theorem exists_numeral_eq (n : Nat) :
    ∃ c more, numeral 10 n = c :: more ∧ (c = '0' → more = []) := by
  rcases Nat.eq_zero_or_pos n with rfl | hpos
  · exact ⟨'0', [], rfl, fun _ => rfl⟩
  · obtain ⟨c, more, heq, hne⟩ := head_digitsOnto hpos (Nat.lt_succ_self n) []
    exact ⟨c, more, heq, fun h => absurd h hne⟩

theorem decimal_ne_empty (n : Nat) : decimal n ≠ "" := by
  obtain ⟨c, more, hnumeral, -⟩ := exists_numeral_eq n
  simp [decimal, hnumeral]

theorem decimal_injective {m n : Nat} (h : decimal m = decimal n) : m = n := by
  rw [← digitsValue_numeral m, ← digitsValue_numeral n, String.ofList_inj.mp h]

end Text

namespace Tag

/-- Different tags are shown by different digits. -/
theorem digits_injective {a b : Tag} (h : a.digits = b.digits) : a = b := by
  have hmod : a.bits.toNat % 16 ^ 8 = b.bits.toNat % 16 ^ 8 :=
    Text.mod_eq_of_padded_eq (by decide) (by decide) h
  have ha : a.bits.toNat < 16 ^ 8 := a.bits.toNat_lt
  have hb : b.bits.toNat < 16 ^ 8 := b.bits.toNat_lt
  rw [Nat.mod_eq_of_lt ha, Nat.mod_eq_of_lt hb] at hmod
  cases a
  cases b
  exact congrArg Tag.mk (UInt32.toNat_inj.mp hmod)

/-- The digits of a tag are those of base sixteen, in lower case. -/
theorem mem_digits {tag : Tag} {c : Char} (h : c ∈ tag.digits) :
    c ∈ "0123456789abcdef".toList := by
  obtain ⟨d, hd, rfl⟩ := Text.exists_of_mem_padded (by decide) h
  have hall : ∀ d < 16, Text.digitChar d ∈ "0123456789abcdef".toList := by decide
  exact hall d hd

end Tag

end ClusterLaunch
