import ClusterLaunch.Text.Octets

/-!
UTF-8 read back. A character has one form in octets, of one to four of them, and no shorter or
longer one. A decoder takes just these forms, so a list of octets is decoded to a text
exactly when it is that text's own encoding.
-/

namespace ClusterLaunch.Text.Octets

/-- An octet that follows the first one of a character. -/
def Continues (b : UInt8) : Prop :=
  0x80 ≤ b.toNat ∧ b.toNat ≤ 0xbf

/-- The forms of a code point in octets. The second octet is bounded where a shorter form would
do, where the code point is half of a pair, and where it is beyond the last one. -/
inductive Form (n : Nat) : List UInt8 → Prop
  | one {a : UInt8} (ha : a.toNat < 0x80) (hn : n = a.toNat) : Form n [a]
  | two {a b : UInt8} (ha : 0xc2 ≤ a.toNat ∧ a.toNat ≤ 0xdf) (hb : Continues b)
      (hn : n = a.toNat % 32 * 64 + (b.toNat - 0x80)) : Form n [a, b]
  | three {a b c : UInt8} (ha : 0xe0 ≤ a.toNat ∧ a.toNat ≤ 0xef) (hb : Continues b)
      (hc : Continues c) (hlow : a.toNat = 0xe0 → 0xa0 ≤ b.toNat)
      (hhigh : a.toNat = 0xed → b.toNat ≤ 0x9f)
      (hn : n = (a.toNat % 16 * 64 + (b.toNat - 0x80)) * 64 + (c.toNat - 0x80)) : Form n [a, b, c]
  | four {a b c d : UInt8} (ha : 0xf0 ≤ a.toNat ∧ a.toNat ≤ 0xf4) (hb : Continues b)
      (hc : Continues c) (hd : Continues d) (hlow : a.toNat = 0xf0 → 0x90 ≤ b.toNat)
      (hhigh : a.toNat = 0xf4 → b.toNat ≤ 0x8f)
      (hn : n = ((a.toNat % 8 * 64 + (b.toNat - 0x80)) * 64 + (c.toNat - 0x80)) * 64 +
        (d.toNat - 0x80)) : Form n [a, b, c, d]

variable {a b : UInt8} {n m : Nat} {octets rest more : List UInt8}

theorem Form.isValidChar (h : Form n octets) : n.isValidChar := by
  cases h <;> simp only [Nat.isValidChar, Continues] at * <;> omega

/-- Octets in a form are those that the character is encoded in. -/
theorem Form.encodeChar_eq (h : Form n octets) : String.utf8EncodeChar (Char.ofNat n) = octets := by
  have hvalue : (Char.ofNat n).val.toNat = n := by
    rw [Char.ofNat, dif_pos h.isValidChar]
    rfl
  have hone {x : Nat} {y : UInt8} (hxy : x = y.toNat) : UInt8.ofNat x = y := by
    rw [hxy, UInt8.ofNat_toNat]
  unfold String.utf8EncodeChar
  simp only [hvalue]
  cases h with
  | one ha hn => rw [if_pos (by omega), hone hn]
  | two ha hb hn =>
      simp only [Continues] at hb
      rw [if_neg (by omega), if_pos (by omega)]
      simp only [List.cons.injEq, and_true]
      exact ⟨hone (by omega), hone (by omega)⟩
  | three ha hb hc hlow hhigh hn =>
      simp only [Continues] at hb hc
      rw [if_neg (by omega), if_neg (by omega), if_pos (by omega)]
      simp only [List.cons.injEq, and_true]
      exact ⟨hone (by omega), hone (by omega), hone (by omega)⟩
  | four ha hb hc hd hlow hhigh hn =>
      simp only [Continues] at hb hc hd
      rw [if_neg (by omega), if_neg (by omega), if_neg (by omega)]
      simp only [List.cons.injEq, and_true]
      exact ⟨hone (by omega), hone (by omega), hone (by omega), hone (by omega)⟩

/-- A character is encoded in a form of its code point. -/
theorem form_encodeChar (c : Char) : Form c.toNat (String.utf8EncodeChar c) := by
  have hvalid : c.toNat.isValidChar := c.valid
  simp only [Nat.isValidChar] at hvalid
  unfold String.utf8EncodeChar
  simp only [Char.toNat_val]
  -- the forms by their lengths; in each the octets are below 256, so none is cut off
  split
  · refine .one ?_ ?_ <;> simp only [UInt8.toNat_ofNat'] <;> omega
  split
  · refine .two ?_ ?_ ?_ <;> simp only [Continues, UInt8.toNat_ofNat'] <;> omega
  split
  · refine .three ?_ ?_ ?_ ?_ ?_ ?_ <;> simp only [Continues, UInt8.toNat_ofNat'] <;> omega
  · refine .four ?_ ?_ ?_ ?_ ?_ ?_ ?_ <;> simp only [Continues, UInt8.toNat_ofNat'] <;> omega

/-! What a decoder makes of the first octets. -/

theorem continues_iff : continues b = true ↔ Continues b := by
  simp [continues, Continues, UInt8.le_iff_toNat_le]

theorem shape?_eq (a : UInt8) : shape? a =
    if 0xc2 ≤ a.toNat ∧ a.toNat ≤ 0xdf then some (1, 0x80, 0xbf)
    else if a.toNat = 0xe0 then some (2, 0xa0, 0xbf)
    else if a.toNat = 0xed then some (2, 0x80, 0x9f)
    else if 0xe1 ≤ a.toNat ∧ a.toNat ≤ 0xef then some (2, 0x80, 0xbf)
    else if a.toNat = 0xf0 then some (3, 0x90, 0xbf)
    else if 0xf1 ≤ a.toNat ∧ a.toNat ≤ 0xf3 then some (3, 0x80, 0xbf)
    else if a.toNat = 0xf4 then some (3, 0x80, 0x8f)
    else none := by
  simp [shape?, UInt8.le_iff_toNat_le, ← UInt8.toNat_inj]

/-- The bounds of the second octet that go with a first one. -/
def Bounds (low high : UInt8) (allowed : UInt8 → Prop) : Prop :=
  ∀ b, (low ≤ b && b ≤ high) = true ↔ allowed b

/-- What the first octet says of the others. -/
inductive Lead (a : UInt8) : Option (Nat × UInt8 × UInt8) → Prop
  | none (ha : a.toNat < 0xc2 ∨ 0xf4 < a.toNat) : Lead a none
  | two {low high : UInt8} (ha : 0xc2 ≤ a.toNat ∧ a.toNat ≤ 0xdf)
      (hb : Bounds low high Continues) : Lead a (some (1, low, high))
  | three {low high : UInt8} (ha : 0xe0 ≤ a.toNat ∧ a.toNat ≤ 0xef)
      (hb : Bounds low high fun b => Continues b ∧ (a.toNat = 0xe0 → 0xa0 ≤ b.toNat) ∧
        (a.toNat = 0xed → b.toNat ≤ 0x9f)) : Lead a (some (2, low, high))
  | four {low high : UInt8} (ha : 0xf0 ≤ a.toNat ∧ a.toNat ≤ 0xf4)
      (hb : Bounds low high fun b => Continues b ∧ (a.toNat = 0xf0 → 0x90 ≤ b.toNat) ∧
        (a.toNat = 0xf4 → b.toNat ≤ 0x8f)) : Lead a (some (3, low, high))

theorem lead_shape? (a : UInt8) : Lead a (shape? a) := by
  have hbounds {low high : UInt8} {allowed : UInt8 → Prop}
      (h : ∀ b, low.toNat ≤ b.toNat ∧ b.toNat ≤ high.toNat ↔ allowed b) :
      Bounds low high allowed := by
    intro b
    rw [← h b]
    simp [UInt8.le_iff_toNat_le]
  rw [shape?_eq]
  repeat' split
  · exact .two ‹_› (hbounds fun b => by simp [Continues])
  · exact .three (by omega) (hbounds fun b => by simp [Continues]; omega)
  · exact .three (by omega) (hbounds fun b => by simp [Continues]; omega)
  · exact .three (by omega) (hbounds fun b => by simp [Continues]; omega)
  · exact .four (by omega) (hbounds fun b => by simp [Continues]; omega)
  · exact .four (by omega) (hbounds fun b => by simp [Continues]; omega)
  · exact .four (by omega) (hbounds fun b => by simp [Continues]; omega)
  · exact .none (by omega)

theorem next_of_bounds {count : Nat} {low high : UInt8} {allowed : UInt8 → Prop}
    (ha : 0x80 ≤ a.toNat) (hshape : shape? a = some (count, low, high))
    (hbounds : Bounds low high allowed) (hb : allowed b) (rest : List UInt8) :
    next a (b :: rest) = finish (leading a count * 64 + (b.toNat - 0x80)) (count - 1) rest := by
  have hnot : ¬ a < 0x80 := UInt8.not_lt.mpr (UInt8.le_iff_toNat_le.mpr ha)
  simp only [next, if_neg hnot, hshape, (hbounds b).mpr hb, if_true]

@[simp] theorem finish_zero (value : Nat) (rest : List UInt8) :
    finish value 0 rest = (some (Char.ofNat value), rest) := by
  rw [finish]

theorem finish_cons {c : UInt8} (hc : Continues c) (value count : Nat) (rest : List UInt8) :
    finish value (count + 1) (c :: rest) = finish (value * 64 + (c.toNat - 0x80)) count rest := by
  rw [finish, if_pos (continues_iff.mpr hc)]

/-- A decoder takes a character that stands in its form. -/
theorem next_of_form (h : Form n (a :: octets)) (rest : List UInt8) :
    next a (octets ++ rest) = (some (Char.ofNat n), rest) := by
  have hlead := lead_shape? a
  generalize hshape : shape? a = shape at hlead
  cases h with
  | one ha hn =>
      have hascii : a < 0x80 := by rwa [UInt8.lt_iff_toNat_lt]
      simp only [next, if_pos hascii, hn, List.nil_append]
  | two ha hb hn =>
      cases hlead with
      | two _ hbounds =>
          rw [List.cons_append, next_of_bounds (by omega) hshape hbounds hb, hn]
          rfl
      | _ => omega
  | three ha hb hc hlow hhigh hn =>
      cases hlead with
      | three _ hbounds =>
          rw [List.cons_append, next_of_bounds (by omega) hshape hbounds ⟨hb, hlow, hhigh⟩,
            List.cons_append, finish_cons hc, hn]
          rfl
      | _ => omega
  | four ha hb hc hd hlow hhigh hn =>
      cases hlead with
      | four _ hbounds =>
          rw [List.cons_append, next_of_bounds (by omega) hshape hbounds ⟨hb, hlow, hhigh⟩,
            List.cons_append, finish_cons hc, List.cons_append, finish_cons hd, hn]
          rfl
      | _ => omega

theorem finish_eq_some {value count : Nat} {c : Char}
    (h : finish value (count + 1) rest = (some c, more)) :
    ∃ d tail, rest = d :: tail ∧ Continues d ∧
      finish (value * 64 + (d.toNat - 0x80)) count tail = (some c, more) := by
  cases rest with
  | nil => cases h
  | cons d tail =>
      rw [finish] at h
      split at h
      · next hd => exact ⟨d, tail, rfl, continues_iff.mp hd, h⟩
      · cases h

theorem next_eq_some {count : Nat} {low high : UInt8} {allowed : UInt8 → Prop} {c : Char}
    (ha : ¬ a < 0x80) (hshape : shape? a = some (count, low, high))
    (hbounds : Bounds low high allowed) (h : next a rest = (some c, more)) :
    ∃ b tail, rest = b :: tail ∧ allowed b ∧
      finish (leading a count * 64 + (b.toNat - 0x80)) (count - 1) tail = (some c, more) := by
  simp only [next, if_neg ha, hshape] at h
  cases rest with
  | nil => cases h
  | cons b tail =>
      simp only at h
      split at h
      · next hb => exact ⟨b, tail, rfl, (hbounds b).mp hb, h⟩
      · cases h

/-- A character that a decoder takes from octets stood there in its form. -/
theorem form_of_next {c : Char} (h : next a rest = (some c, more)) :
    ∃ n octets, c = Char.ofNat n ∧ Form n (a :: octets) ∧ rest = octets ++ more := by
  by_cases hascii : a < 0x80
  · simp only [next, if_pos hascii, Prod.mk.injEq, Option.some.injEq] at h
    obtain ⟨rfl, rfl⟩ := h
    exact ⟨_, [], rfl, .one (UInt8.lt_iff_toNat_lt.mp hascii) rfl, rfl⟩
  have hlead := lead_shape? a
  generalize hshape : shape? a = shape at hlead
  cases hlead with
  | none =>
      simp only [next, if_neg hascii, hshape] at h
      cases h
  | two ha hbounds =>
      obtain ⟨b, tail, rfl, hb, h⟩ := next_eq_some hascii hshape hbounds h
      simp only [Nat.sub_self, finish_zero, Prod.mk.injEq, Option.some.injEq] at h
      obtain ⟨rfl, rfl⟩ := h
      exact ⟨_, [b], rfl, .two ha hb rfl, rfl⟩
  | three ha hbounds =>
      obtain ⟨b, tail, rfl, ⟨hb, hlow, hhigh⟩, h⟩ := next_eq_some hascii hshape hbounds h
      obtain ⟨c, tail, rfl, hc, h⟩ := finish_eq_some h
      simp only [finish_zero, Prod.mk.injEq, Option.some.injEq] at h
      obtain ⟨rfl, rfl⟩ := h
      exact ⟨_, [b, c], rfl, .three ha hb hc hlow hhigh rfl, rfl⟩
  | four ha hbounds =>
      obtain ⟨b, tail, rfl, ⟨hb, hlow, hhigh⟩, h⟩ := next_eq_some hascii hshape hbounds h
      obtain ⟨c, tail, rfl, hc, h⟩ := finish_eq_some h
      obtain ⟨d, tail, rfl, hd, h⟩ := finish_eq_some h
      simp only [finish_zero, Prod.mk.injEq, Option.some.injEq] at h
      obtain ⟨rfl, rfl⟩ := h
      exact ⟨_, [b, c, d], rfl, .four ha hb hc hd hlow hhigh rfl, rfl⟩

/-! Whole texts. -/

theorem scan_nil (fuel : Nat) : scan fuel [] = [] := by
  cases fuel <;> rfl

/-- Every character is taken from its octets, one after the other. -/
theorem scan_encode {fuel : Nat} {text : List Char}
    (h : (text.flatMap String.utf8EncodeChar).length ≤ fuel) :
    scan fuel (text.flatMap String.utf8EncodeChar) = text.map some := by
  induction text generalizing fuel with
  | nil => exact scan_nil fuel
  | cons c text ih =>
      have hform := form_encodeChar c
      rw [List.flatMap_cons] at h ⊢
      cases hoctets : String.utf8EncodeChar c with
      | nil => rw [hoctets] at hform; cases hform
      | cons a octets =>
          rw [hoctets] at h hform
          cases fuel with
          | zero => simp at h
          | succ fuel =>
              have hrest : (text.flatMap String.utf8EncodeChar).length ≤ fuel := by
                simp only [List.cons_append, List.length_cons, List.length_append] at h
                omega
              rw [List.cons_append, scan, next_of_form hform, Char.ofNat_toNat]
              simp only [ih hrest, List.map_cons]

/-- Octets that are taken for characters throughout are the encoding of these. -/
theorem eq_encode_of_scan {fuel : Nat} {text : List Char} (hfuel : octets.length ≤ fuel)
    (h : scan fuel octets = text.map some) : octets = text.flatMap String.utf8EncodeChar := by
  induction fuel generalizing octets text with
  | zero =>
      obtain rfl : octets = [] := List.length_eq_zero_iff.mp (Nat.le_zero.mp hfuel)
      obtain rfl : text = [] := List.map_eq_nil_iff.mp h.symm
      rfl
  | succ fuel ih =>
      cases octets with
      | nil =>
          obtain rfl : text = [] := List.map_eq_nil_iff.mp (h.symm.trans (scan_nil _))
          rfl
      | cons a rest =>
          cases hnext : next a rest with
          | mk first more =>
              rw [scan, hnext] at h
              obtain ⟨c, text, rfl, rfl, htext⟩ := List.map_eq_cons_iff.mp h.symm
              obtain ⟨n, octets, rfl, hform, rfl⟩ := form_of_next hnext
              rw [List.length_cons, List.length_append] at hfuel
              rw [List.flatMap_cons, hform.encodeChar_eq, List.cons_append,
                ← ih (by omega) htext.symm]

theorem mapM_id_eq_some_iff {found : List (Option Char)} {text : List Char} :
    found.mapM id = some text ↔ found = text.map some := by
  induction found generalizing text with
  | nil => cases text <;> simp
  | cons first found ih =>
      cases first with
      | none => cases text <;> simp
      | some c =>
          simp only [List.mapM_cons, id, Option.bind_eq_bind, Option.bind_some,
            Option.pure_def, Option.bind_eq_some_iff, ih, Option.some.injEq]
          cases text with
          | nil => simp
          | cons d text =>
              simp only [List.map_cons, List.cons.injEq, Option.some.injEq]
              constructor
              · rintro ⟨others, hfound, rfl, rfl⟩
                exact ⟨rfl, hfound⟩
              · rintro ⟨rfl, hfound⟩
                exact ⟨text, hfound, rfl, rfl⟩

/-- Octets are decoded to a text just if they are its encoding. -/
theorem decode?_eq_some_iff {s : String} : decode? octets = some s ↔ octets = encode s := by
  simp only [decode?, Option.map_eq_some_iff, mapM_id_eq_some_iff]
  constructor
  · rintro ⟨text, hscan, rfl⟩
    rw [encode, String.toList_ofList]
    exact eq_encode_of_scan (Nat.le_refl _) hscan
  · rintro rfl
    exact ⟨s.toList, scan_encode (Nat.le_refl _), String.ofList_toList⟩

theorem decodeLossy_encode (s : String) : decodeLossy (encode s) = s := by
  have hscan := scan_encode (Nat.le_refl (s.toList.flatMap String.utf8EncodeChar).length)
  have hkept : ((·.getD '\ufffd') ∘ some : Char → Char) = id := rfl
  rw [decodeLossy, encode, hscan, List.map_map, hkept, List.map_id, String.ofList_toList]

/-- Different texts have different octets. -/
theorem encode_injective {s t : String} (h : encode s = encode t) : s = t := by
  rw [← decodeLossy_encode s, h, decodeLossy_encode]

end ClusterLaunch.Text.Octets
