import ClusterLaunch.Proofs.Digits
import ClusterLaunch.Text.Quoted

/-!
Quoted text, read back. A reader that goes from character to character takes every escape for
the character it stands for, stops at the first quote that is not escaped, and so gives
the text that was quoted, whatever was in it. Nothing that ends a line or controls a
terminal stands in a quoted text.
-/

namespace ClusterLaunch.Text

/-- A character that stays in its line: neither a control character, nor a separator of lines
or of paragraphs. -/
structure Inline (c : Char) : Prop where
  beyond_c0 : 0x20 ≤ c.toNat
  outside_c1 : c.toNat < 0x7f ∨ 0xa0 ≤ c.toNat
  not_separator : c ≠ '\u2028' ∧ c ≠ '\u2029'

theorem inline_iff {c : Char} : Inline c ↔
    0x20 ≤ c.toNat ∧ (c.toNat < 0x7f ∨ 0xa0 ≤ c.toNat) ∧ c ≠ '\u2028' ∧ c ≠ '\u2029' :=
  ⟨fun h => ⟨h.beyond_c0, h.outside_c1, h.not_separator⟩, fun ⟨hc0, hc1, hne⟩ => ⟨hc0, hc1, hne⟩⟩

instance : DecidablePred Inline :=
  fun _ => decidable_of_iff _ inline_iff.symm

namespace Quoted

/-- Where a reader stands behind the opening quote. -/
inductive Place
  | between
  /-- Behind a backslash. -/
  | escape
  /-- Behind a backslash and a `u`. -/
  | opening
  /-- Among the digits of a code point, when those before have the given value. -/
  | digits (value : Nat)

def escaped? : Char → Option Char
  | '0' => some '\x00'
  | 't' => some '\t'
  | 'r' => some '\r'
  | 'n' => some '\n'
  | '"' => some '"'
  | '\\' => some '\\'
  | _ => none

/-- Reads on to the closing quote, behind which nothing may stand. -/
def readFrom : Place → List Char → Option (List Char)
  | _, [] => none
  | .between, c :: rest =>
      if c = '"' then (if rest.isEmpty then some [] else none)
      else if c = '\\' then readFrom .escape rest
      else (readFrom .between rest).map (c :: ·)
  | .escape, c :: rest =>
      if c = 'u' then readFrom .opening rest
      else (escaped? c).bind fun d => (readFrom .between rest).map (d :: ·)
  | .opening, c :: rest => if c = '\x7b' then readFrom (.digits 0) rest else none
  | .digits value, c :: rest =>
      if c = '\x7d' then (readFrom .between rest).map (Char.ofNat value :: ·)
      else (hexValue? c).bind fun d => readFrom (.digits (value * 16 + d)) rest

variable {c letter : Char} {text : List Char}

inductive Form (c : Char) : List Char → Prop
  | letter {letter : Char} : escaped? letter = some c → Form c ['\\', letter]
  | codePoint : Form c ('\\' :: 'u' :: '\x7b' :: numeral 16 c.toNat ++ ['\x7d'])
  | itself : c ≠ '"' → c ≠ '\\' → breaksLine c = false → Form c [c]

theorem form_ofChar (c : Char) : Form c (ofChar c) := by
  unfold ofChar
  -- the six escapes of one letter, then those by code point
  split
  · next h => exact .letter (by rw [h]; rfl)
  split
  · next h => exact .letter (by rw [h]; rfl)
  split
  · next h => exact .letter (by rw [h]; rfl)
  split
  · next h => exact .letter (by rw [h]; rfl)
  split
  · next h => exact .letter (by rw [h]; rfl)
  split
  · next h => exact .letter (by rw [h]; rfl)
  split
  · exact .codePoint
  · next hquote hbackslash hshown =>
      rw [isHidden, Bool.or_eq_true, not_or, Bool.not_eq_true] at hshown
      exact .itself hquote hbackslash hshown.1

theorem letter_of_escaped? (h : escaped? letter = some c) : letter ≠ 'u' ∧ Inline letter := by
  unfold escaped? at h
  split at h
  case h_7 => cases h
  all_goals decide

/-! Quoted texts stay in their line. -/

theorem inline_of_not_breaksLine (h : breaksLine c = false) : Inline c := by
  simp only [breaksLine, Bool.or_eq_false_iff, Bool.and_eq_false_iff, decide_eq_false_iff_not,
    beq_eq_false_iff_ne, Nat.not_lt, Nat.not_le] at h
  obtain ⟨⟨⟨hc0, hc1⟩, hline⟩, hparagraph⟩ := h
  exact ⟨hc0, hc1, hline, hparagraph⟩

theorem Form.inline (h : Form c text) : ∀ d ∈ text, Inline d := by
  cases h with
  | letter h =>
      have hletter := (letter_of_escaped? h).2
      simp only [List.forall_mem_cons, List.not_mem_nil, false_implies, implies_true, and_true]
      exact ⟨by decide, hletter⟩
  | codePoint =>
      have hdigit : ∀ d < 16, Inline (digitChar d) := by decide
      have hnumeral : ∀ d ∈ numeral 16 c.toNat, Inline d := by
        intro d hd
        obtain ⟨value, hvalue, rfl⟩ := exists_of_mem_numeral (by decide) hd
        exact hdigit value hvalue
      simp only [List.cons_append, List.forall_mem_cons, List.forall_mem_append,
        List.not_mem_nil, false_implies, implies_true, and_true]
      exact ⟨by decide, by decide, by decide, hnumeral, by decide⟩
  | itself _ _ h => exact List.forall_mem_singleton.mpr (inline_of_not_breaksLine h)

theorem inline_body (text : List Char) : ∀ d ∈ body text, Inline d := by
  intro d hd
  obtain ⟨c, -, hc⟩ := List.mem_flatMap.mp hd
  exact (form_ofChar c).inline d hc

/-! Quoted texts are read back. -/

theorem readFrom_digitChar {d : Nat} (hd : d < 16) (value : Nat) (rest : List Char) :
    readFrom (.digits value) (digitChar d :: rest) =
      readFrom (.digits (value * 16 + d)) rest := by
  have hall : ∀ d < 16, digitChar d ≠ '\x7d' := by decide
  rw [readFrom, if_neg (hall d hd), hexValue?_digitChar hd, Option.bind_some]

/-- To read the digits that were put in front is to go on from their number. -/
theorem readFrom_digitsOnto {fuel n : Nat} (hfuel : n < fuel) (rest : List Char) :
    readFrom (.digits 0) (digitsOnto 16 fuel n rest) = readFrom (.digits n) rest := by
  induction fuel generalizing n rest with
  | zero => omega
  | succ fuel ih =>
      unfold digitsOnto
      split
      next hlast => rw [readFrom_digitChar hlast, Nat.zero_mul, Nat.zero_add]
      next hmore =>
        rw [ih (by omega), readFrom_digitChar (Nat.mod_lt n (by decide)), Nat.div_add_mod']

theorem readFrom_numeral (c : Char) (rest : List Char) :
    readFrom (.digits 0) (numeral 16 c.toNat ++ '\x7d' :: rest) =
      (readFrom .between rest).map (c :: ·) := by
  rw [numeral, digitsOnto_append, readFrom_digitsOnto (Nat.lt_succ_self _), List.nil_append,
    readFrom, if_pos rfl, Char.ofNat_toNat]

/-- Every form in which a character is quoted is read as the character. -/
theorem Form.readFrom_eq (h : Form c text) (rest : List Char) :
    readFrom .between (text ++ rest) = (readFrom .between rest).map (c :: ·) := by
  cases h with
  | letter h =>
      have hu := (letter_of_escaped? h).1
      simp [readFrom, hu, h]
  | codePoint =>
      rw [← readFrom_numeral]
      simp [readFrom]
  | itself hquote hbackslash _ => simp [readFrom, hquote, hbackslash]

theorem readFrom_body (text : List Char) : readFrom .between (body text ++ ['"']) = some text := by
  induction text with
  | nil => rfl
  | cons c text ih =>
      rw [body, List.flatMap_cons, List.append_assoc, (form_ofChar c).readFrom_eq, ← body, ih,
        Option.map_some]

end Quoted

/-- Reads a text that is one quoted text from end to end. -/
def unquoted? (s : String) : Option String :=
  match s.toList with
  | '"' :: rest => (Quoted.readFrom .between rest).map String.ofList
  | _ => none

theorem toList_quoted (s : String) : (quoted s).toList = '"' :: (Quoted.body s.toList ++ ['"']) := by
  rw [quoted, String.toList_ofList, List.cons_append]

@[simp] theorem unquoted?_quoted (s : String) : unquoted? (quoted s) = some s := by
  simp only [unquoted?, toList_quoted, Quoted.readFrom_body, Option.map_some, String.ofList_toList]

/-- Nothing in a quoted text ends its line or controls a terminal. -/
theorem inline_quoted (s : String) : ∀ c ∈ (quoted s).toList, Inline c := by
  rw [toList_quoted, List.forall_mem_cons, List.forall_mem_append]
  exact ⟨by decide, Quoted.inline_body s.toList, List.forall_mem_singleton.mpr (by decide)⟩

end ClusterLaunch.Text
