import ClusterLaunch.Proofs.Digits
import ClusterLaunch.Proofs.Octets
import ClusterLaunch.Shell.Octets

/-!
Texts of the shell read back: the octets of a text show that text, a number that is written
out is read as that number, and lines that are put one after the other are found again.
-/

namespace ClusterLaunch.Shell

theorem toNat_ofNat_of_lt {n : Nat} (h : n < 256) : (Char.ofNat n).toNat = n := by
  have hvalid : n.isValidChar := .inl (by omega)
  rw [Char.toNat, Char.ofNat, dif_pos hvalid]
  rfl

theorem rawOctets_octets (s : String) : rawOctets (octets s) = Text.Octets.encode s := by
  have hkept (b : UInt8) : UInt8.ofNat (Char.ofNat b.toNat).toNat = b := by
    rw [toNat_ofNat_of_lt b.toNat_lt, UInt8.ofNat_toNat]
  rw [rawOctets, octets, List.map_map]
  exact (List.map_congr_left fun b _ => hkept b).trans (List.map_id _)

/-- The octets of a text show this text. -/
@[simp] theorem shown_octets (s : String) : shown (octets s) = s := by
  rw [shown, rawOctets_octets, Text.Octets.decodeLossy_encode]

theorem octets_injective {s t : String} (h : octets s = octets t) : s = t := by
  rw [← shown_octets s, h, shown_octets]

theorem octets_append (s t : String) : octets (s ++ t) = octets s ++ octets t := by
  simp only [octets, Text.Octets.encode, String.toList_append, List.flatMap_append, List.map_append]

theorem readNumeral?_numeral (n : Nat) : Text.readNumeral? 10 (numeral n) = some n :=
  Text.readNumeral?_numeral (by decide) (by decide) n

/-- A number that is written out is read as this number. -/
theorem readSigned?_signed (n : Int) : readSigned? (signed n) = some n := by
  rw [signed]
  split
  · next hneg =>
      have hread : readSigned? ('-' :: numeral n.natAbs) = some (-(n.natAbs : Int)) := by
        simp only [readSigned?, readNumeral?_numeral]
        rfl
      rw [hread, Int.ofNat_natAbs_of_nonpos (by omega), Int.neg_neg]
  · next hpos =>
      obtain ⟨c, more, hnumeral, -⟩ := Text.exists_numeral_eq n.natAbs
      have hread := readNumeral?_numeral n.natAbs
      have hdigit : Text.isDigit c = true := by
        refine Text.isDigit_of_mem_numeral (n := n.natAbs) ?_
        rw [hnumeral]
        exact List.mem_cons_self
      have hsign : c ≠ '-' ∧ c ≠ '+' := by
        constructor <;> rintro rfl <;> exact absurd hdigit (by decide)
      rw [numeral, hnumeral] at hread ⊢
      have hplain : readSigned? (c :: more) = (Text.readNumeral? 10 (c :: more)).map Int.ofNat := by
        unfold readSigned?
        split
        · next heq => exact absurd (List.cons.inj heq).1 hsign.1
        · next heq => exact absurd (List.cons.inj heq).1 hsign.2
        · rfl
      rw [hplain, hread, Option.map_some, Int.ofNat_eq_natCast, Int.natAbs_of_nonneg (by omega)]

/-! Lines. -/

variable {text first : List Char} {lines others : List (List Char)}

theorem pieces_cons {c : Char} (hc : c ≠ '\n') (h : Text.pieces (· == '\n') text = first :: others) :
    Text.pieces (· == '\n') (c :: text) = (c :: first) :: others := by
  obtain ⟨hfirst, hothers⟩ := List.cons.inj h
  have hnot : (c == '\n') = false := beq_false_of_ne hc
  simp only [Text.pieces, Text.cut, hnot, Bool.false_eq_true, if_false, hfirst, hothers]

/-- A text is made of the lines that have ended in it and a last one that has not. -/
theorem exists_pieces_eq (text : List Char) :
    ∃ ended last, Text.pieces (· == '\n') text = ended ++ [last] ∧ text = unlines ended ++ last ∧
      '\n' ∉ last := by
  induction text with
  | nil => exact ⟨[], [], rfl, rfl, List.not_mem_nil⟩
  | cons c text ih =>
      obtain ⟨ended, last, hpieces, htext, hlast⟩ := ih
      by_cases hc : c = '\n'
      · subst hc
        refine ⟨[] :: ended, last, ?_, congrArg _ htext, hlast⟩
        rw [← List.nil_append ('\n' :: text), Text.pieces_append rfl, hpieces]
        rfl
      · cases ended with
        | nil =>
            refine ⟨[], c :: last, pieces_cons hc hpieces, congrArg _ htext, ?_⟩
            exact fun hmem => (List.mem_cons.mp hmem).elim (hc ·.symm) hlast
        | cons line ended => exact ⟨(c :: line) :: ended, last, pieces_cons hc hpieces,
            congrArg _ htext, hlast⟩

theorem linesOf_of_pieces {ended : List (List Char)} {last : List Char}
    (h : Text.pieces (· == '\n') text = ended ++ [last]) :
    linesOf text = if last = [] then ended else ended ++ [last] := by
  rw [linesOf, h, List.reverse_append, List.reverse_singleton, List.singleton_append]
  cases last with
  | nil => exact List.reverse_reverse ended
  | cons => rfl

/-- The lines of a text make up the text, which gets a line feed at its end if it had none. -/
theorem unlines_linesOf (text : List Char) :
    unlines (linesOf text) =
      if text = [] ∨ text.getLast? = some '\n' then text else text ++ ['\n'] := by
  obtain ⟨ended, last, hpieces, htext, hlast⟩ := exists_pieces_eq text
  have happend (a b : List (List Char)) : unlines (a ++ b) = unlines a ++ unlines b :=
    List.flatMap_append
  rw [linesOf_of_pieces hpieces, htext]
  cases last with
  | nil =>
      rw [if_pos rfl, List.append_nil, if_pos]
      rcases List.eq_nil_or_concat ended with rfl | ⟨before, line, rfl⟩
      · exact .inl rfl
      · right
        rw [List.concat_eq_append, happend]
        simp [unlines]
  | cons c rest =>
      rw [if_neg (List.cons_ne_nil c rest), if_neg, happend, List.append_assoc]
      · simp [unlines]
      · rintro (hnil | hfeed)
        · cases (List.append_eq_nil_iff.mp hnil).2
        · rw [List.getLast?_append, List.getLast?_cons, Option.some_or, ← List.getLast?_cons] at hfeed
          exact hlast (List.mem_of_getLast? hfeed)

/-- Lines that are put one after the other are the lines of what they make up. -/
theorem linesOf_unlines (h : ∀ line ∈ lines, '\n' ∉ line) : linesOf (unlines lines) = lines := by
  have hpieces : Text.pieces (· == '\n') (unlines lines) = lines ++ [[]] := by
    induction lines with
    | nil => rfl
    | cons line lines ih =>
        obtain ⟨hline, hlines⟩ := List.forall_mem_cons.mp h
        have honly : Text.pieces (· == '\n') line = [line] :=
          Text.pieces_of_none fun c hc => beq_false_of_ne fun heq => hline (heq ▸ hc)
        rw [unlines, List.flatMap_cons, List.append_assoc, List.singleton_append,
          Text.pieces_append rfl, honly, ← unlines, ih hlines]
        rfl
  rw [linesOf_of_pieces hpieces, if_pos rfl]

/-! Order. -/

theorem precedes_iff {a b : List Char} : precedes a b = true ↔ a < b := by
  have hless : (fun x y : Char => Nat.blt x.toNat y.toNat = true) = (· < ·) := by
    funext x y
    rw [Nat.blt_eq, eq_iff_iff]
    exact UInt32.lt_iff_toNat_lt.symm
  rw [precedes, List.lex_eq_true_iff_lex, hless]
  exact Iff.rfl

/-- Texts are put in order, and none is added or lost. -/
theorem sorted_spec (texts : List (List Char)) :
    (sorted texts).Perm texts ∧ (sorted texts).Pairwise fun a b => ¬ b < a := by
  let le (a b : List Char) : Bool := !precedes b a
  have hle {a b : List Char} : le a b = true ↔ ¬ b < a := by
    rw [Bool.not_eq_true', ← Bool.not_eq_true, precedes_iff]
  refine ⟨List.mergeSort_perm texts le, ?_⟩
  have htotal (a b : List Char) : (le a b || le b a) = true := by
    rw [Bool.or_eq_true, hle, hle]
    exact List.le_total a b
  have htrans (a b c : List Char) (hab : le a b = true) (hbc : le b c = true) : le a c = true :=
    hle.mpr (List.le_trans (hle.mp hab) (hle.mp hbc))
  exact (List.pairwise_mergeSort htrans htotal texts).imp hle.mp

end ClusterLaunch.Shell
