import ClusterLaunch.CaptureName
import ClusterLaunch.Proofs.Moment
import Mathlib.Data.List.Forall2

/-!
Names of captured outputs. Between lead and ending stand a stamp and a tag of fixed widths, so
that names sort as the moments they were made at, whatever the tags, and that moment and tag
are read back from a name.
-/

namespace ClusterLaunch

namespace Moment

/-- The moment of an instant that is so many nanoseconds after the beginning of the year zero:
parts of a microsecond are left off. -/
def ofNanos (nanos : Nat) : Moment :=
  ⟨nanos / 1000⟩

theorem ofNanos_lt {nanos : Nat} (h : nanos < horizon * 1000) : (ofNanos nanos).micros < horizon :=
  Nat.div_lt_of_lt_mul (Nat.mul_comm .. ▸ h)

/-- Of different moments, that of the earlier instant is the smaller. -/
theorem micros_lt_of_ofNanos_ne {a b : Nat} (h : a < b) (hne : ofNanos a ≠ ofNanos b) :
    (ofNanos a).micros < (ofNanos b).micros := by
  have hle : a / 1000 ≤ b / 1000 := Nat.div_le_div_right (Nat.le_of_lt h)
  exact Nat.lt_of_le_of_ne hle fun heq => hne (congrArg Moment.mk heq)

end Moment

namespace CaptureName

/-! The shape of a name. -/

/-- The characters of the text are, one by one, as they are to be. -/
def Fits (shape : List (Char → Bool)) (text : List Char) : Prop :=
  List.Forall₂ (fun allowed c => allowed c = true) shape text

def isTagDigit (c : Char) : Bool :=
  Text.isDigit c || ('a' ≤ c && c ≤ 'f')

/-- What stands between lead and ending: eight digits and six, with a dash between them, then a
dot and six more digits, then a dash and eight digits of a tag. -/
def shape : List (Char → Bool) :=
  .replicate 8 Text.isDigit ++ (· == '-') :: .replicate 6 Text.isDigit ++
    (· == '.') :: .replicate 6 Text.isDigit ++ (· == '-') :: .replicate 8 isTagDigit

theorem Fits.append {front rest : List (Char → Bool)} {x y : List Char} (hx : Fits front x)
    (hy : Fits rest y) : Fits (front ++ rest) (x ++ y) :=
  List.rel_append hx hy

theorem fits_replicate {n : Nat} {allowed : Char → Bool} {text : List Char}
    (hlength : text.length = n) (h : ∀ c ∈ text, allowed c = true) :
    Fits (.replicate n allowed) text := by
  subst hlength
  induction text with
  | nil => exact .nil
  | cons c text ih =>
      obtain ⟨hc, htext⟩ := List.forall_mem_cons.mp h
      exact .cons hc (ih htext)

theorem fits_padded (width n : Nat) : Fits (.replicate width Text.isDigit) (Text.padded 10 width n) :=
  fits_replicate (Text.padded_length 10 width n) fun _ => Text.isDigit_of_mem_padded

theorem fits_date (day : Nat) : Fits (.replicate 8 Text.isDigit) (Moment.date day) := by
  rw [Moment.date_eq]
  exact ((fits_padded 4 _).append (fits_padded 2 _)).append (fits_padded 2 _)

theorem fits_clock (second : Nat) : Fits (.replicate 6 Text.isDigit) (Moment.clock second) :=
  ((fits_padded 2 _).append (fits_padded 2 _)).append (fits_padded 2 _)

theorem fits_digits (tag : Tag) : Fits (.replicate 8 isTagDigit) tag.digits := by
  refine fits_replicate tag.digits_length fun c hc => ?_
  obtain ⟨d, hd, rfl⟩ := Text.exists_of_mem_padded (by decide) hc
  have hall : ∀ d < 16, isTagDigit (Text.digitChar d) = true := by decide
  exact hall d hd

theorem fits_shape (m : Moment) (tag : Tag) : Fits shape (m.stamp ++ '-' :: tag.digits) :=
  (((fits_date _).append (.cons rfl (fits_clock _))).append (.cons rfl (fits_padded 6 _))).append
    (.cons rfl (fits_digits tag))

theorem shape_length : shape.length = 31 := by decide

/-! Reading a name. -/

def momentIn (lead name : String) : Moment :=
  .ofStamp ((name.toList.drop lead.length).take 22)

def tagIn? (lead name : String) : Option Tag :=
  (Text.readNumeral? 16 ((name.toList.drop (lead.length + 23)).take 8)).map fun n => ⟨.ofNat n⟩

variable {lead ending : String} {m n : Moment} {s t : Tag}

theorem toList_make (lead ending : String) (m : Moment) (tag : Tag) :
    (make lead ending m tag).toList =
      lead.toList ++ (m.stamp ++ '-' :: tag.digits ++ ending.toList) := by
  simp only [make, String.toList_append, String.toList_ofList, List.append_assoc]

theorem drop_make (lead ending : String) (m : Moment) (tag : Tag) :
    (make lead ending m tag).toList.drop lead.length =
      m.stamp ++ '-' :: tag.digits ++ ending.toList := by
  rw [toList_make, List.drop_left' String.length_toList]

theorem momentIn_make (hm : m.micros < Moment.horizon) :
    momentIn lead (make lead ending m t) = m := by
  rw [momentIn, drop_make, List.append_assoc, List.take_left' m.stamp_length,
    Moment.ofStamp_stamp hm]

theorem readNumeral?_digits (tag : Tag) : Text.readNumeral? 16 tag.digits = some tag.bits.toNat := by
  have hfilled : tag.digits ≠ [] := List.ne_nil_of_length_eq_add_one tag.digits_length
  have hread : Text.readOn 16 0 (tag.digits ++ []) =
      Text.readOn 16 (0 * 16 ^ 8 + tag.bits.toNat % 16 ^ 8) [] :=
    Text.readOn_padded (by decide) (by decide) 8 tag.bits.toNat 0 []
  have hbits : tag.bits.toNat % 16 ^ 8 = tag.bits.toNat := Nat.mod_eq_of_lt tag.bits.toNat_lt
  rw [List.append_nil, Nat.zero_mul, Nat.zero_add, hbits] at hread
  rw [Text.readNumeral?, if_neg (by simpa using hfilled)]
  exact hread

theorem tagIn?_make : tagIn? lead (make lead ending m t) = some t := by
  have hstamp : (m.stamp ++ ['-']).length = 23 := by rw [List.length_append, m.stamp_length]; rfl
  have htag : (make lead ending m t).toList.drop (lead.length + 23) = t.digits ++ ending.toList := by
    rw [← List.drop_drop, drop_make, List.append_assoc, List.cons_append,
      ← List.singleton_append, ← List.append_assoc, List.drop_left' hstamp]
  rw [tagIn?, htag, List.take_left' t.digits_length, readNumeral?_digits, Option.map_some,
    UInt32.ofNat_toNat]

/-! The order of names. -/

theorem make_lt (hn : n.micros < Moment.horizon) (h : m.micros < n.micros) :
    make lead ending m s < make lead ending n t := by
  rw [String.lt_iff, toList_make, toList_make, List.append_assoc, List.append_assoc]
  refine List.append_left_lt (Text.append_lt_append ?_ (.inl (Moment.stamp_lt hn h)))
  rw [Moment.stamp_length, Moment.stamp_length]

/-- Names of one moment are the same just if their tags are. -/
theorem make_eq_iff : make lead ending m s = make lead ending m t ↔ s.digits = t.digits := by
  constructor
  · intro h
    have htags := congrArg (tagIn? lead) h
    rw [tagIn?_make, tagIn?_make] at htags
    rw [Option.some.inj htags]
  · intro h
    rw [make, make, h]

/-- Names made at two instants before the year ten thousand sort as these do, unless they are
made in the same microsecond; then the tags tell them apart. Every name has one shape, and its
moment and its tag are read back from it. -/
theorem make_sorted_and_readable (lead ending : String) {a b : Nat}
    (ha : a < Moment.horizon * 1000) (hb : b < Moment.horizon * 1000) (s t : Tag) :
    (a < b → Moment.ofNanos a ≠ .ofNanos b →
      make lead ending (.ofNanos a) s < make lead ending (.ofNanos b) t) ∧
    (Moment.ofNanos a = .ofNanos b →
      (make lead ending (.ofNanos a) s = make lead ending (.ofNanos b) t ↔
        s.digits = t.digits)) ∧
    (∃ middle, make lead ending (.ofNanos a) s = lead ++ String.ofList middle ++ ending ∧
      middle.length = 31 ∧ Fits shape middle) ∧
    momentIn lead (make lead ending (.ofNanos a) s) = .ofNanos a ∧
    tagIn? lead (make lead ending (.ofNanos a) s) = some s := by
  refine ⟨fun h hne => make_lt (Moment.ofNanos_lt hb) (Moment.micros_lt_of_ofNanos_ne h hne),
    fun h => h ▸ make_eq_iff, ⟨_, rfl, ?_, fits_shape _ s⟩, momentIn_make (Moment.ofNanos_lt ha),
    tagIn?_make⟩
  exact (fits_shape (.ofNanos a) s).length_eq.symm.trans shape_length

/-- The first instant after the leap day of the year two thousand, in nanoseconds. -/
def afterLeapDay : Nat :=
  Moment.ofDate 2000 3 1 * 86400 * 1000000000

theorem make_sorted_and_readable_after_leap_day :
    make "run_" ".out" (.ofNanos (afterLeapDay - 1)) ⟨4294967295⟩ <
      make "run_" ".out" (.ofNanos afterLeapDay) ⟨0⟩ ∧
    make "run_" ".out" (.ofNanos afterLeapDay) ⟨0⟩ ≠
      make "run_" ".out" (.ofNanos (afterLeapDay + 999)) ⟨1⟩ ∧
    momentIn "run_" (make "run_" ".out" (.ofNanos afterLeapDay) ⟨0⟩) = .ofNanos afterLeapDay := by
  have hlt : afterLeapDay + 999 < Moment.horizon * 1000 := by decide
  have hday := make_sorted_and_readable "run_" ".out" (a := afterLeapDay - 1) (b := afterLeapDay)
    (by decide) (by decide) ⟨4294967295⟩ ⟨0⟩
  have hmicro := make_sorted_and_readable "run_" ".out" (a := afterLeapDay)
    (b := afterLeapDay + 999) (by decide) hlt ⟨0⟩ ⟨1⟩
  have hdigits : (⟨0⟩ : Tag).digits ≠ (⟨1⟩ : Tag).digits := by decide
  exact ⟨hday.1 (by decide) (by decide), fun h => hdigits ((hmicro.2.1 (by decide)).mp h),
    hmicro.2.2.2.1⟩

end CaptureName

end ClusterLaunch
