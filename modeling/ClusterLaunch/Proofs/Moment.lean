import ClusterLaunch.Moment
import ClusterLaunch.Proofs.Digits
import Mathlib.Order.Monotone.Basic

/-!
Dates and stamps. A day is in the year that it is counted from, and the date of a day gives
the day back. Days sort as their dates do, hence moments as their stamps, as long as four
digits are enough for the year.
-/

namespace ClusterLaunch.Moment

/-- Numbers with the same quotient are in the order of their remainders. -/
theorem mod_lt_mod {a b n : Nat} (hquotient : a / n = b / n) (h : a < b) : a % n < b % n := by
  have ha := Nat.div_add_mod a n
  have hb := Nat.div_add_mod b n
  rw [hquotient] at ha
  omega

/-! Years. -/

theorem isLeap_iff (year : Nat) :
    isLeap year = true ↔ year % 4 = 0 ∧ (year % 100 ≠ 0 ∨ year % 400 = 0) := by
  simp [isLeap]

theorem daysBefore_succ (year : Nat) :
    daysBefore (year + 1) = daysBefore year + if isLeap year then 366 else 365 := by
  have hfour : (year + 1 + 3) / 4 = (year + 3) / 4 + if year % 4 = 0 then 1 else 0 := by
    split <;> omega
  have hhundred : (year + 1 + 99) / 100 = (year + 99) / 100 + if year % 100 = 0 then 1 else 0 := by
    split <;> omega
  have hgreat : (year + 1 + 399) / 400 = (year + 399) / 400 + if year % 400 = 0 then 1 else 0 := by
    split <;> omega
  have hle : (year + 99) / 100 ≤ 365 * year + (year + 3) / 4 := by omega
  unfold daysBefore
  rw [hfour, hhundred, hgreat]
  simp only [isLeap_iff]
  -- the quotients are left as they are: only whether the year divides matters from here on
  generalize (year + 3) / 4 = fours at *
  generalize (year + 99) / 100 = hundreds at *
  generalize (year + 399) / 400 = greats at *
  clear hfour hhundred hgreat
  split_ifs <;> omega

theorem daysBefore_strictMono : StrictMono daysBefore := by
  refine strictMono_nat_of_lt_succ fun year => ?_
  rw [daysBefore_succ]
  split <;> omega

/-- The days before a year are close to its share of the days in four hundred years. -/
theorem daysBefore_near (year : Nat) :
    146097 * year ≤ 400 * daysBefore year + 396 ∧ 400 * daysBefore year ≤ 146097 * year + 699 := by
  unfold daysBefore
  omega

/-- A day is in its year: not before it, and not after it. -/
theorem yearOf_bracket (day : Nat) :
    daysBefore (yearOf day) ≤ day ∧ day < daysBefore (yearOf day + 1) := by
  have hquotient : 146097 * (day * 400 / 146097) ≤ 400 * day ∧
      400 * day < 146097 * (day * 400 / 146097 + 1) := by omega
  -- the share of four hundred years is off by one year at most, either way
  unfold yearOf
  generalize day * 400 / 146097 = near at *
  dsimp only
  split
  · next hle =>
      have hnear := daysBefore_near (near + 1 + 1)
      exact ⟨hle, by omega⟩
  · next hlt =>
      split
      · next hle => exact ⟨hle, Nat.lt_of_not_le hlt⟩
      · next hbelow =>
          have hpos : near ≠ 0 := by
            rintro rfl
            exact hbelow (Nat.zero_le day)
          have hnear := daysBefore_near (near - 1)
          rw [Nat.sub_add_cancel (Nat.pos_of_ne_zero hpos)]
          exact ⟨by omega, Nat.lt_of_not_le hbelow⟩

theorem yearOf_mono {a b : Nat} (h : a ≤ b) : yearOf a ≤ yearOf b := by
  have hlt : daysBefore (yearOf a) < daysBefore (yearOf b + 1) :=
    ((yearOf_bracket a).1.trans h).trans_lt (yearOf_bracket b).2
  exact Nat.le_of_lt_succ (daysBefore_strictMono.lt_iff_lt.mp hlt)

theorem yearOf_lt {day year : Nat} (h : day < daysBefore year) : yearOf day < year :=
  daysBefore_strictMono.lt_iff_lt.mp ((yearOf_bracket day).1.trans_lt h)

/-! Months. -/

theorem le_monthAndDay (month : Nat) (lengths : List Nat) (day : Nat) :
    month ≤ (monthAndDay month lengths day).1 := by
  induction lengths generalizing month day with
  | nil => exact le_rfl
  | cons length rest ih =>
      rw [monthAndDay]
      split
      · exact le_rfl
      · exact (Nat.le_succ month).trans (ih (month + 1) (day - length))

/-- Days in months that are long enough for them are in one of these, and not beyond its end. -/
theorem monthAndDay_le (month : Nat) {lengths : List Nat} {day bound : Nat}
    (hday : day < lengths.sum) (hbound : ∀ n ∈ lengths, n ≤ bound) :
    (monthAndDay month lengths day).1 < month + lengths.length ∧
      (monthAndDay month lengths day).2 ≤ bound := by
  induction lengths generalizing month day with
  | nil => exact absurd hday (Nat.not_lt_zero day)
  | cons length rest ih =>
      rw [List.sum_cons] at hday
      obtain ⟨hlength, hrest⟩ := List.forall_mem_cons.mp hbound
      rw [monthAndDay, List.length_cons]
      split
      · next hlt => exact ⟨by omega, hlt.trans_le hlength⟩
      · have hlater : day - length < rest.sum := by omega
        obtain ⟨hmonth, hle⟩ := ih (month + 1) hlater hrest
        exact ⟨by omega, hle⟩

/-- A later day is in a later month, or later in the same one. -/
theorem monthAndDay_lt (month : Nat) (lengths : List Nat) {a b : Nat} (h : a < b) :
    (monthAndDay month lengths a).1 < (monthAndDay month lengths b).1 ∨
      (monthAndDay month lengths a).1 = (monthAndDay month lengths b).1 ∧
        (monthAndDay month lengths a).2 < (monthAndDay month lengths b).2 := by
  induction lengths generalizing month a b with
  | nil => exact .inr ⟨rfl, Nat.succ_lt_succ h⟩
  | cons length rest ih =>
      rw [monthAndDay, monthAndDay]
      by_cases hb : b < length
      · rw [if_pos hb, if_pos (h.trans hb)]
        exact .inr ⟨rfl, Nat.succ_lt_succ h⟩
      · rw [if_neg hb]
        split
        · exact .inl (le_monthAndDay (month + 1) rest (b - length))
        · have hlater : a - length < b - length := by omega
          exact ih (month + 1) hlater

/-- The months before that of a day, and the days before it in its own, are the days before it. -/
theorem sum_monthAndDay (month : Nat) (lengths : List Nat) (day : Nat) :
    (lengths.take ((monthAndDay month lengths day).1 - month)).sum +
      ((monthAndDay month lengths day).2 - 1) = day := by
  induction lengths generalizing month day with
  | nil => simp [monthAndDay]
  | cons length rest ih =>
      rw [monthAndDay]
      split
      · simp
      · have hle := le_monthAndDay (month + 1) rest (day - length)
        have hlater := ih (month + 1) (day - length)
        have hfirst : (monthAndDay (month + 1) rest (day - length)).1 - month =
            (monthAndDay (month + 1) rest (day - length)).1 - (month + 1) + 1 := by omega
        rw [hfirst, List.take_succ_cons, List.sum_cons]
        omega

/-! Dates. -/

def inYear (day : Nat) : Nat × Nat :=
  monthAndDay 1 (monthLengths (isLeap (yearOf day))) (day - daysBefore (yearOf day))

theorem date_eq (day : Nat) :
    date day = Text.padded 10 4 (yearOf day) ++ Text.padded 10 2 (inYear day).1 ++
      Text.padded 10 2 (inYear day).2 := rfl

theorem sum_monthLengths (leap : Bool) : (monthLengths leap).sum = if leap then 366 else 365 := by
  cases leap <;> rfl

theorem inYear_lt (day : Nat) : (inYear day).1 < 13 ∧ (inYear day).2 < 32 := by
  have hbracket := yearOf_bracket day
  have hday : day - daysBefore (yearOf day) < (monthLengths (isLeap (yearOf day))).sum := by
    rw [daysBefore_succ] at hbracket
    rw [sum_monthLengths]
    omega
  have hlengths : ∀ leap, ∀ n ∈ monthLengths leap, n ≤ 31 := by decide
  have hle := monthAndDay_le 1 hday (hlengths _)
  exact ⟨hle.1, Nat.lt_succ_of_le hle.2⟩

def ofDate (year month inMonth : Nat) : Nat :=
  daysBefore year + ((monthLengths (isLeap year)).take (month - 1)).sum + (inMonth - 1)

/-- Every day is that of its date. -/
theorem ofDate_inYear (day : Nat) : ofDate (yearOf day) (inYear day).1 (inYear day).2 = day := by
  have hsum : ((monthLengths (isLeap (yearOf day))).take ((inYear day).1 - 1)).sum +
      ((inYear day).2 - 1) = day - daysBefore (yearOf day) := sum_monthAndDay _ _ _
  rw [ofDate, Nat.add_assoc, hsum, Nat.add_sub_cancel' (yearOf_bracket day).1]

theorem date_lt {a b : Nat} (hb : b < daysBefore 10000) (h : a < b) : date a < date b := by
  -- the first of year, month and day that differs decides
  have hbounds := inYear_lt b
  rw [date_eq, date_eq, List.append_assoc, List.append_assoc]
  refine Text.append_lt_append (by simp only [Text.padded_length]) ?_
  rcases Nat.lt_or_eq_of_le (yearOf_mono (Nat.le_of_lt h)) with hyear | hyear
  · exact .inl (Text.padded_lt_padded (by decide) (yearOf_lt hb) hyear)
  refine .inr ⟨by rw [hyear], Text.append_lt_append (by simp only [Text.padded_length]) ?_⟩
  have hlater : a - daysBefore (yearOf b) < b - daysBefore (yearOf b) := by
    have hle := (yearOf_bracket a).1
    rw [hyear] at hle
    omega
  rw [inYear, inYear, hyear]
  rcases monthAndDay_lt 1 (monthLengths (isLeap (yearOf b))) hlater with hmonth | ⟨hmonth, hday⟩
  · exact .inl (Text.padded_lt_padded (by decide) (hbounds.1.trans (by decide)) hmonth)
  · exact .inr ⟨by rw [hmonth],
      Text.padded_lt_padded (by decide) (hbounds.2.trans (by decide)) hday⟩

theorem date_length (day : Nat) : (date day).length = 8 := by
  simp only [date_eq, List.length_append, Text.padded_length]

/-! Times of day. -/

theorem clock_length (second : Nat) : (clock second).length = 6 := by
  simp only [clock, List.length_append, Text.padded_length]

theorem clock_lt {a b : Nat} (hb : b < secondsPerDay) (h : a < b) : clock a < clock b := by
  have hday : secondsPerDay = 86400 := rfl
  rw [clock, clock, List.append_assoc, List.append_assoc]
  refine Text.append_lt_append (by simp only [Text.padded_length]) ?_
  rcases Nat.lt_or_eq_of_le (Nat.div_le_div_right (c := 3600) (Nat.le_of_lt h)) with hhour | hhour
  · exact .inl (Text.padded_lt_padded (by decide) (by omega) hhour)
  refine .inr ⟨by rw [hhour], Text.append_lt_append (by simp only [Text.padded_length]) ?_⟩
  have hle : a / 60 % 60 ≤ b / 60 % 60 := by omega
  rcases Nat.lt_or_eq_of_le hle with hminute | hminute
  · exact .inl (Text.padded_lt_padded (by decide) (by omega) hminute)
  · have hsecond : a % 60 < b % 60 := by omega
    exact .inr ⟨by rw [hminute], Text.padded_lt_padded (by decide) (by omega) hsecond⟩

/-! Stamps. -/

/-- The number of microseconds before the year ten thousand. -/
def horizon : Nat :=
  daysBefore 10000 * secondsPerDay * microsPerSecond

theorem stamp_length (m : Moment) : m.stamp.length = 22 := by
  simp only [stamp, List.length_append, List.length_cons, date_length, clock_length,
    Text.padded_length]

/-- Before the year ten thousand, four digits are enough for the year. -/
theorem day_lt {m : Moment} (h : m.micros < horizon) :
    m.micros / microsPerSecond / secondsPerDay < daysBefore 10000 :=
  Nat.div_lt_of_lt_mul (Nat.div_lt_of_lt_mul (by
    rwa [horizon, Nat.mul_comm, Nat.mul_comm (daysBefore 10000)] at h))

/-- Stamps sort as the moments do. -/
theorem stamp_lt {a b : Moment} (hb : b.micros < horizon) (h : a.micros < b.micros) :
    a.stamp < b.stamp := by
  have hle : a.micros / microsPerSecond ≤ b.micros / microsPerSecond :=
    Nat.div_le_div_right (Nat.le_of_lt h)
  rw [stamp, stamp, List.append_assoc, List.append_assoc]
  refine Text.append_lt_append (by simp only [date_length]) ?_
  rcases Nat.lt_or_eq_of_le (Nat.div_le_div_right (c := secondsPerDay) hle) with hday | hday
  · exact .inl (date_lt (day_lt hb) hday)
  refine .inr ⟨by rw [hday], List.cons_lt_cons_iff.mpr (.inr ⟨rfl, ?_⟩)⟩
  refine Text.append_lt_append (by simp only [clock_length]) ?_
  rcases Nat.lt_or_eq_of_le hle with hsecond | hsecond
  · have hclock := mod_lt_mod hday hsecond
    exact .inl (clock_lt (Nat.mod_lt _ (by decide)) hclock)
  · have hmicro := mod_lt_mod hsecond h
    exact .inr ⟨by rw [hsecond], List.cons_lt_cons_iff.mpr
      (.inr ⟨rfl, Text.padded_lt_padded (by decide) (Nat.mod_lt _ (by decide)) hmicro⟩)⟩

def ofStamp (text : List Char) : Moment :=
  let month := text.drop 4
  let inMonth := month.drop 2
  let hour := (inMonth.drop 2).drop 1
  let minute := hour.drop 2
  let second := minute.drop 2
  let micro := (second.drop 2).drop 1
  let number (width : Nat) (text : List Char) := Text.digitsValue (text.take width)
  let day := ofDate (number 4 text) (number 2 month) (number 2 inMonth)
  let seconds := number 2 hour * 3600 + number 2 minute * 60 + number 2 second
  ⟨(day * secondsPerDay + seconds) * microsPerSecond + number 6 micro⟩

/-- A moment is read back from its stamp. -/
theorem ofStamp_stamp {m : Moment} (h : m.micros < horizon) : ofStamp m.stamp = m := by
  have hyear : yearOf (m.micros / microsPerSecond / secondsPerDay) < 10 ^ 4 := yearOf_lt (day_lt h)
  obtain ⟨hmonth, hday⟩ := inYear_lt (m.micros / microsPerSecond / secondsPerDay)
  have hsecond : m.micros / microsPerSecond % secondsPerDay < 86400 := Nat.mod_lt _ (by decide)
  have hmicro : m.micros % microsPerSecond < 10 ^ 6 := Nat.mod_lt _ (by decide)
  simp only [ofStamp, stamp, date_eq, clock, List.append_assoc, List.cons_append,
    Text.take_padded_append, Text.drop_padded_append, Text.take_padded, List.drop_succ_cons,
    List.drop_zero, Text.digitsValue_padded]
  have hclock {second : Nat} (h : second < 86400) : second / 3600 % 10 ^ 2 * 3600 +
      second / 60 % 60 % 10 ^ 2 * 60 + second % 60 % 10 ^ 2 = second := by omega
  rw [Nat.mod_eq_of_lt hyear, Nat.mod_eq_of_lt (hmonth.trans (by decide)),
    Nat.mod_eq_of_lt (hday.trans (by decide)), Nat.mod_eq_of_lt hmicro, ofDate_inYear,
    hclock hsecond, Nat.div_add_mod', Nat.div_add_mod']

end ClusterLaunch.Moment
