import ClusterLaunch.Proofs.Digits
import ClusterLaunch.Proofs.Duration
import ClusterLaunch.Proofs.Fallible
import ClusterLaunch.Proofs.Lines
import ClusterLaunch.Settings

/-!
Settings that are read from variables. They are read just if each variable that is to hold a
count holds one in its range, or is not set; otherwise the first one that does not is named.
Every setting comes from its own variable alone, and settings that are whole numbers are read
back from the variables that they are written to.
-/

namespace ClusterLaunch.Settings

/-! Counts. -/

/-- The text is that of the count: digits, which may have a plus sign before them and blanks
around them. -/
def Says (text : String) (n : Nat) : Prop :=
  ∃ sign digits, Text.trim text.toList = sign ++ digits ∧ (sign = [] ∨ sign = ['+']) ∧
    digits ≠ [] ∧ (∀ c ∈ digits, Text.isDigit c = true) ∧ Text.digitsValue digits = n

/-- Reading on never makes a number smaller. -/
theorem le_foldl_digits (digits : List Char) (value : Nat) :
    value ≤ digits.foldl (fun value c => value * 10 + (c.toNat - 48)) value := by
  induction digits generalizing value with
  | nil => exact le_rfl
  | cons c digits ih =>
      have hstep : value ≤ value * 10 + (c.toNat - 48) := by omega
      exact hstep.trans (ih _)

/-- What is read on from a value below the bound are digits, and never reaches the bound. -/
theorem countOn_eq_ok_iff {bound value n : Nat} {text : List Char} (hvalue : value < bound) :
    countOn bound value text = .ok n ↔ (∀ c ∈ text, Text.isDigit c = true) ∧
      text.foldl (fun value c => value * 10 + (c.toNat - 48)) value = n ∧ n < bound := by
  induction text generalizing value with
  | nil =>
      simp only [countOn, Except.ok.injEq, List.foldl_nil]
      exact ⟨fun h => ⟨nofun, h, h ▸ hvalue⟩, fun h => h.2.1⟩
  | cons c rest ih =>
      rw [countOn, List.forall_mem_cons, List.foldl_cons]
      by_cases hdigit : Text.isDigit c = true
      · rw [if_pos hdigit]
        by_cases hmore : value * 10 + (c.toNat - 48) < bound
        · simp only [if_pos hmore, ih hmore, hdigit, true_and]
        · -- the reader stops here, and the number only grows from here on
          have hle := le_foldl_digits rest (value * 10 + (c.toNat - 48))
          simp only [if_neg hmore, reduceCtorEq, false_iff, not_and]
          omega
      · simp [hdigit]

/-- A sign is taken off only in front of something else. -/
theorem unsigned_append {sign digits : List Char} (hsign : sign = [] ∨ sign = ['+'])
    (hfilled : digits ≠ []) (hdigits : ∀ c ∈ digits, Text.isDigit c = true) :
    unsigned (sign ++ digits) = digits := by
  obtain ⟨c, rest, rfl⟩ := List.exists_cons_of_ne_nil hfilled
  have hplus : c ≠ '+' := by
    rintro rfl
    exact absurd (hdigits '+' List.mem_cons_self) (by decide)
  rcases hsign with rfl | rfl
  · rw [List.nil_append, unsigned]
    rintro _ _ ⟨⟩
    exact hplus rfl
  · rfl

/-- A text is its digits with a sign before them, if there is one that can be taken off. -/
theorem exists_sign {text : List Char} (hfilled : text ≠ []) :
    ∃ sign, (sign = [] ∨ sign = ['+']) ∧ text = sign ++ unsigned text ∧ unsigned text ≠ [] := by
  unfold unsigned
  split
  · exact ⟨['+'], .inr rfl, rfl, List.cons_ne_nil _ _⟩
  · exact ⟨[], .inl rfl, rfl, hfilled⟩

theorem count_eq_ok_iff {bound n : Nat} {text : String} (hbound : 0 < bound) :
    count bound (Text.trim text.toList) = .ok n ↔ Says text n ∧ n < bound := by
  have hcount {text : List Char} (hfilled : text ≠ []) :
      count bound text = countOn bound 0 (unsigned text) := by
    cases text with
    | nil => exact absurd rfl hfilled
    | cons => rfl
  constructor
  · intro h
    have hfilled : Text.trim text.toList ≠ [] := by
      intro hempty
      rw [hempty] at h
      cases h
    rw [hcount hfilled, countOn_eq_ok_iff hbound] at h
    obtain ⟨hdigits, hvalue, hlt⟩ := h
    obtain ⟨sign, hsign, htext, hunsigned⟩ := exists_sign hfilled
    exact ⟨⟨sign, _, htext, hsign, hunsigned, hdigits, hvalue⟩, hlt⟩
  · rintro ⟨⟨sign, digits, htext, hsign, hfilled, hdigits, rfl⟩, hlt⟩
    have hall : Text.trim text.toList ≠ [] := by simp [htext, hfilled]
    rw [hcount hall, htext, unsigned_append hsign hfilled hdigits, countOn_eq_ok_iff hbound]
    exact ⟨hdigits, rfl, hlt⟩

theorem Says.unique {text : String} {m n : Nat} (hm : Says text m) (hn : Says text n) : m = n := by
  -- with a bound above both, the reader has to give both of them
  have hpos : 0 < m + n + 1 := Nat.succ_pos _
  have hm' := (count_eq_ok_iff hpos).mpr ⟨hm, by omega⟩
  have hn' := (count_eq_ok_iff hpos).mpr ⟨hn, by omega⟩
  exact Except.ok.inj (hm'.symm.trans hn')

theorem says_decimal (n : Nat) : Says (Text.decimal n) n := by
  have hdigits : ∀ c ∈ Text.numeral 10 n, Text.isDigit c = true :=
    fun c hc => Text.isDigit_of_mem_numeral hc
  have hunblank : ∀ c ∈ Text.numeral 10 n, Text.isBlank c = false :=
    fun c hc => Text.not_isBlank_of_isDigit (hdigits c hc)
  have htrim : Text.trim (Text.decimal n).toList = Text.numeral 10 n := by
    rw [Text.decimal, String.toList_ofList]
    exact Text.strip_eq_self (fun c hc => hunblank c (List.mem_of_mem_head? hc))
      fun c hc => hunblank c (List.mem_of_mem_getLast? hc)
  have hfilled : Text.numeral 10 n ≠ [] := by
    obtain ⟨c, more, hnumeral, -⟩ := Text.exists_numeral_eq n
    exact ne_of_eq_of_ne hnumeral (List.cons_ne_nil c more)
  exact ⟨[], _, htrim, .inl rfl, hfilled, hdigits, Text.digitsValue_numeral n⟩

/-! Variables that hold counts. -/

/-- A variable that is to hold a count, and the counts that it may hold. -/
structure CountVariable where
  name : String
  least : Nat
  bound : Nat

def countVariables : List CountVariable :=
  [⟨pollVariable, 0, UInt64.size⟩, ⟨attemptsVariable, 1, UInt32.size⟩,
    ⟨pauseVariable, 0, UInt64.size⟩, ⟨timeoutVariable, 0, UInt64.size⟩]

namespace CountVariable

/-- The variable is not set, or else holds the count, which is one that it may hold. -/
def Holds (v : CountVariable) (env : String → Option String) : Option Nat → Prop
  | none => env v.name = none
  | some n => ∃ text, env v.name = some text ∧ Says text n ∧ v.least ≤ n ∧ n < v.bound

/-- The variable is not set, or it holds a count that it may hold. -/
def Readable (v : CountVariable) (env : String → Option String) : Prop :=
  ∀ text, env v.name = some text → ∃ n, Says text n ∧ v.least ≤ n ∧ n < v.bound

/-- What is said of a variable that cannot be read: its name, and either what it holds and why
this is not a count, or what it has to hold. -/
def Blames (v : CountVariable) (env : String → Option String) (reason : String) : Prop :=
  ∃ text, env v.name = some text ∧
    ((∃ fault, count v.bound (Text.trim text.toList) = .error fault ∧
        reason = v.name ++ "=" ++ Text.quoted text ++ ": " ++ fault.message) ∨
      Says text 0 ∧ 0 < v.least ∧
        reason = v.name ++ " must be at least " ++ Text.decimal v.least)

/-- What is read is what the variable holds, and what cannot be read is blamed on it. -/
structure ReadAs (v : CountVariable) (env : String → Option String)
    (read : Except Failure (Option Nat)) : Prop where
  ok_iff (held : Option Nat) : read = .ok held ↔ v.Holds env held
  blames {failure : Failure} (h : read = .error failure) :
    ∃ reason, failure = .invalidSettings reason ∧ v.Blames env reason

variable {v : CountVariable} {env : String → Option String} {held : Option Nat} {text : String}

theorem holds_of_unset (h : env v.name = none) : v.Holds env held ↔ held = none := by
  cases held <;> simp [Holds, h]

theorem holds_of_set (h : env v.name = some text) :
    v.Holds env held ↔ ∃ n, held = some n ∧ Says text n ∧ v.least ≤ n ∧ n < v.bound := by
  cases held <;> simp [Holds, h]

theorem readable_iff : v.Readable env ↔ ∃ held, v.Holds env held := by
  cases hset : env v.name with
  | none => simp [Readable, holds_of_unset, hset]
  | some text => simp [Readable, holds_of_set hset, hset]

theorem ReadAs.exists_ok {read : Except Failure (Option Nat)} (h : v.ReadAs env read)
    (hreadable : v.Readable env) : ∃ held, read = .ok held := by
  obtain ⟨held, hheld⟩ := readable_iff.mp hreadable
  exact ⟨held, (h.ok_iff held).mpr hheld⟩

theorem ReadAs.exists_error {read : Except Failure (Option Nat)} (h : v.ReadAs env read)
    (hunreadable : ¬v.Readable env) :
    ∃ reason, read = .error (.invalidSettings reason) ∧ v.Blames env reason := by
  cases hread : read with
  | ok held => exact absurd (readable_iff.mpr ⟨held, (h.ok_iff held).mp hread⟩) hunreadable
  | error failure =>
      obtain ⟨reason, rfl, hblames⟩ := h.blames hread
      exact ⟨reason, rfl, hblames⟩

end CountVariable

section

variable {env : String → Option String} {bound : Nat} {name : String} {held : Option Nat}

/-- A count is read from a variable just if the variable holds it. -/
theorem countIn_eq_ok_iff (hbound : 0 < bound) :
    countIn env bound name = .ok held ↔ (⟨name, 0, bound⟩ : CountVariable).Holds env held := by
  cases hset : env name with
  | none =>
      rw [CountVariable.holds_of_unset hset]
      simp only [countIn, hset, Except.ok.injEq, eq_comm]
  | some text =>
      have hiff (n : Nat) : count bound (Text.trim text.toList) = .ok n ↔ Says text n ∧ n < bound :=
        count_eq_ok_iff hbound
      rw [CountVariable.holds_of_set hset]
      simp only [countIn, hset]
      cases hcount : count bound (Text.trim text.toList) with
      | ok n =>
          have hheld := (hiff n).mp hcount
          simp only [Except.ok.injEq, Nat.zero_le, true_and]
          constructor
          · rintro rfl
            exact ⟨n, rfl, hheld⟩
          · rintro ⟨m, rfl, hm, -⟩
            rw [hheld.1.unique hm]
      | error fault =>
          simp only [reduceCtorEq, false_iff]
          rintro ⟨m, -, hm, -, hlt⟩
          cases hcount.symm.trans ((hiff m).mpr ⟨hm, hlt⟩)

/-- What is said of a variable without a count: its name, what it holds, and what is wrong. -/
theorem exists_of_countIn_eq_error {failure : Failure} (h : countIn env bound name = .error failure) :
    ∃ text fault, env name = some text ∧ count bound (Text.trim text.toList) = .error fault ∧
      failure = .invalidSettings (name ++ "=" ++ Text.quoted text ++ ": " ++ fault.message) := by
  unfold countIn at h
  split at h
  · cases h
  · next text hset =>
      split at h
      · cases h
      · next fault hfault =>
          cases h
          exact ⟨text, fault, hset, hfault, rfl⟩

/-- A count of 64 bits in a variable is read as what the variable holds. -/
theorem readAs_word :
    (⟨name, 0, UInt64.size⟩ : CountVariable).ReadAs env (countIn env UInt64.size name) where
  ok_iff _ := countIn_eq_ok_iff (by decide)
  blames h := by
    obtain ⟨text, fault, hset, hfault, hfailure⟩ := exists_of_countIn_eq_error h
    exact ⟨_, hfailure, text, hset, .inl ⟨fault, hfault, rfl⟩⟩

theorem CountVariable.holds_one_iff :
    (⟨name, 1, bound⟩ : CountVariable).Holds env held ↔
      (⟨name, 0, bound⟩ : CountVariable).Holds env held ∧ held ≠ some 0 := by
  cases held with
  | none => simp [Holds]
  | some n => grind [Holds]

/-- The number of attempts is a count that is not zero. -/
theorem attemptsIn_eq_ok_iff :
    attemptsIn env = .ok held ↔
      countIn env UInt32.size attemptsVariable = .ok held ∧ held ≠ some 0 := by
  rw [attemptsIn, bind_eq_ok_iff]
  constructor
  · rintro ⟨read, hread, hheld⟩
    split at hheld
    · cases hheld
    · next hne =>
        cases hheld
        exact ⟨hread, hne⟩
  · rintro ⟨hread, hne⟩
    refine ⟨held, hread, ?_⟩
    split
    · exact absurd rfl hne
    · rfl

/-- A number of attempts is read as what its variable holds, unless that is zero. -/
theorem readAs_attemptsIn :
    (⟨attemptsVariable, 1, UInt32.size⟩ : CountVariable).ReadAs env (attemptsIn env) where
  ok_iff _ := by
    rw [attemptsIn_eq_ok_iff, countIn_eq_ok_iff (by decide), CountVariable.holds_one_iff]
  blames {failure} h := by
    unfold attemptsIn at h
    cases hread : countIn env UInt32.size attemptsVariable with
    | error fault =>
        rw [hread] at h
        obtain ⟨text, why, hset, hwhy, rfl⟩ := exists_of_countIn_eq_error hread
        cases h
        exact ⟨_, rfl, text, hset, .inl ⟨why, hwhy, rfl⟩⟩
    | ok read =>
        rw [hread] at h
        obtain rfl : read = some 0 := by
          by_contra hne
          have hok := attemptsIn_eq_ok_iff.mpr ⟨hread, hne⟩
          rw [attemptsIn, hread] at hok
          cases hok.symm.trans h
        obtain ⟨text, hset, hzero, -⟩ := (countIn_eq_ok_iff (by decide)).mp hread
        cases h
        exact ⟨_, rfl, text, hset, .inr ⟨hzero, by decide, by decide⟩⟩

end

/-! All variables. -/

def Comes (env : String → Option String) (name : String) (unset : Prop) (set : Nat → Prop) : Prop :=
  match env name with
  | none => unset
  | some text => ∃ n, Says text n ∧ set n

/-- Each setting is what its own variable says, or else what it is without one. The lead is
taken as it is, unless it is blank. -/
structure From (env : String → Option String) (s : Settings) : Prop where
  poll : Comes env pollVariable (s.poll = .ofSeconds 5)
    fun n => s.poll.seconds.toNat = n ∧ s.poll.nanos = 0
  lead : s.lead = match env leadVariable with
    | none => "slurmexec_"
    | some text => if Text.isBlankText text.toList then "slurmexec_" else text
  attempts : Comes env attemptsVariable (s.attempts = 5) fun n => s.attempts.toNat = n
  pause : Comes env pauseVariable (s.pause = .ofMillis 1000)
    fun n => s.pause.IsMillis ∧ s.pause.millis = n
  timeout : Comes env timeoutVariable (s.timeout = none)
    fun n => ∃ limit, s.timeout = some limit ∧ limit.seconds.toNat = n ∧ limit.nanos = 0

theorem CountVariable.Holds.comes {v : CountVariable} {env : String → Option String}
    {held : Option Nat} {unset : Prop} {set : Nat → Prop} (h : v.Holds env held)
    (hunset : held = none → unset) (hset : ∀ n, held = some n → n < v.bound → set n) :
    Comes env v.name unset set := by
  unfold Comes
  split
  · next hnone => exact hunset ((holds_of_unset hnone).mp h)
  · next text htext =>
      obtain ⟨n, hheld, hn, -, hlt⟩ := (holds_of_set htext).mp h
      exact ⟨n, hn, hset n hheld hlt⟩

/-- What comes of a variable is settled by what is in it. -/
theorem Comes.unique {α : Type} {env other : String → Option String} {name : String} {x y d : α}
    {p q : Nat → Prop} (hx : Comes env name (x = d) p) (hy : Comes other name (y = d) q)
    (hname : env name = other name) (h : ∀ n, p n → q n → x = y) : x = y := by
  unfold Comes at hx hy
  rw [← hname] at hy
  cases hset : env name with
  | none =>
      rw [hset] at hx hy
      exact Eq.trans hx (Eq.symm hy)
  | some text =>
      rw [hset] at hx hy
      obtain ⟨n, htext, hp⟩ := hx
      obtain ⟨m, hother, hq⟩ := hy
      exact h n hp (hother.unique htext ▸ hq)

def ofCounts (poll attempts pause timeout : Option Nat) (lead : Option String) : Settings where
  poll := (poll.map fun n => .ofSeconds (.ofNat n)).getD (.ofSeconds 5)
  lead := lead.getD "slurmexec_"
  attempts := (attempts.map .ofNat).getD 5
  pause := (pause.map fun n => .ofMillis (.ofNat n)).getD (.ofMillis 1000)
  timeout := timeout.map fun n => .ofSeconds (.ofNat n)

theorem leadIn_getD (env : String → Option String) :
    (leadIn env).getD "slurmexec_" = match env leadVariable with
      | none => "slurmexec_"
      | some text => if Text.isBlankText text.toList then "slurmexec_" else text := by
  unfold leadIn
  cases env leadVariable with
  | none => rfl
  | some text => cases hblank : Text.isBlankText text.toList <;> simp [Option.filter, hblank]

section

variable {env other : String → Option String} {s t : Settings}

/-- Settings are read when all variables are, and each is taken from its own. -/
theorem exists_of_ofVariables_eq_ok (h : ofVariables env = .ok s) :
    ∃ poll attempts pause timeout,
      (⟨pollVariable, 0, UInt64.size⟩ : CountVariable).Holds env poll ∧
      (⟨attemptsVariable, 1, UInt32.size⟩ : CountVariable).Holds env attempts ∧
      (⟨pauseVariable, 0, UInt64.size⟩ : CountVariable).Holds env pause ∧
      (⟨timeoutVariable, 0, UInt64.size⟩ : CountVariable).Holds env timeout ∧
      s = ofCounts poll attempts pause timeout (leadIn env) := by
  obtain ⟨poll, hpoll, h⟩ := bind_eq_ok_iff.mp h
  obtain ⟨attempts, hattempts, h⟩ := bind_eq_ok_iff.mp h
  obtain ⟨pause, hpause, h⟩ := bind_eq_ok_iff.mp h
  obtain ⟨timeout, htimeout, h⟩ := bind_eq_ok_iff.mp h
  exact ⟨poll, attempts, pause, timeout, (readAs_word.ok_iff _).mp hpoll,
    (readAs_attemptsIn.ok_iff _).mp hattempts, (readAs_word.ok_iff _).mp hpause,
    (readAs_word.ok_iff _).mp htimeout, (Except.ok.inj h).symm⟩

theorem from_of_ofVariables (h : ofVariables env = .ok s) : s.From env := by
  obtain ⟨poll, attempts, pause, timeout, hpoll, hattempts, hpause, htimeout, rfl⟩ :=
    exists_of_ofVariables_eq_ok h
  constructor
  · refine hpoll.comes ?_ ?_
    · rintro rfl
      rfl
    · rintro n rfl hlt
      exact ⟨UInt64.toNat_ofNat_of_lt' hlt, rfl⟩
  · exact leadIn_getD env
  · refine hattempts.comes ?_ ?_
    · rintro rfl
      rfl
    · rintro n rfl hlt
      exact UInt32.toNat_ofNat_of_lt' hlt
  · refine hpause.comes ?_ ?_
    · rintro rfl
      rfl
    · rintro n rfl hlt
      exact ⟨Duration.isMillis_ofMillis _,
        (Duration.millis_ofMillis _).trans (UInt64.toNat_ofNat_of_lt' hlt)⟩
  · refine htimeout.comes ?_ ?_
    · rintro rfl
      rfl
    · rintro n rfl hlt
      exact ⟨_, rfl, UInt64.toNat_ofNat_of_lt' hlt, rfl⟩

structure Agree (env other : String → Option String) (s t : Settings) : Prop where
  poll : env pollVariable = other pollVariable → s.poll = t.poll
  lead : env leadVariable = other leadVariable → s.lead = t.lead
  attempts : env attemptsVariable = other attemptsVariable → s.attempts = t.attempts
  pause : env pauseVariable = other pauseVariable → s.pause = t.pause
  timeout : env timeoutVariable = other timeoutVariable → s.timeout = t.timeout

theorem From.agree (hs : s.From env) (ht : t.From other) : Agree env other s t where
  poll h := hs.poll.unique ht.poll h fun n hx hy =>
    Duration.eq_of_seconds (hx.1.trans hy.1.symm) hx.2 hy.2
  lead h := by rw [hs.lead, ht.lead, h]
  attempts h := hs.attempts.unique ht.attempts h fun n hx hy =>
    UInt32.toNat_inj.mp (hx.trans hy.symm)
  pause h := hs.pause.unique ht.pause h fun n hx hy =>
    hx.1.eq_of_millis_eq hy.1 (hx.2.trans hy.2.symm)
  timeout h := by
    refine hs.timeout.unique ht.timeout h ?_
    rintro n ⟨a, hs, ha, hanos⟩ ⟨b, ht, hb, hbnos⟩
    rw [hs, ht, Duration.eq_of_seconds (ha.trans hb.symm) hanos hbnos]

theorem attempts_ne_zero (h : ofVariables env = .ok s) : 1 ≤ s.attempts.toNat := by
  obtain ⟨_, attempts, _, _, -, hattempts, -, -, rfl⟩ := exists_of_ofVariables_eq_ok h
  cases attempts with
  | none =>
      show 1 ≤ (5 : UInt32).toNat
      decide
  | some n =>
      obtain ⟨_, -, -, hleast, hlt⟩ := hattempts
      exact hleast.trans_eq (UInt32.toNat_ofNat_of_lt' hlt).symm

theorem From.lead_not_blank (h : s.From env) : Text.isBlankText s.lead.toList = false := by
  rw [h.lead]
  split
  · decide
  · split
    · decide
    · next hblank => exact Bool.eq_false_of_not_eq_true hblank

/-- Settings are read just if every variable that is to hold a count can be. -/
theorem ofVariables_eq_ok_iff :
    (∃ s, ofVariables env = .ok s) ↔ ∀ v ∈ countVariables, v.Readable env := by
  simp only [countVariables, List.forall_mem_cons, List.not_mem_nil, false_implies, implies_true,
    and_true]
  constructor
  · rintro ⟨s, h⟩
    obtain ⟨_, _, _, _, hpoll, hattempts, hpause, htimeout, -⟩ := exists_of_ofVariables_eq_ok h
    exact ⟨CountVariable.readable_iff.mpr ⟨_, hpoll⟩, CountVariable.readable_iff.mpr ⟨_, hattempts⟩,
      CountVariable.readable_iff.mpr ⟨_, hpause⟩, CountVariable.readable_iff.mpr ⟨_, htimeout⟩⟩
  · rintro ⟨hpoll, hattempts, hpause, htimeout⟩
    obtain ⟨poll, hpoll⟩ := readAs_word.exists_ok hpoll
    obtain ⟨attempts, hattempts⟩ := readAs_attemptsIn.exists_ok hattempts
    obtain ⟨pause, hpause⟩ := readAs_word.exists_ok hpause
    obtain ⟨timeout, htimeout⟩ := readAs_word.exists_ok htimeout
    refine ⟨ofCounts poll attempts pause timeout (leadIn env), ?_⟩
    rw [ofVariables, hpoll, hattempts, hpause, htimeout]
    rfl

/-- Of the variables, this is the first one that cannot be read. -/
def FirstUnreadable (env : String → Option String) (vs : List CountVariable)
    (v : CountVariable) : Prop :=
  ∃ before after, vs = before ++ v :: after ∧ (∀ u ∈ before, u.Readable env) ∧
    ¬v.Readable env

theorem FirstUnreadable.head_or_tail {u v : CountVariable} {rest : List CountVariable}
    (h : FirstUnreadable env (u :: rest) v) :
    (v = u ∧ ¬u.Readable env) ∨ u.Readable env ∧ FirstUnreadable env rest v := by
  obtain ⟨before, after, hsplit, hbefore, hv⟩ := h
  cases before with
  | nil =>
      obtain ⟨rfl, -⟩ := List.cons.inj hsplit
      exact .inl ⟨rfl, hv⟩
  | cons w before =>
      obtain ⟨rfl, hrest⟩ := List.cons.inj hsplit
      obtain ⟨hu, hbefore⟩ := List.forall_mem_cons.mp hbefore
      exact .inr ⟨hu, before, after, hrest, hbefore, hv⟩

theorem not_firstUnreadable_nil {v : CountVariable} : ¬FirstUnreadable env [] v := by
  rintro ⟨before, after, hnone, -⟩
  exact List.append_ne_nil_of_right_ne_nil before (List.cons_ne_nil v after) hnone.symm

/-- Reading ends over the variable that is read first, if that is the one, and otherwise goes
on with the others. -/
theorem FirstUnreadable.exists_error {β : Type} {u v : CountVariable} {rest : List CountVariable}
    {first : Except Failure (Option Nat)} {next : Option Nat → Except Failure β}
    (h : FirstUnreadable env (u :: rest) v) (hfirst : u.ReadAs env first)
    (hnext : ∀ held, FirstUnreadable env rest v →
      ∃ reason, next held = .error (.invalidSettings reason) ∧ v.Blames env reason) :
    ∃ reason, first >>= next = .error (.invalidSettings reason) ∧ v.Blames env reason := by
  rcases h.head_or_tail with ⟨rfl, hv⟩ | ⟨hu, hrest⟩
  · obtain ⟨reason, rfl, hblames⟩ := hfirst.exists_error hv
    exact ⟨reason, rfl, hblames⟩
  · obtain ⟨held, rfl⟩ := hfirst.exists_ok hu
    exact hnext held hrest

/-- The first variable that cannot be read is blamed, whatever is in those after it. -/
theorem ofVariables_eq_error {v : CountVariable} (h : FirstUnreadable env countVariables v) :
    ∃ reason, ofVariables env = .error (.invalidSettings reason) ∧ v.Blames env reason := by
  -- what can be read leaves the front of the list and of the reader at the same time
  rw [ofVariables]
  refine h.exists_error readAs_word fun poll h => ?_
  refine h.exists_error readAs_attemptsIn fun attempts h => ?_
  refine h.exists_error readAs_word fun pause h => ?_
  refine h.exists_error readAs_word fun timeout h => ?_
  exact absurd h not_firstUnreadable_nil

end

/-! Settings written to variables. -/

def toVariables (s : Settings) (name : String) : Option String :=
  if name = pollVariable then some (Text.decimal s.poll.seconds.toNat)
  else if name = leadVariable then some s.lead
  else if name = attemptsVariable then some (Text.decimal s.attempts.toNat)
  else if name = pauseVariable then some (Text.decimal s.pause.millis)
  else if name = timeoutVariable then
    s.timeout.map fun limit => Text.decimal limit.seconds.toNat
  else none

/-- Settings that variables can hold. -/
structure Writable (s : Settings) : Prop where
  poll : s.poll.nanos = 0
  lead : Text.isBlankText s.lead.toList = false
  attempts : 1 ≤ s.attempts.toNat
  pause : s.pause.IsMillis
  pause_lt : s.pause.millis < UInt64.size
  timeout : ∀ limit, s.timeout = some limit → limit.nanos = 0

section

variable {s : Settings}

theorem toVariables_poll :
    s.toVariables pollVariable = some (Text.decimal s.poll.seconds.toNat) := rfl

theorem toVariables_lead : s.toVariables leadVariable = some s.lead := rfl

theorem toVariables_attempts :
    s.toVariables attemptsVariable = some (Text.decimal s.attempts.toNat) := rfl

theorem toVariables_pause :
    s.toVariables pauseVariable = some (Text.decimal s.pause.millis) := rfl

theorem toVariables_timeout :
    s.toVariables timeoutVariable =
      s.timeout.map fun limit => Text.decimal limit.seconds.toNat := rfl

/-- Settings are what the variables say that they are written to. -/
theorem Writable.from_toVariables (h : s.Writable) : s.From s.toVariables where
  poll := ⟨_, says_decimal _, rfl, h.poll⟩
  lead := by
    rw [toVariables_lead]
    simp only [h.lead, Bool.false_eq_true, if_false]
  attempts := ⟨_, says_decimal _, rfl⟩
  pause := ⟨_, says_decimal _, h.pause, rfl⟩
  timeout := by
    rw [Comes, toVariables_timeout]
    cases htimeout : s.timeout with
    | none => rfl
    | some limit => exact ⟨_, says_decimal _, limit, rfl, rfl, h.timeout limit htimeout⟩

/-- A variable with a decimal numeral in its range can be read. -/
theorem CountVariable.readable_of_decimal {v : CountVariable} {env : String → Option String}
    {n : Nat} (hset : env v.name = some (Text.decimal n)) (hleast : v.least ≤ n)
    (hlt : n < v.bound) : v.Readable env := by
  intro text htext
  obtain rfl := Option.some.inj (hset.symm.trans htext)
  exact ⟨n, says_decimal n, hleast, hlt⟩

theorem Writable.readable (h : s.Writable) : ∀ v ∈ countVariables, v.Readable s.toVariables := by
  simp only [countVariables, List.forall_mem_cons, List.not_mem_nil, false_implies, implies_true,
    and_true]
  refine ⟨?_, ?_, ?_, ?_⟩
  · exact CountVariable.readable_of_decimal toVariables_poll (Nat.zero_le _) s.poll.seconds.toNat_lt
  · exact CountVariable.readable_of_decimal toVariables_attempts h.attempts s.attempts.toNat_lt
  · exact CountVariable.readable_of_decimal toVariables_pause (Nat.zero_le _) h.pause_lt
  · cases htimeout : s.timeout with
    | none =>
        intro text htext
        rw [toVariables_timeout, htimeout] at htext
        cases htext
    | some limit =>
        refine CountVariable.readable_of_decimal ?_ (Nat.zero_le _) limit.seconds.toNat_lt
        exact toVariables_timeout.trans (congrArg _ htimeout)

theorem From.unique {env : String → Option String} {t : Settings} (hs : s.From env)
    (ht : t.From env) : s = t := by
  have hagree := hs.agree ht
  cases s
  cases t
  rw [Settings.mk.injEq]
  exact ⟨hagree.poll rfl, hagree.lead rfl, hagree.attempts rfl, hagree.pause rfl,
    hagree.timeout rfl⟩

theorem Writable.ofVariables_toVariables (h : s.Writable) : ofVariables s.toVariables = .ok s := by
  obtain ⟨t, ht⟩ := ofVariables_eq_ok_iff.mpr h.readable
  rw [ht, h.from_toVariables.unique (from_of_ofVariables ht)]

end

/-- What is in the variables settles whether settings are read from them, which of them is blamed
if not, and every setting; and settings can be written to variables. -/
theorem ofVariables_settled (env : String → Option String) :
    ((∃ s, ofVariables env = .ok s) ↔ ∀ v ∈ countVariables, v.Readable env) ∧
    (∀ v, FirstUnreadable env countVariables v →
      ∃ reason, ofVariables env = .error (.invalidSettings reason) ∧ v.Blames env reason) ∧
    (∀ s, ofVariables env = .ok s →
      s.From env ∧ 1 ≤ s.attempts.toNat ∧ Text.isBlankText s.lead.toList = false ∧
        ∀ other t, ofVariables other = .ok t → Agree env other s t) ∧
    ∀ s : Settings, s.Writable → ofVariables s.toVariables = .ok s := by
  refine ⟨ofVariables_eq_ok_iff, fun v => ofVariables_eq_error, fun s hs => ?_,
    fun s hs => hs.ofVariables_toVariables⟩
  have hfrom := from_of_ofVariables hs
  exact ⟨hfrom, attempts_ne_zero hs, hfrom.lead_not_blank,
    fun other t ht => hfrom.agree (from_of_ofVariables ht)⟩

def largest : Settings where
  poll := .ofSeconds 18446744073709551615
  lead := " run_"
  attempts := 4294967295
  pause := .ofMillis 18446744073709551615
  timeout := some (.ofSeconds 18446744073709551615)

/-- Variables two of which hold no count that they may hold. -/
def spoiled (name : String) : Option String :=
  if name = attemptsVariable then some " +0 "
  else if name = timeoutVariable then some "-1"
  else none

theorem ofVariables_settled_at_limits :
    (∃ reason, ofVariables spoiled = .error (.invalidSettings reason) ∧
      (⟨attemptsVariable, 1, UInt32.size⟩ : CountVariable).Blames spoiled reason) ∧
    ofVariables largest.toVariables = .ok largest ∧ 1 ≤ largest.attempts.toNat := by
  have hfirst : FirstUnreadable spoiled countVariables ⟨attemptsVariable, 1, UInt32.size⟩ := by
    refine ⟨[⟨pollVariable, 0, UInt64.size⟩], _, rfl, ?_, ?_⟩
    · rw [List.forall_mem_singleton]
      rintro text ⟨⟩
    · intro hreadable
      obtain ⟨n, hn, hleast, -⟩ := hreadable " +0 " rfl
      have hzero : Says " +0 " 0 :=
        ⟨['+'], ['0'], rfl, .inr rfl, nofun, List.forall_mem_singleton.mpr rfl, rfl⟩
      exact absurd (hn.unique hzero) (Nat.ne_of_gt hleast)
  have hwritable : largest.Writable :=
    { poll := rfl
      lead := by decide
      attempts := by decide
      pause := Duration.isMillis_ofMillis _
      pause_lt := by rw [largest, Duration.millis_ofMillis]; decide
      timeout := by rintro _ ⟨⟩; rfl }
  have hlargest := (ofVariables_settled spoiled).2.2.2 largest hwritable
  exact ⟨(ofVariables_settled spoiled).2.1 _ hfirst, hlargest,
    ((ofVariables_settled largest.toVariables).2.2.1 largest hlargest).2.1⟩

end ClusterLaunch.Settings
