import ClusterLaunch.Shell.Pattern

/-!
What fits a pattern. The stars of a pattern stand for any texts, so in general many ways to
part a text would have to be tried. Looking for each run where it comes first is enough: what
follows a later place of the run is an end of what follows the first one, and a star in front
of the next run takes up the difference.
-/

namespace ClusterLaunch.Shell.Pattern

/-- An octet may stand at a place of a pattern. -/
inductive Stands (c : Char) : Mark → Prop
  | exact : Stands c (.exact c)
  | any : Stands c .any
  | oneOf {members : Text.Members} (h : members.contains c = true) : Stands c (.oneOf members)

/-- A text fits a pattern. -/
inductive Matches : Pattern → List Char → Prop
  | nil : Matches [] []
  | one {mark : Mark} {marks : Pattern} {c : Char} {text : List Char} (hc : Stands c mark)
      (h : Matches marks text) : Matches (mark :: marks) (c :: text)
  | many {marks : Pattern} {text : List Char} (skipped : List Char) (h : Matches marks text) :
      Matches (.many :: marks) (skipped ++ text)

variable {mark : Mark} {p q run marks : Pattern} {c : Char} {text rest front : List Char}

theorem fitsOne_iff : fitsOne c mark = true ↔ Stands c mark := by
  constructor
  · intro h
    cases mark with
    | exact d =>
        obtain rfl : c = d := by simpa [fitsOne] using h
        exact .exact
    | any => exact .any
    | many => cases h
    | oneOf members => exact .oneOf h
  · rintro (_ | _ | h)
    · simp [fitsOne]
    · rfl
    · exact h

theorem matches_nil : Matches [] text ↔ text = [] := by
  constructor
  · rintro ⟨⟩
    rfl
  · rintro rfl
    exact .nil

theorem matches_many : Matches (.many :: p) text ↔ ∃ rest, rest <:+ text ∧ Matches p rest := by
  constructor
  · rintro (_ | ⟨⟨⟩, _⟩ | ⟨skipped, h⟩)
    exact ⟨_, List.suffix_append _ _, h⟩
  · rintro ⟨rest, ⟨skipped, rfl⟩, h⟩
    exact .many skipped h

theorem matches_append :
    Matches (p ++ q) text ↔ ∃ front rest, text = front ++ rest ∧ Matches p front ∧ Matches q rest := by
  constructor
  · intro h
    induction p generalizing text with
    | nil => exact ⟨[], text, rfl, .nil, h⟩
    | cons mark p ih =>
        cases h with
        | one hc h =>
            obtain ⟨front, rest, rfl, hfront, hrest⟩ := ih h
            exact ⟨_ :: front, rest, rfl, .one hc hfront, hrest⟩
        | many skipped h =>
            obtain ⟨front, rest, rfl, hfront, hrest⟩ := ih h
            exact ⟨skipped ++ front, rest, (List.append_assoc ..).symm, .many _ hfront, hrest⟩
  · rintro ⟨front, rest, rfl, hfront, hrest⟩
    induction hfront with
    | nil => exact hrest
    | one hc _ ih => exact .one hc ih
    | many skipped _ ih =>
        rw [List.append_assoc]
        exact .many skipped ih

/-- What fits behind a star fits it as well with more in front. -/
theorem Matches.of_suffix (h : Matches (.many :: p) rest) (hrest : rest <:+ text) :
    Matches (.many :: p) text := by
  obtain ⟨last, hlast, h⟩ := matches_many.mp h
  exact matches_many.mpr ⟨last, hlast.trans hrest, h⟩

/-! Runs: patterns without a star. -/

/-- The places of a pattern without a star. -/
def Plain (run : Pattern) : Prop :=
  .many ∉ run

theorem Plain.tail (h : Plain (mark :: run)) : Plain run :=
  fun hmem => h (List.mem_cons_of_mem _ hmem)

/-- What fits a run is as long as the run. -/
theorem Matches.length_eq (h : Matches run text) (hrun : Plain run) :
    text.length = run.length := by
  induction h with
  | nil => rfl
  | one hc h ih => simp only [List.length_cons, ih hrun.tail]
  | many skipped h ih => exact absurd List.mem_cons_self hrun

theorem afterRun?_eq_some_iff (hrun : Plain run) :
    afterRun? run text = some rest ↔ ∃ front, text = front ++ rest ∧ Matches run front := by
  induction run generalizing text with
  | nil =>
      simp only [afterRun?, matches_nil, Option.some.injEq]
      constructor
      · rintro rfl
        exact ⟨[], rfl, rfl⟩
      · rintro ⟨front, rfl, rfl⟩
        rfl
  | cons mark run ih =>
      cases text with
      | nil =>
          simp only [afterRun?, reduceCtorEq, false_iff]
          rintro ⟨front, heq, h⟩
          obtain ⟨rfl, -⟩ := List.append_eq_nil_iff.mp heq.symm
          simpa using h.length_eq hrun
      | cons c text =>
          simp only [afterRun?]
          split
          · next hc =>
              rw [ih hrun.tail]
              constructor
              · rintro ⟨front, rfl, h⟩
                exact ⟨c :: front, rfl, .one (fitsOne_iff.mp hc) h⟩
              · rintro ⟨front, heq, h⟩
                cases h with
                | one _ h =>
                    obtain ⟨-, rfl⟩ := List.cons.inj heq
                    exact ⟨_, rfl, h⟩
                | many => exact absurd List.mem_cons_self hrun
          · next hc =>
              simp only [reduceCtorEq, false_iff]
              rintro ⟨front, heq, h⟩
              cases h with
              | one hd _ =>
                  obtain ⟨rfl, -⟩ := List.cons.inj heq
                  exact hc (fitsOne_iff.mpr hd)
              | many => exact absurd List.mem_cons_self hrun

theorem afterRun?_eq_none_iff (hrun : Plain run) :
    afterRun? run text = none ↔ ∀ front rest, text = front ++ rest → ¬ Matches run front := by
  rw [Option.eq_none_iff_forall_ne_some]
  simp only [ne_eq, afterRun?_eq_some_iff hrun]
  grind

/-- What stands behind a run, at the place where the run is met first. -/
structure First (run : Pattern) (text rest : List Char) : Prop where
  met : ∃ skipped front, text = skipped ++ (front ++ rest) ∧ Matches run front
  first : ∀ skipped front later, text = skipped ++ (front ++ later) → Matches run front →
    later <:+ rest

theorem first_of_afterFirst? (hrun : Plain run) (h : afterFirst? run text = some rest) :
    First run text rest := by
  have hhere {text : List Char} (h : afterRun? run text = some rest) : First run text rest := by
    obtain ⟨front, rfl, hfront⟩ := (afterRun?_eq_some_iff hrun).mp h
    refine ⟨⟨[], front, rfl, hfront⟩, fun skipped other later heq hother => ?_⟩
    -- both runs are of one length, so what is skipped is missing at the end
    have hlength := (hfront.length_eq hrun).trans (hother.length_eq hrun).symm
    rw [← List.append_assoc] at heq
    refine List.suffix_of_suffix_length_le ⟨skipped ++ other, heq.symm⟩ ⟨front, rfl⟩ ?_
    have hsum := congrArg List.length heq
    simp only [List.length_append] at hsum
    omega
  induction text with
  | nil => exact hhere h
  | cons c text ih =>
      rw [afterFirst?] at h
      split at h
      · next hfound =>
          obtain rfl : _ = rest := Option.some.inj h
          exact hhere hfound
      · next hnone =>
          obtain ⟨⟨skipped, front, rfl, hfront⟩, hfirst⟩ := ih h
          refine ⟨⟨c :: skipped, front, rfl, hfront⟩, fun other found later heq hfound => ?_⟩
          cases other with
          | nil => exact absurd hfound ((afterRun?_eq_none_iff hrun).mp hnone _ _ heq)
          | cons d other => exact hfirst other found later (List.cons.inj heq).2 hfound

theorem afterFirst?_eq_none (hrun : Plain run) (h : afterFirst? run text = none) :
    ∀ skipped front rest, text = skipped ++ (front ++ rest) → ¬ Matches run front := by
  induction text with
  | nil =>
      intro skipped front rest heq
      obtain ⟨-, heq⟩ := List.append_eq_nil_iff.mp heq.symm
      exact (afterRun?_eq_none_iff hrun).mp h front rest heq.symm
  | cons c text ih =>
      rw [afterFirst?] at h
      split at h
      · cases h
      · next hnone =>
          intro skipped front rest heq
          cases skipped with
          | nil => exact (afterRun?_eq_none_iff hrun).mp hnone front rest heq
          | cons d skipped => exact ih h skipped front rest (List.cons.inj heq).2

/-- The pattern of runs that each follow a star. -/
def starred (runs : List Pattern) : Pattern :=
  runs.flatMap (.many :: ·)

theorem matches_starred_cons {runs : List Pattern} :
    Matches (starred (run :: runs)) text ↔ ∃ skipped front rest,
      text = skipped ++ (front ++ rest) ∧ Matches run front ∧ Matches (starred runs) rest := by
  rw [starred, List.flatMap_cons, List.cons_append, matches_many]
  constructor
  · rintro ⟨tail, ⟨skipped, rfl⟩, h⟩
    obtain ⟨front, rest, rfl, hfront, hrest⟩ := matches_append.mp h
    exact ⟨skipped, front, rest, rfl, hfront, hrest⟩
  · rintro ⟨skipped, front, rest, rfl, hfront, hrest⟩
    exact ⟨front ++ rest, List.suffix_append _ _, matches_append.mpr ⟨_, _, rfl, hfront, hrest⟩⟩

theorem fitsRuns_iff {runs : List Pattern} (hruns : ∀ run ∈ runs, Plain run) :
    fitsRuns runs text = true ↔ Matches (starred runs) text := by
  induction runs generalizing text with
  | nil => simp [fitsRuns, starred, matches_nil]
  | cons run runs ih =>
      have hrun : Plain run := hruns run List.mem_cons_self
      rw [matches_starred_cons]
      cases runs with
      | nil =>
          simp only [fitsRuns, Bool.and_eq_true, decide_eq_true_eq, Option.isSome_iff_exists,
            afterRun?_eq_some_iff hrun, starred, List.flatMap_nil, matches_nil]
          constructor
          · rintro ⟨hlength, rest, front, heq, hfront⟩
            refine ⟨text.take (text.length - run.length), front, rest, ?_, hfront, ?_⟩
            · rw [← heq, List.take_append_drop]
            · have hall := congrArg List.length heq
              rw [List.length_drop, List.length_append, hfront.length_eq hrun] at hall
              exact List.length_eq_zero_iff.mp (by omega)
          · rintro ⟨skipped, front, -, rfl, hfront, rfl⟩
            have hlength := hfront.length_eq hrun
            rw [List.append_nil, List.length_append, hlength, Nat.add_sub_cancel, List.drop_left]
            exact ⟨Nat.le_add_left _ _, [], front, (List.append_nil _).symm, hfront⟩
      | cons next runs =>
          have hrest {text : List Char} :
              fitsRuns (next :: runs) text = true ↔ Matches (starred (next :: runs)) text :=
            ih fun r hr => hruns r (List.mem_cons_of_mem _ hr)
          simp only [fitsRuns]
          split
          · next rest hfound =>
              obtain ⟨⟨skipped, front, rfl, hfront⟩, hfirst⟩ := first_of_afterFirst? hrun hfound
              rw [hrest]
              constructor
              · intro h
                exact ⟨skipped, front, rest, rfl, hfront, h⟩
              · rintro ⟨other, found, later, heq, hmet, h⟩
                exact Matches.of_suffix h (hfirst other found later heq hmet)
          · next hnone =>
              simp only [Bool.false_eq_true, false_iff]
              rintro ⟨skipped, front, rest, heq, hfront, -⟩
              exact afterFirst?_eq_none hrun hnone skipped front rest heq hfront

/-- A pattern is its first run and the runs that follow its stars. -/
theorem runs_eq (p : Pattern) :
    p = (runs p).1 ++ starred (runs p).2 ∧ Plain (runs p).1 ∧ ∀ run ∈ (runs p).2, Plain run := by
  induction p with
  | nil => exact ⟨rfl, List.not_mem_nil, fun _ h => (nomatch h)⟩
  | cons mark p ih =>
      obtain ⟨heq, hfirst, hruns⟩ := ih
      by_cases hmany : mark = .many
      · subst hmany
        refine ⟨?_, List.not_mem_nil, List.forall_mem_cons.mpr ⟨hfirst, hruns⟩⟩
        simp only [runs, List.nil_append, starred, List.flatMap_cons, List.cons_append]
        exact congrArg _ heq
      · have hcons : runs (mark :: p) = (mark :: (runs p).1, (runs p).2) := by
          cases mark <;> first | rfl | exact absurd rfl hmany
        rw [hcons]
        refine ⟨congrArg _ heq, ?_, hruns⟩
        exact fun hmem => (List.mem_cons.mp hmem).elim (hmany ·.symm) hfirst

/-- Looking for one run after the other finds out whether a text fits. -/
theorem fits_iff (p : Pattern) (text : List Char) : fits p text = true ↔ Matches p text := by
  obtain ⟨heq, hfirst, hruns⟩ := runs_eq p
  generalize hsplit : runs p = split at heq hfirst hruns
  obtain ⟨first, others⟩ := split
  simp only [fits, hsplit]
  rw [heq, matches_append]
  cases others with
  | nil =>
      simp only [beq_iff_eq, afterRun?_eq_some_iff hfirst, starred, List.flatMap_nil, matches_nil]
      constructor
      · rintro ⟨front, rfl, h⟩
        exact ⟨front, [], rfl, h, rfl⟩
      · rintro ⟨front, -, rfl, h, rfl⟩
        exact ⟨front, rfl, h⟩
  | cons run runs =>
      simp only
      split
      · next rest hrest =>
          obtain ⟨front, rfl, hfront⟩ := (afterRun?_eq_some_iff hfirst).mp hrest
          rw [fitsRuns_iff hruns]
          constructor
          · intro h
            exact ⟨front, rest, rfl, hfront, h⟩
          · rintro ⟨other, more, heq, hother, h⟩
            have hlength := (hother.length_eq hfirst).trans (hfront.length_eq hfirst).symm
            obtain ⟨-, rfl⟩ := List.append_inj heq.symm hlength
            exact h
      · next hnone =>
          simp only [Bool.false_eq_true, false_iff]
          rintro ⟨front, rest, heq, hfront, -⟩
          exact (afterRun?_eq_none_iff hfirst).mp hnone front rest heq hfront

/-! The part at an end of a text that is taken away. -/

/-- The first number of a list in which every number stands before those that follow it. -/
theorem find?_eq_some_iff_of_pairwise {R : Nat → Nat → Prop} {f : Nat → Bool} {n : Nat}
    {numbers : List Nat} (hasymm : ∀ {a b}, R a b → ¬ R b a)
    (h : numbers.Pairwise R) :
    numbers.find? f = some n ↔
      n ∈ numbers ∧ f n = true ∧ ∀ m ∈ numbers, f m = true → m = n ∨ R n m := by
  induction h with
  | nil => simp
  | @cons first numbers hfirst _ ih =>
      rw [List.find?_cons]
      cases hf : f first with
      | true =>
          simp only [Option.some.injEq]
          constructor
          · rintro rfl
            exact ⟨List.mem_cons_self, hf, fun m hm _ => (List.mem_cons.mp hm).imp id (hfirst m)⟩
          · rintro ⟨hn, -, hall⟩
            refine (List.mem_cons.mp hn).elim Eq.symm fun hn => ?_
            exact (hall first List.mem_cons_self hf).resolve_right (hasymm (hfirst n hn))
      | false =>
          rw [ih]
          constructor
          · rintro ⟨hn, hfn, hall⟩
            refine ⟨List.mem_cons_of_mem _ hn, hfn, List.forall_mem_cons.mpr ⟨?_, hall⟩⟩
            intro htrue
            rw [hf] at htrue
            cases htrue
          · rintro ⟨hn, hfn, hall⟩
            have hne : n ≠ first := by
              rintro rfl
              rw [hf] at hfn
              cases hfn
            exact ⟨List.mem_of_ne_of_mem hne hn, hfn, (List.forall_mem_cons.mp hall).2⟩

/-- The lengths in the order in which they are tried. -/
def lengths (longest : Bool) (limit : Nat) : List Nat :=
  if longest then (List.range (limit + 1)).reverse else List.range (limit + 1)

/-- Whether a part is as long, or as short, as another one or more so. -/
def Beats (longest : Bool) (n m : Nat) : Prop :=
  if longest then m ≤ n else n ≤ m

theorem find?_lengths_eq_some_iff {longest : Bool} {f : Nat → Bool} {limit n : Nat} :
    (lengths longest limit).find? f = some n ↔
      n ≤ limit ∧ f n = true ∧ ∀ m ≤ limit, f m = true → Beats longest n m := by
  have hasc : (List.range (limit + 1)).Pairwise (· < ·) := List.pairwise_lt_range
  cases longest with
  | true =>
      rw [lengths, if_pos rfl, find?_eq_some_iff_of_pairwise (R := (· > ·)) (by omega)
        (List.pairwise_reverse.mpr hasc)]
      simp only [List.mem_reverse, List.mem_range, Nat.lt_succ_iff, Beats, if_true]
      grind
  | false =>
      rw [lengths, if_neg Bool.false_ne_true,
        find?_eq_some_iff_of_pairwise (R := (· < ·)) (by omega) hasc]
      simp only [List.mem_range, Nat.lt_succ_iff, Beats]
      grind

/-- A text in two, of which one part stands at one of its ends. -/
def Parted (atEnd : Bool) (text part rest : List Char) : Prop :=
  text = if atEnd then rest ++ part else part ++ rest

/-- The part of a length at an end of a text. -/
def partOf (atEnd : Bool) (text : List Char) (n : Nat) : List Char :=
  if atEnd then text.drop (text.length - n) else text.take n

/-- What a text is without that part. -/
def withoutPart (atEnd : Bool) (text : List Char) (n : Nat) : List Char :=
  if atEnd then text.take (text.length - n) else text.drop n

theorem parted_partOf (atEnd : Bool) (text : List Char) (n : Nat) :
    Parted atEnd text (partOf atEnd text n) (withoutPart atEnd text n) := by
  cases atEnd <;> simp [Parted, partOf, withoutPart]

theorem length_partOf {atEnd : Bool} {n : Nat} (h : n ≤ text.length) :
    (partOf atEnd text n).length = n := by
  cases atEnd <;> simp [partOf] <;> omega

theorem Parted.eq_partOf {atEnd : Bool} {part : List Char} (h : Parted atEnd text part rest) :
    part.length ≤ text.length ∧ part = partOf atEnd text part.length := by
  rw [Parted] at h
  subst h
  cases atEnd <;> simp [partOf]

theorem trim_eq (atEnd longest : Bool) (p : Pattern) (text : List Char) :
    trim atEnd longest p text =
      match (lengths longest text.length).find? fun n => fits p (partOf atEnd text n) with
      | some n => withoutPart atEnd text n
      | none => text := by
  cases atEnd <;> cases longest <;> rfl

/-- The longest or shortest part that fits at an end of a text is taken away, or none if no
part fits there. -/
theorem trim_spec (atEnd longest : Bool) (p : Pattern) (text : List Char) :
    (∃ part, Parted atEnd text part (trim atEnd longest p text) ∧ Matches p part ∧
      ∀ other rest, Parted atEnd text other rest → Matches p other →
        Beats longest part.length other.length) ∨
    (trim atEnd longest p text = text ∧
      ∀ part rest, Parted atEnd text part rest → ¬ Matches p part) := by
  rw [trim_eq]
  split
  · next n hn =>
      obtain ⟨hle, hfits, hall⟩ := find?_lengths_eq_some_iff.mp hn
      refine .inl ⟨partOf atEnd text n, parted_partOf .., (fits_iff ..).mp hfits, ?_⟩
      intro other rest hother hmatches
      obtain ⟨hlength, heq⟩ := hother.eq_partOf
      rw [length_partOf hle]
      exact hall _ hlength ((fits_iff ..).mpr (heq ▸ hmatches))
  · next hnone =>
      refine .inr ⟨rfl, fun part rest hpart hmatches => ?_⟩
      obtain ⟨hlength, heq⟩ := hpart.eq_partOf
      have hmem : part.length ∈ lengths longest text.length := by
        cases longest <;> simp [lengths] <;> omega
      exact List.find?_eq_none.mp hnone _ hmem ((fits_iff ..).mpr (heq ▸ hmatches))

theorem ofMarked_quoted {hats : Bool} {fuel : Nat} (h : text.length < fuel) :
    ofMarked hats fuel (text.map fun c => (c, true)) = text.map .exact := by
  induction text generalizing fuel with
  | nil => cases fuel <;> rfl
  | cons c text ih =>
      cases fuel with
      | zero => cases h
      | succ fuel => simp only [List.map_cons, ofMarked, ih (Nat.lt_of_succ_lt_succ h)]

theorem matches_exact {other : List Char} : Matches (text.map .exact) other ↔ other = text := by
  induction text generalizing other with
  | nil => exact matches_nil
  | cons c text ih =>
      constructor
      · rintro (_ | ⟨⟨⟩, h⟩)
        rw [ih.mp h]
      · rintro rfl
        exact .one .exact (ih.mpr rfl)

/-- Octets that were quoted stand for themselves. -/
theorem fits_quoted (hats : Bool) (text other : List Char) :
    fits (ofMarked hats (text.length + 1) (text.map fun c => (c, true))) other = true ↔
      other = text := by
  rw [ofMarked_quoted (Nat.lt_succ_self _), fits_iff, matches_exact]

end ClusterLaunch.Shell.Pattern
