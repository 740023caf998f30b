import ClusterLaunch.Proofs.Json.Tokens
import ClusterLaunch.Proofs.Lines

/-!
Gaps between tokens. A token is cut from a text by what it is made of and by the character that
follows it, and no token goes on with a blank. So blanks that are put between two tokens of a
text change none of its tokens, whatever the text.
-/

namespace ClusterLaunch.Json.Token

open Text (isDigit)

def isWhole : Token → Bool
  | .text _ skip => skip.toBool
  | .broken _ _ => false
  | _ => true

/-- A text that begins with the same character as another, or with a gap. -/
def Follows (rest other : List Char) : Prop :=
  other.head? = rest.head? ∨ ∃ c ∈ other.head?, isGap c = true

variable {rest other text : List Char} {token : Token}

theorem Follows.apart {p : Char → Prop} (h : Follows rest other) (hrest : ∀ c ∈ rest.head?, p c)
    (hgap : ∀ c, isGap c = true → p c) : ∀ c ∈ other.head?, p c := by
  intro c hc
  rcases h with hsame | ⟨d, hd, hblank⟩
  · exact hrest c (hsame ▸ hc)
  · rw [Option.mem_unique hc hd]
    exact hgap d hblank

theorem not_isDigit_of_isGap {c : Char} (h : isGap c = true) : isDigit c = false := by
  simp only [isGap, Bool.or_eq_true, beq_iff_eq] at h
  rcases h with ((rfl | rfl) | rfl) | rfl <;> rfl

theorem not_exponent_of_isGap {c : Char} (h : isGap c = true) : c ≠ 'e' ∧ c ≠ 'E' ∧ c ≠ '.' := by
  simp only [isGap, Bool.or_eq_true, beq_iff_eq] at h
  rcases h with ((rfl | rfl) | rfl) | rfl <;> decide

/-! Words and strings, which end by themselves. -/

theorem lexWord_append (token : Token) (word rest : List Char) :
    lexWord token word (word ++ rest) = (token, rest) := by
  induction word with
  | nil => cases rest <;> rfl
  | cons a word ih => rw [List.cons_append, lexWord, if_pos rfl, ih]

theorem lexWord_of_isWhole {word : List Char} {whole : Token}
    (h : lexWord token word text = (whole, rest)) (hwhole : whole.isWhole = true) :
    whole = token ∧ text = word ++ rest := by
  fun_induction lexWord token word text with
  | case1 text =>
      cases h
      exact ⟨rfl, rfl⟩
  | case2 =>
      cases h
      cases hwhole
  | case3 a word text ih =>
      obtain ⟨htoken, htext⟩ := ih h
      exact ⟨htoken, by rw [htext, List.cons_append]⟩
  | case4 =>
      cases h
      cases hwhole

/-- What is known of the items of a text is known of them behind one that is cut off by itself. -/
theorem items_behind (front : List Char) {part : Item} {parts : List Item}
    (hfront : ∀ text, items (front ++ text) = (part :: (items text).1, (items text).2))
    (h : ∃ taken, text = taken ++ rest ∧
      ∀ other, items (taken ++ other) = (parts, .closed other)) :
    ∃ taken, front ++ text = taken ++ rest ∧
      ∀ other, items (taken ++ other) = (part :: parts, .closed other) := by
  obtain ⟨taken, rfl, htaken⟩ := h
  refine ⟨front ++ taken, (List.append_assoc ..).symm, fun other => ?_⟩
  rw [List.append_assoc, hfront, htaken]

theorem items_escaped {e c : Char} (h : escape? e = some c) (text : List Char) :
    items ('\\' :: e :: text) = (.char c :: (items text).1, (items text).2) := by
  have hunit : e ≠ 'u' := by
    rintro rfl
    cases h
  rw [items]
  · simp only [h]
  · exact fun a b c d rest heq => absurd heq hunit
  · exact fun heq => absurd heq hunit

/-- The items up to a quote are the same, whatever follows the quote. -/
theorem items_closed {parts : List Item} (h : items text = (parts, .closed rest)) :
    ∃ taken, text = taken ++ rest ∧ ∀ other, items (taken ++ other) = (parts, .closed other) := by
  fun_induction items text generalizing parts with
  | case3 a b c d text n hunit more ending hitems ih =>
      cases h
      exact items_behind ['\\', 'u', a, b, c, d] (fun text => by simp [items, hunit])
        (ih hitems)
  | case6 e text _ hplain c hescape more ending hitems ih =>
      cases h
      exact items_behind ['\\', e] (items_escaped hescape) (ih hitems)
  | case8 text =>
      cases h
      exact ⟨['"'], rfl, fun other => by simp [items]⟩
  | case10 c text hlone _ _ hpair hquote hlow more ending hitems ih =>
      cases h
      have hslash : c ≠ '\\' := by
        rintro rfl
        cases text with
        | nil => exact hlone rfl rfl
        | cons e text => exact hpair e text rfl rfl
      exact items_behind [c] (fun text => by simp [items, hslash, hquote, hlow])
        (ih hitems)
  | _ => cases h

theorem lexText_of_isWhole (h : lexText text = (token, rest)) (hwhole : token.isWhole = true) :
    ∃ taken, text = taken ++ rest ∧ ∀ other, lexText (taken ++ other) = (token, other) := by
  rcases hitems : items text with ⟨parts, ending⟩
  rcases hcontent : characters parts with ⟨content, state⟩
  simp only [lexText, hitems, hcontent] at h
  cases ending with
  | stopped fault =>
      cases state <;> cases h <;> cases hwhole
  | closed after =>
      obtain ⟨taken, htext, hother⟩ := items_closed hitems
      have hafter : after = rest := by cases state <;> cases h <;> rfl
      subst hafter
      refine ⟨taken, htext, fun other => ?_⟩
      simp only [lexText, hother, hcontent]
      cases state <;> cases h <;> rfl

/-! Numbers, which end before what does not go on with them. -/

theorem Follows.append (h : Follows rest other) (taken : List Char) :
    Follows (taken ++ rest) (taken ++ other) := by
  cases taken with
  | nil => exact h
  | cons c taken => exact .inl rfl

/-- The digits in front of a text are the same if what follows them is. -/
theorem Follows.digits (h : Follows (text.dropWhile isDigit) other) :
    (text.takeWhile isDigit ++ other).takeWhile isDigit = text.takeWhile isDigit ∧
      (text.takeWhile isDigit ++ other).dropWhile isDigit = other := by
  have hrun : ∀ c ∈ text.takeWhile isDigit, isDigit c = true :=
    fun c hc => List.mem_takeWhile_imp hc
  have hother : ∀ c ∈ other.head?, isDigit c = false :=
    h.apart Text.not_of_mem_head?_dropWhile fun c hc => not_isDigit_of_isGap hc
  have hstop : other.takeWhile isDigit = [] ∧ other.dropWhile isDigit = other := by
    cases other with
    | nil => exact ⟨rfl, rfl⟩
    | cons c more => simp [hother c rfl]
  rw [List.takeWhile_append_of_pos hrun, List.dropWhile_append_of_pos hrun, hstop.1, hstop.2,
    List.append_nil]
  exact ⟨rfl, rfl⟩

/-- What a lexer makes of a text does not depend on what follows its token. -/
def Local (lex : List Char → Token × List Char) : Prop :=
  ∀ text token rest, lex text = (token, rest) → token.isWhole = true →
    ∃ taken, text = taken ++ rest ∧
      ∀ other, Follows rest other → lex (taken ++ other) = (token, other)

def lexDigits (number : List Char → Token) (text : List Char) : Token × List Char :=
  if (text.takeWhile isDigit).isEmpty then brokenNumber text
  else (number (text.takeWhile isDigit), text.dropWhile isDigit)

theorem local_digits (number : List Char → Token) : Local (lexDigits number) := by
  intro text token rest h hwhole
  unfold lexDigits at h
  split at h
  · cases h
    cases hwhole
  · next hrun =>
    cases h
    refine ⟨text.takeWhile isDigit, List.takeWhile_append_dropWhile.symm, fun other hother => ?_⟩
    simp only [lexDigits, hother.digits.1, hother.digits.2, if_neg hrun]

/-- What a lexer makes of the text behind a front is what another makes of it with the front,
as long as the text goes on as it did. -/
theorem Local.behind {lex whole : List Char → Token × List Char} (hlex : Local lex)
    (front : List Char) {text : List Char} {p : Char → Prop} (hgap : ∀ c, isGap c = true → p c)
    (hwhole : ∀ text, (∀ c ∈ text.head?, p c) → whole (front ++ text) = lex text)
    (htext : ∀ c ∈ text.head?, p c) (h : whole (front ++ text) = (token, rest))
    (htoken : token.isWhole = true) :
    ∃ taken, front ++ text = taken ++ rest ∧
      ∀ other, Follows rest other → whole (taken ++ other) = (token, other) := by
  rw [hwhole text htext] at h
  obtain ⟨taken, rfl, hother⟩ := hlex text token rest h htoken
  refine ⟨front ++ taken, (List.append_assoc ..).symm, fun other hfollows => ?_⟩
  rw [List.append_assoc, hwhole _ ((hfollows.append taken).apart htext hgap), hother other hfollows]

/-- What a lexer makes of the text behind the digits in front of it does not depend on what
follows its token, and neither do the digits. -/
theorem Local.behind_digits {lex : List Char → Token × List Char} (hlex : Local lex)
    (h : lex (text.dropWhile isDigit) = (token, rest)) (hwhole : token.isWhole = true) :
    ∃ taken, text = taken ++ rest ∧
      ∀ other, Follows rest other →
        (taken ++ other).takeWhile isDigit = text.takeWhile isDigit ∧
          lex ((taken ++ other).dropWhile isDigit) = (token, other) := by
  obtain ⟨taken, htaken, hother⟩ := hlex _ _ _ h hwhole
  refine ⟨text.takeWhile isDigit ++ taken, ?_, fun other hfollows => ?_⟩
  · rw [List.append_assoc, ← htaken, List.takeWhile_append_dropWhile]
  · have hfollows' : Follows (text.dropWhile isDigit) (taken ++ other) :=
      htaken ▸ hfollows.append taken
    rw [List.append_assoc, hfollows'.digits.1, hfollows'.digits.2]
    exact ⟨rfl, hother other hfollows⟩

variable {n : Numeral}

def withExponent (n : Numeral) (negative : Bool) (run : List Char) : Token :=
  .number { n with exponent := some (negative, run) }

theorem lexExponent_of_head (h : ∀ c ∈ text.head?, c ≠ 'e' ∧ c ≠ 'E') :
    lexExponent n text = (.number n, text) := by
  cases text with
  | nil => rfl
  | cons c rest => simp [lexExponent, h c rfl]

theorem lexExponent_unsigned {c : Char} (hc : c = 'e' ∨ c = 'E')
    (h : ∀ d ∈ text.head?, d ≠ '+' ∧ d ≠ '-') :
    lexExponent n ([c] ++ text) = lexDigits (withExponent n false) text := by
  rw [List.singleton_append, lexExponent]
  · simp only [Bool.or_eq_true, decide_eq_true_eq, if_pos hc]
    rfl
  · rintro more rfl
    exact (h '+' rfl).1 rfl
  · rintro more rfl
    exact (h '-' rfl).2 rfl

theorem lexExponent_signed {c sign : Char} (hc : c = 'e' ∨ c = 'E')
    (hsign : sign = '+' ∨ sign = '-') (text : List Char) :
    lexExponent n ([c, sign] ++ text) = lexDigits (withExponent n (sign == '-')) text := by
  rcases hsign with rfl | rfl <;> simp only [List.cons_append, List.nil_append, lexExponent,
    Bool.or_eq_true, decide_eq_true_eq, if_pos hc] <;> rfl

theorem local_exponent (n : Numeral) : Local (lexExponent n) := by
  intro text token rest h hwhole
  have hgap : ∀ c, isGap c = true → c ≠ '+' ∧ c ≠ '-' := by
    intro c hc
    simp only [isGap, Bool.or_eq_true, beq_iff_eq] at hc
    rcases hc with ((rfl | rfl) | rfl) | rfl <;> decide
  have hplain (htext : ∀ c ∈ text.head?, c ≠ 'e' ∧ c ≠ 'E') :
      ∃ taken, text = taken ++ rest ∧
        ∀ other, Follows rest other → lexExponent n (taken ++ other) = (token, other) := by
    rw [lexExponent_of_head htext] at h
    cases h
    refine ⟨[], rfl, fun other hother => lexExponent_of_head (hother.apart htext ?_)⟩
    exact fun c hc => ⟨(not_exponent_of_isGap hc).1, (not_exponent_of_isGap hc).2.1⟩
  cases text with
  | nil => exact hplain (by simp)
  | cons c text =>
      by_cases hc : c = 'e' ∨ c = 'E'
      · have hunsigned (htext : ∀ d ∈ text.head?, d ≠ '+' ∧ d ≠ '-') :=
          (local_digits (withExponent n false)).behind [c] hgap
            (fun text htext => lexExponent_unsigned hc htext) htext h hwhole
        cases text with
        | nil => exact hunsigned (by simp)
        | cons sign text =>
            by_cases hsign : sign = '+' ∨ sign = '-'
            · exact (local_digits (withExponent n (sign == '-'))).behind [c, sign]
                (p := fun _ => True) (fun _ _ => trivial)
                (fun text _ => lexExponent_signed hc hsign text) (fun _ _ => trivial) h hwhole
            · refine hunsigned ?_
              rintro d ⟨⟩
              exact not_or.mp hsign
      · refine hplain ?_
        rintro d ⟨⟩
        exact not_or.mp hc

theorem local_fraction (n : Numeral) : Local (lexFraction n) := by
  intro text token rest h hwhole
  by_cases hpoint : ∃ more, text = '.' :: more
  · obtain ⟨text, rfl⟩ := hpoint
    simp only [lexFraction] at h
    split at h
    · cases h
      cases hwhole
    · next hrun =>
      obtain ⟨taken, htaken, hother⟩ := (local_exponent _).behind_digits h hwhole
      refine ⟨'.' :: taken, congrArg ('.' :: ·) htaken, fun other hfollows => ?_⟩
      obtain ⟨hdigits, hlex⟩ := hother other hfollows
      simp only [List.cons_append, lexFraction, hdigits, if_neg hrun, hlex]
  · have hplain {text : List Char} (htext : ∀ c ∈ text.head?, c ≠ '.') :
        lexFraction n text = lexExponent n text := by
      unfold lexFraction
      split
      · exact absurd rfl (htext '.' rfl)
      · rfl
    have htext : ∀ c ∈ text.head?, c ≠ '.' := by
      rintro c hc rfl
      cases text with
      | nil => cases hc
      | cons d text =>
          cases hc
          exact hpoint ⟨text, rfl⟩
    exact (local_exponent n).behind [] (fun c hc => (not_exponent_of_isGap hc).2.2)
      (fun text htext => hplain htext) htext h hwhole

theorem local_number (negative : Bool) : Local (lexNumber negative) := by
  intro text token rest h hwhole
  unfold lexNumber at h
  dsimp only at h
  split at h
  · cases h
    cases hwhole
  · next c more hrun =>
    split at h
    · cases h
      cases hwhole
    · next hzero =>
      obtain ⟨taken, htaken, hother⟩ := (local_fraction _).behind_digits h hwhole
      refine ⟨taken, htaken, fun other hfollows => ?_⟩
      obtain ⟨hdigits, hlex⟩ := hother other hfollows
      rw [hrun] at hdigits hlex
      simp only [lexNumber, hdigits, if_neg hzero, hlex]

/-! Tokens of any kind. -/

theorem local_ite {p : Prop} [Decidable p] {lex other : List Char → Token × List Char}
    (hlex : p → Local lex) (hother : ¬p → Local other) :
    Local fun text => if p then lex text else other text := by
  intro text token rest h hwhole
  by_cases hp : p
  · simp only [if_pos hp] at h ⊢
    exact hlex hp text token rest h hwhole
  · simp only [if_neg hp] at h ⊢
    exact hother hp text token rest h hwhole

theorem local_mark (mark : Token) : Local fun text => (mark, text) := by
  intro text token rest h _
  cases h
  exact ⟨[], rfl, fun other _ => rfl⟩

theorem local_text : Local lexText := by
  intro text token rest h hwhole
  obtain ⟨taken, htext, hother⟩ := lexText_of_isWhole h hwhole
  exact ⟨taken, htext, fun other _ => hother other⟩

theorem local_word (word : Token) (letters : List Char) : Local (lexWord word letters) := by
  intro text token rest h hwhole
  obtain ⟨rfl, rfl⟩ := lexWord_of_isWhole h hwhole
  exact ⟨letters, rfl, fun other _ => lexWord_append token letters other⟩

/-- A number takes the digit that it begins with. -/
theorem local_digit {c : Char} (hc : isDigit c = true) :
    Local fun text => lexNumber false (c :: text) := by
  intro text token rest h hwhole
  change lexNumber false (c :: text) = (token, rest) at h
  obtain ⟨taken, htaken, hother⟩ := local_number false _ _ _ h hwhole
  cases taken with
  | nil =>
      obtain rfl : rest = c :: text := htaken.symm
      have hlength := length_next c text
      rw [next_of_isDigit hc, h] at hlength
      exact absurd hlength (Nat.not_succ_le_self _)
  | cons d taken =>
      obtain ⟨rfl, rfl⟩ := List.cons.inj htaken
      exact ⟨taken, rfl, hother⟩

theorem local_next (c : Char) : Local (next c) := by
  unfold next
  iterate 6 refine local_ite (fun _ => local_mark _) fun _ => ?_
  refine local_ite (fun _ => local_text) fun _ => ?_
  refine local_ite (fun _ => local_number true) fun _ => ?_
  refine local_ite local_digit fun _ => ?_
  iterate 3 refine local_ite (fun _ => local_word _ _) fun _ => ?_
  intro text token rest h hwhole
  cases h
  cases hwhole

/-- The text is cut between two of its tokens, or at one of its ends. -/
inductive Boundary : List Char → List Char → Prop
  | start (text : List Char) : Boundary [] text
  | gap {c : Char} {front back : List Char} (hgap : isGap c = true) (h : Boundary front back) :
      Boundary (c :: front) back
  | token {c : Char} {taken front back : List Char} {token : Token} (hgap : isGap c = false)
      (hnext : next c (taken ++ (front ++ back)) = (token, front ++ back))
      (hwhole : token.isWhole = true) (h : Boundary front back) :
      Boundary (c :: taken ++ front) back

/-- Blanks between two tokens leave the tokens of a text as they are. -/
theorem Boundary.list_gaps {front back gaps : List Char} (h : Boundary front back)
    (hgaps : ∀ c ∈ gaps, isGap c = true) :
    list (front ++ (gaps ++ back)) = list (front ++ back) := by
  induction h with
  | start text =>
      induction gaps with
      | nil => rfl
      | cons c gaps ih =>
          rw [List.forall_mem_cons] at hgaps
          exact (list_of_isGap hgaps.1 _).trans (ih hgaps.2)
  | gap hgap _ ih =>
      rw [List.cons_append, List.cons_append, list_of_isGap hgap, list_of_isGap hgap, ih]
  | @token c taken front back token hgap hnext hwhole _ ih =>
      have hfollows : Follows (front ++ back) (front ++ (gaps ++ back)) := by
        cases front with
        | cons c front => exact .inl rfl
        | nil =>
            cases gaps with
            | nil => exact .inl rfl
            | cons c gaps => exact .inr ⟨c, rfl, hgaps c List.mem_cons_self⟩
      obtain ⟨again, htaken, hother⟩ := local_next c _ _ _ hnext hwhole
      obtain rfl := List.append_cancel_right htaken
      simp only [List.cons_append, List.append_assoc]
      rw [list_of_next hgap hnext, list_of_next hgap (hother _ hfollows), ih]

end ClusterLaunch.Json.Token
