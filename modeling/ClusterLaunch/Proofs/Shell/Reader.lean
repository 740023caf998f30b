import ClusterLaunch.Proofs.Fallible
import ClusterLaunch.Proofs.Shell.Octets
import ClusterLaunch.QueueSearch
import ClusterLaunch.Shell.Reader

/-!
How a shell reads a line of plain words. Octets that have no meaning of their own make up
words, blanks part the words, and a line of nothing else is a simple command. The question
for the jobs of a name is such a line where the name has no other octets.
-/

namespace ClusterLaunch.Shell.Reading

/-- An octet that stands for itself wherever it is in a word. -/
structure IsPlain (c : Char) : Prop where
  goesOn : endsWord c = false
  bare : c ∉ ['\\', '\'', '"', '$', '\x60']

instance (c : Char) : Decidable (IsPlain c) :=
  decidable_of_iff (endsWord c = false ∧ c ∉ ['\\', '\'', '"', '$', '\x60'])
    ⟨fun h => ⟨h.1, h.2⟩, fun h => ⟨h.goesOn, h.bare⟩⟩

/-- The rest of a line behind a word: nothing, or a blank and what follows it. -/
inductive Behind : List Char → Prop
  | finish : Behind []
  | blank (text : List Char) : Behind (' ' :: text)

variable {s : Source} {c : Char} {w text : List Char} {fuel : Nat}

theorem Behind.head?_ne (h : Behind text) (hc : c ≠ ' ') : (text.head? == some c) = false := by
  cases h with
  | finish => rfl
  | blank text => simpa using hc.symm

theorem rest_run (h : '\\' ∉ text) :
    rest.run { s with rest := text } = .ok (text, { s with rest := text }) := by
  unfold rest
  simp only [StateT.run_bind, StateT.run_get, pure_bind]
  split
  · exact absurd List.mem_cons_self h
  · rfl

theorem pop_run (hc : c ≠ '\n') :
    pop.run { s with rest := c :: text } = .ok ((), { s with rest := text }) := by
  unfold pop
  simp only [StateT.run_modify, beq_false_of_ne hc, Bool.false_eq_true, if_false]
  rfl

/-! Words. -/

/-- The word that plain octets make up. -/
def plainWord (w : List Char) : Word :=
  if w.isEmpty then [] else [.plain w false]

theorem literal_plainWord (c : Char) (w : List Char) :
    literal [c] false (plainWord w) = plainWord (c :: w) := by
  cases w <;> rfl

theorem IsPlain.ne {d : Char} (hc : IsPlain c)
    (hd : endsWord d = true ∨ d ∈ ['\\', '\'', '"', '$', '\x60']) : c ≠ d := by
  rintro rfl
  rcases hd with hends | hmem
  · exact absurd (hc.goesOn.symm.trans hends) Bool.false_ne_true
  · exact hc.bare hmem

theorem not_mem_append_of_plain (hw : ∀ c ∈ w, IsPlain c) (htext : '\\' ∉ text) :
    '\\' ∉ w ++ text := by
  rw [List.mem_append]
  rintro (hmem | hmem)
  · exact (hw _ hmem).bare List.mem_cons_self
  · exact htext hmem

theorem bare_behind (hbehind : Behind text) (htext : '\\' ∉ text) :
    (bare false false (fuel + 1)).run { s with rest := text } =
      .ok ([], { s with rest := text }) := by
  rw [bare]
  simp only [StateT.run_bind, rest_run htext, ok_bind]
  cases hbehind <;> rfl

theorem bare_cons (hc : IsPlain c) (htext : '\\' ∉ c :: text) :
    (bare false false (fuel + 1)).run { s with rest := c :: text } =
      ((bare false false fuel).run { s with rest := text }).map fun (w, s) =>
        (literal [c] false w, s) := by
  rw [bare]
  simp only [StateT.run_bind, rest_run htext, ok_bind]
  split
  · next heq => cases heq
  · next heq => exact absurd (List.cons.inj heq).1 (hc.ne (by decide))
  · next heq => exact absurd (List.cons.inj heq).1 (hc.ne (by decide))
  · next heq => exact absurd (List.cons.inj heq).1 (hc.ne (by decide))
  · next heq => exact absurd (List.cons.inj heq).1 (hc.ne (by decide))
  · next heq => exact absurd (List.cons.inj heq).1 (hc.ne (by decide))
  · next heq =>
      obtain ⟨rfl, rfl⟩ := List.cons.inj heq
      simp only [Bool.false_eq_true, if_false, hc.goesOn, StateT.run_bind,
        pop_run (hc.ne (.inl rfl)), ok_bind]
      cases (bare false false fuel).run _ <;> rfl

/-- Plain octets are one piece of a word, which ends where no more of them follow. -/
theorem bare_run (hw : ∀ c ∈ w, IsPlain c) (hbehind : Behind text) (htext : '\\' ∉ text)
    (hfuel : w.length < fuel) :
    (bare false false fuel).run { s with rest := w ++ text } =
      .ok (plainWord w, { s with rest := text }) := by
  induction w generalizing fuel with
  | nil =>
      cases fuel with
      | zero => cases hfuel
      | succ fuel => exact bare_behind hbehind htext
  | cons c w ih =>
      cases fuel with
      | zero => cases hfuel
      | succ fuel =>
          have hrest : ∀ d ∈ w, IsPlain d := fun d hd => hw d (List.mem_cons_of_mem c hd)
          have hback : '\\' ∉ c :: (w ++ text) := not_mem_append_of_plain hw htext
          rw [List.cons_append, bare_cons (hw c List.mem_cons_self) hback,
            ih hrest (Nat.lt_of_succ_lt_succ hfuel), ← literal_plainWord]
          rfl

/-- A line feed is no part of a word either, and neither is the sign of a comment in front. -/
structure IsPlainWord (w : List Char) : Prop where
  plain : ∀ c ∈ w, IsPlain c
  filled : w ≠ []
  begins : w.head? ≠ some '#'

instance (w : List Char) : Decidable (IsPlainWord w) :=
  -- Each octet of the word is looked at, not each character that there is.
  have : Decidable (∀ c ∈ w, IsPlain c) := List.decidableBAll _ w
  decidable_of_iff ((∀ c ∈ w, IsPlain c) ∧ w ≠ [] ∧ w.head? ≠ some '#')
    ⟨fun h => ⟨h.1, h.2.1, h.2.2⟩, fun h => ⟨h.plain, h.filled, h.begins⟩⟩

theorem wordToken_run (hw : IsPlainWord w) (hbehind : Behind text) (htext : '\\' ∉ text)
    (hfuel : w.length < fuel) :
    (wordToken false (fuel + 1)).run { s with rest := w ++ text } =
      .ok (.word, { s with rest := text, word := [.plain w false], token := .word }) := by
  have hword : plainWord w = [.plain w false] := if_neg (by simpa using hw.filled)
  rw [wordToken]
  simp only [StateT.run_bind, bare_run hw.plain hbehind htext hfuel, ok_bind, StateT.run_get,
    pure_bind, hword]
  rw [hbehind.head?_ne (by decide), hbehind.head?_ne (by decide)]
  split
  · next heq => cases heq
  · rfl

/-! Tokens. -/

/-- Blanks in front of a token are passed over. -/
theorem anyToken_blank (hs : ¬ s.held = true) (htext : '\\' ∉ text) :
    (anyToken (fuel + 1)).run { s with rest := ' ' :: text } =
      (anyToken fuel).run { s with rest := text } := by
  have hback : '\\' ∉ ' ' :: text := by simpa using htext
  rw [anyToken]
  simp only [StateT.run_bind, StateT.run_get, pure_bind, if_neg hs, rest_run hback, ok_bind,
    pop_run (by decide : ' ' ≠ '\n')]

theorem anyToken_finish (hs : ¬ s.held = true) :
    (anyToken (fuel + 1)).run { s with rest := [] } =
      .ok (.finish, { s with rest := [], token := .finish }) := by
  rw [anyToken]
  simp only [StateT.run_bind, StateT.run_get, pure_bind, if_neg hs, rest_run List.not_mem_nil,
    ok_bind]
  rfl

theorem anyToken_word (hs : ¬ s.held = true) (hw : IsPlainWord w) (hbehind : Behind text)
    (htext : '\\' ∉ text) (hfuel : w.length < fuel) :
    (anyToken (fuel + 2)).run { s with rest := w ++ text } =
      .ok (.word, { s with rest := text, word := [.plain w false], token := .word }) := by
  have hback := not_mem_append_of_plain hw.plain htext
  rw [anyToken]
  simp only [StateT.run_bind, StateT.run_get, pure_bind, if_neg hs, rest_run hback, ok_bind]
  split
  · next heq => exact absurd (List.append_eq_nil_iff.mp heq).1 hw.filled
  · next c more heq =>
      have hc : IsPlain c ∧ c ≠ '#' := by
        cases w with
        | nil => exact absurd rfl hw.filled
        | cons d w =>
            obtain ⟨rfl, -⟩ := List.cons.inj heq
            exact ⟨hw.plain _ List.mem_cons_self, fun h => hw.begins (congrArg some h)⟩
      obtain ⟨hc, hcomment⟩ := hc
      have hends := hc.goesOn
      split
      · exact absurd hends (by decide)
      · exact absurd hends (by decide)
      · exact absurd rfl hcomment
      · exact absurd hends (by decide)
      · exact absurd hends (by decide)
      · exact absurd hends (by decide)
      · exact absurd hends (by decide)
      · exact absurd hends (by decide)
      · exact absurd hends (by decide)
      · exact wordToken_run hw hbehind htext hfuel

theorem anyToken_held {found : Token} (hs : s.held = true) (htoken : s.token = found) :
    (anyToken (fuel + 1)).run s = .ok (found, { s with held := false }) := by
  subst htoken
  rw [anyToken]
  simp only [StateT.run_bind, StateT.run_get, pure_bind, if_pos hs, StateT.run_modify]
  rfl

/-- A word that is no keyword. -/
def IsFree (dialect : Dialect) (w : List Char) : Prop :=
  String.ofList w ∉ Token.keywords ∧ (dialect = .wide → String.ofList w ∉ Token.wideKeywords)

theorem isKeyword_run (s : Source) (w : List Char) :
    ∃ b, (isKeyword w).run s = .ok (b, s) ∧ (IsFree s.dialect w → b = false) := by
  refine ⟨_, rfl, fun hw => ?_⟩
  have hplain : Token.keywords.contains (String.ofList w) = false := by simpa using hw.1
  rw [hplain, Bool.false_or, Bool.and_eq_false_imp]
  intro hwide
  simpa using hw.2 (by simpa using hwide)

theorem alias?_run (hs : s.aliases = []) (w : List Char) : (alias? w).run s = .ok (none, s) := by
  unfold alias?
  simp only [StateT.run_bind, StateT.run_get, pure_bind, hs, List.isEmpty_nil, if_true]
  rfl

theorem hasPassedAlias_run {before : Source} (hbefore : before.running = []) :
    (hasPassedAlias before).run s = .ok (false, s) := by
  unfold hasPassedAlias
  simp only [hbefore, List.isEmpty_nil, if_true]
  rfl

theorem token_run {found : Token} {next : Source} (hrunning : s.running = [])
    (hlines : ¬ s.sought.lines = true) (h : (anyToken fuel).run s = .ok (found, next))
    (hnext : next.aliases = [])
    (hfound : found = .word → ∃ w, next.word = [.plain w false] ∧
      (s.sought.keywords = true → IsFree next.dialect w)) :
    (token (fuel + 1)).run s = .ok (found, { next with sought := {} }) := by
  rw [token]
  simp only [StateT.run_bind, StateT.run_get, pure_bind, h, ok_bind, if_neg hlines,
    StateT.run_modify]
  by_cases hword : found = .word
  · obtain ⟨w, hw, hfree⟩ := hfound hword
    obtain ⟨b, hb, hkeyword⟩ := isKeyword_run { next with sought := {} } w
    have hnot : ¬ (s.sought.keywords && b) = true := by
      rw [Bool.and_eq_true]
      rintro ⟨hkeywords, rfl⟩
      cases hkeyword (hfree hkeywords)
    have htext : plainText? next.word = some w := by rw [hw]; rfl
    subst hword
    split
    · simp only [bne_self_eq_false, Bool.false_eq_true, if_false, StateT.run_bind,
        StateT.run_get, pure_bind, htext, hb, ok_bind, if_neg hnot, if_true,
        alias?_run (s := { next with sought := {} }) hnext]
      rfl
    · simp only [StateT.run_bind, hasPassedAlias_run hrunning, ok_bind, bne_self_eq_false,
        Bool.false_eq_true, if_false, StateT.run_get, pure_bind, htext, hb, if_neg hnot]
      rfl
  · have hother : (found != .word) = true := by simpa using hword
    split
    · rfl
    · simp only [StateT.run_bind, hasPassedAlias_run hrunning, ok_bind]
      rfl

/-- A text in which no other names stand for words, read between two lines of a list. -/
structure IsReady (s : Source) : Prop where
  aliases : s.aliases = []
  running : s.running = []
  lines : ¬ s.sought.lines = true

theorem token_finish (hs : IsReady s) (hheld : ¬ s.held = true) :
    (token (fuel + 2)).run { s with rest := [] } =
      .ok (.finish, { s with rest := [], token := .finish, sought := {} }) := by
  refine token_run (s := { s with rest := [] }) hs.running hs.lines (anyToken_finish hheld)
    hs.aliases ?_
  rintro ⟨⟩

theorem token_word (hs : IsReady s) (hheld : ¬ s.held = true)
    (hkeywords : s.sought.keywords = true → IsFree s.dialect w) (hw : IsPlainWord w)
    (hbehind : Behind text) (htext : '\\' ∉ text) (hfuel : w.length < fuel) :
    (token (fuel + 3)).run { s with rest := w ++ text } =
      .ok (.word,
        { s with rest := text, word := [.plain w false], token := .word, sought := {} }) :=
  token_run (s := { s with rest := w ++ text }) hs.running hs.lines
    (anyToken_word hheld hw hbehind htext hfuel) hs.aliases fun _ => ⟨w, rfl, hkeywords⟩

theorem token_blank_word (hs : IsReady s) (hheld : ¬ s.held = true)
    (hkeywords : s.sought.keywords = true → IsFree s.dialect w) (hw : IsPlainWord w)
    (hbehind : Behind text) (htext : '\\' ∉ text) (hfuel : w.length < fuel) :
    (token (fuel + 4)).run { s with rest := ' ' :: (w ++ text) } =
      .ok (.word,
        { s with rest := text, word := [.plain w false], token := .word, sought := {} }) := by
  have hany : (anyToken (fuel + 3)).run { s with rest := ' ' :: (w ++ text) } =
      .ok (.word, { s with rest := text, word := [.plain w false], token := .word }) := by
    rw [anyToken_blank hheld (not_mem_append_of_plain hw.plain htext)]
    exact anyToken_word hheld hw hbehind htext hfuel
  exact token_run (s := { s with rest := ' ' :: (w ++ text) }) hs.running hs.lines hany hs.aliases
    fun _ => ⟨w, rfl, hkeywords⟩

/-- A token that was put back is the next one again. -/
theorem token_held {found : Token} (hs : IsReady s) (hheld : s.held = true)
    (htoken : s.token = found)
    (hfound : found = .word →
      ∃ w, s.word = [.plain w false] ∧ (s.sought.keywords = true → IsFree s.dialect w)) :
    (token (fuel + 2)).run s = .ok (found, { s with held := false, sought := {} }) :=
  token_run hs.running hs.lines (anyToken_held hheld htoken) hs.aliases hfound

/-! Simple commands. -/

variable {number : Nat} {words : List Word} {next : Source}

/-- A word that is no assignment is the next word of a command. -/
theorem parts_word
    (h : (token fuel).run { s with sought := ⟨false, false, words.isEmpty⟩ } = .ok (.word, next))
    (hbehind : Behind next.rest)
    (hassignment : words = [] → assignment? (next.dialect == .wide) next.word = none) :
    (parts number [] words [] (fuel + 1)).run s =
      (parts number [] (next.word :: words) [] fuel).run next := by
  have hopens : (next.rest.head? == some '(') = false := hbehind.head?_ne (by decide)
  have hnone : (if words.isEmpty = true then assignment? (next.dialect == .wide) next.word
      else none) = none := by
    split
    · next hempty => exact hassignment (List.isEmpty_iff.mp hempty)
    · rfl
  rw [parts]
  unfold seek isWide
  simp only [StateT.run_bind, StateT.run_modify, pure_bind, h, ok_bind, StateT.run_get,
    StateT.run_pure, hnone, hopens, Bool.and_false, Bool.false_and, Bool.false_eq_true, if_false]

theorem parts_finish
    (h : (token fuel).run { s with sought := ⟨false, false, words.isEmpty⟩ } =
      .ok (.finish, next)) :
    (parts number [] words [] (fuel + 1)).run s =
      .ok (.simple number [] words.reverse [], { next with held := true }) := by
  rw [parts]
  unfold seek
  simp only [StateT.run_bind, StateT.run_modify, pure_bind, h, ok_bind]
  rfl

/-- The words of a line behind the first one, each with a blank in front of it. -/
def blankBefore (words : List (List Char)) : List Char :=
  words.flatMap (' ' :: ·)

theorem behind_blankBefore (words : List (List Char)) : Behind (blankBefore words) := by
  cases words with
  | nil => exact .finish
  | cons w words => exact .blank _

theorem not_mem_blankBefore {words : List (List Char)} (hwords : ∀ w ∈ words, IsPlainWord w) :
    '\\' ∉ blankBefore words := by
  induction words with
  | nil => exact List.not_mem_nil
  | cons w words ih =>
      obtain ⟨hw, hrest⟩ := List.forall_mem_cons.mp hwords
      rw [blankBefore, List.flatMap_cons, List.cons_append, List.mem_cons]
      rintro (hblank | hmem)
      · cases hblank
      · exact not_mem_append_of_plain hw.plain (ih hrest) hmem

/-- What follows the first word of a line is read word by word, up to its end. -/
theorem parts_run {others : List (List Char)} (hothers : ∀ w ∈ others, IsPlainWord w)
    (hwords : words ≠ []) (hheld : ¬ s.held = true) (haliases : s.aliases = [])
    (hrunning : s.running = []) (hfuel : (blankBefore others).length + 5 ≤ fuel) :
    ∃ word, (parts number [] words [] fuel).run { s with rest := blankBefore others } =
      .ok (.simple number [] (words.reverse ++ others.map fun w => [.plain w false]) [],
        { s with rest := [], token := .finish, held := true, word, sought := {} }) := by
  induction others generalizing s words fuel with
  | nil =>
      obtain ⟨fuel, rfl⟩ : ∃ n, fuel = n + 3 := ⟨fuel - 3, by omega⟩
      have hfinish : (token (fuel + 2)).run
          { s with rest := [], sought := ⟨false, false, words.isEmpty⟩ } =
            .ok (.finish, { s with rest := [], token := .finish, sought := {} }) :=
        token_finish (s := { s with sought := ⟨false, false, words.isEmpty⟩ })
          ⟨haliases, hrunning, Bool.false_ne_true⟩ hheld
      refine ⟨s.word, ?_⟩
      rw [blankBefore, List.flatMap_nil, parts_finish hfinish, List.map_nil, List.append_nil]
  | cons w others ih =>
      obtain ⟨hw, hothers⟩ := List.forall_mem_cons.mp hothers
      have htext := not_mem_blankBefore hothers
      have hline : blankBefore (w :: others) = ' ' :: (w ++ blankBefore others) := rfl
      rw [hline, List.length_cons, List.length_append] at hfuel
      obtain ⟨fuel, rfl⟩ : ∃ n, fuel = n + 5 := ⟨fuel - 5, by omega⟩
      have hword : (token (fuel + 4)).run { s with
          rest := ' ' :: (w ++ blankBefore others), sought := ⟨false, false, words.isEmpty⟩ } =
            .ok (.word, { s with
              rest := blankBefore others, word := [.plain w false], token := .word, sought := {} }) :=
        token_blank_word (s := { s with sought := ⟨false, false, words.isEmpty⟩ })
          ⟨haliases, hrunning, Bool.false_ne_true⟩ hheld (by intro h; cases h) hw
          (behind_blankBefore others) htext (by omega)
      obtain ⟨word, hrun⟩ := @ih { s with word := [.plain w false], token := .word, sought := {} }
        (fuel + 4) ([.plain w false] :: words) hothers (List.cons_ne_nil _ _) hheld haliases hrunning
        (by omega)
      refine ⟨word, ?_⟩
      rw [hline, parts_word hword (behind_blankBefore others) fun h => absurd h hwords]
      refine hrun.trans ?_
      rw [List.reverse_cons, List.append_assoc]
      rfl

/-! Lines. -/

/-- A word with which a command can begin: no keyword, and no assignment. -/
structure IsFirst (dialect : Dialect) (w : List Char) : Prop where
  plain : IsPlainWord w
  free : IsFree dialect w
  assigns : assignment? (dialect == .wide) [.plain w false] = none

/-- The first word of a line has been read, and was put back. -/
structure Begun (s : Source) (w : List Char) (others : List (List Char)) : Prop where
  ready : IsReady s
  held : s.held = true
  token : s.token = .word
  word : s.word = [.plain w false]
  rest : s.rest = blankBefore others
  awaited : s.awaited = []

/-- A line has been read to its end, and the end was put back. -/
structure Ended (s : Source) : Prop where
  ready : IsReady s
  held : s.held = true
  token : s.token = .finish
  rest : s.rest = []
  awaited : s.awaited = []

/-- The simple command of a line of words. -/
def commandOf (number : Nat) (w : List Char) (others : List (List Char)) : Command :=
  .simple number [] ((w :: others).map fun w => [.plain w false]) []

theorem parts_begun {others : List (List Char)} (hs : Begun s w others) (hw : IsFirst s.dialect w)
    (hothers : ∀ w ∈ others, IsPlainWord w) (hfuel : (blankBefore others).length + 6 ≤ fuel) :
    ∃ next, (parts number [] [] [] fuel).run s = .ok (commandOf number w others, next) ∧
      Ended next := by
  obtain ⟨fuel, rfl⟩ : ∃ n, fuel = n + 3 := ⟨fuel - 3, by omega⟩
  have hfirst : (token (fuel + 2)).run
      { s with sought := ⟨false, false, ([] : List Word).isEmpty⟩ } =
        .ok (.word, { s with held := false, sought := {} }) :=
    token_held (s := { s with sought := ⟨false, false, true⟩ })
      ⟨hs.ready.aliases, hs.ready.running, Bool.false_ne_true⟩ hs.held hs.token
      fun _ => ⟨w, hs.word, by intro h; cases h⟩
  have hbehind : Behind s.rest := hs.rest ▸ behind_blankBefore others
  obtain ⟨word, hrun⟩ := @parts_run { s with held := false, sought := {} } (fuel + 2) number
    [[.plain w false]] others hothers (List.cons_ne_nil _ _) Bool.false_ne_true hs.ready.aliases
    hs.ready.running (by omega)
  refine ⟨{ s with rest := [], token := .finish, held := true, word, sought := {} }, ?_,
    ⟨⟨hs.ready.aliases, hs.ready.running, Bool.false_ne_true⟩, rfl, rfl, rfl, hs.awaited⟩⟩
  rw [parts_word hfirst hbehind fun _ => by rw [hs.word]; exact hw.assigns]
  simp only [hs.word, hs.rest] at hrun ⊢
  exact hrun

theorem Begun.putBack {others : List (List Char)} (hs : Begun s w others) {sought : Sought}
    (hlines : ¬ sought.lines = true) : Begun { s with held := true, sought } w others :=
  ⟨⟨hs.ready.aliases, hs.ready.running, hlines⟩, rfl, hs.token, hs.word, hs.rest, hs.awaited⟩

theorem Ended.putBack (hs : Ended s) {sought : Sought} (hlines : ¬ sought.lines = true) :
    Ended { s with held := true, sought } :=
  ⟨⟨hs.ready.aliases, hs.ready.running, hlines⟩, rfl, hs.token, hs.rest, hs.awaited⟩

theorem token_begun {others : List (List Char)} (hs : Begun s w others) (hw : IsFree s.dialect w) :
    (token (fuel + 2)).run s = .ok (.word, { s with held := false, sought := {} }) :=
  token_held hs.ready hs.held hs.token fun _ => ⟨w, hs.word, fun _ => hw⟩

/-- At its end a line has no other token than its end. -/
theorem token_ended (hs : Ended s) :
    (token (fuel + 2)).run s = .ok (.finish, { s with held := false, sought := {} }) :=
  token_held hs.ready hs.held hs.token nofun

/-- A reader makes a command of a line of plain words, up to the end of the line. -/
def Reads (read : Nat → Reading Command) (least : Nat) : Prop :=
  ∀ {s : Source} {w : List Char} {others : List (List Char)} {fuel : Nat}, Begun s w others →
    IsFirst s.dialect w → (∀ w ∈ others, IsPlainWord w) →
      (blankBefore others).length + least ≤ fuel →
        ∃ next, (read fuel).run s = .ok (commandOf s.line w others, next) ∧ Ended next

theorem reads_command : Reads command 9 := by
  intro s w others fuel hs hw hothers hfuel
  obtain ⟨fuel, rfl⟩ : ∃ n, fuel = n + 3 := ⟨fuel - 3, by omega⟩
  have hback : Begun { s with held := true, sought := {} } w others :=
    hs.putBack Bool.false_ne_true
  obtain ⟨next, hrun, hnext⟩ := @parts_begun _ _ (fuel + 1) s.line _ hback hw hothers (by omega)
  refine ⟨next, ?_, hnext⟩
  rw [command]
  unfold putBack
  simp only [StateT.run_bind, StateT.run_get, pure_bind, token_begun hs hw.free, ok_bind,
    StateT.run_modify]
  rw [simple]
  simp only [StateT.run_bind, StateT.run_get, pure_bind]
  exact hrun

theorem reads_piped : Reads piped 10 := by
  intro s w others fuel hs hw hothers hfuel
  obtain ⟨fuel, rfl⟩ : ∃ n, fuel = n + 3 := ⟨fuel - 3, by omega⟩
  obtain ⟨next, hrun, hnext⟩ := @reads_command s w others (fuel + 2) hs hw hothers (by omega)
  refine ⟨{ next with held := true, sought := {} }, ?_, hnext.putBack Bool.false_ne_true⟩
  rw [piped]
  unfold putBack
  simp only [StateT.run_bind, hrun, ok_bind, token_ended hnext]
  rfl

theorem reads_pipeline : Reads pipeline 11 := by
  intro s w others fuel hs hw hothers hfuel
  obtain ⟨fuel, rfl⟩ : ∃ n, fuel = n + 3 := ⟨fuel - 3, by omega⟩
  have hback : Begun { s with held := true, sought := {} } w others :=
    hs.putBack Bool.false_ne_true
  obtain ⟨next, hrun, hnext⟩ := @reads_piped _ w others (fuel + 2) hback hw hothers (by omega)
  refine ⟨next, ?_, hnext⟩
  rw [pipeline]
  unfold putBack
  simp only [StateT.run_bind, token_begun hs hw.free, ok_bind, StateT.run_modify, pure_bind]
  exact hrun

theorem reads_andOr : Reads andOr 12 := by
  intro s w others fuel hs hw hothers hfuel
  obtain ⟨fuel, rfl⟩ : ∃ n, fuel = n + 4 := ⟨fuel - 4, by omega⟩
  obtain ⟨next, hrun, hnext⟩ := @reads_pipeline s w others (fuel + 3) hs hw hothers (by omega)
  refine ⟨{ next with held := true, sought := {} }, ?_, hnext.putBack Bool.false_ne_true⟩
  rw [andOr]
  simp only [StateT.run_bind, hrun, ok_bind]
  rw [andOrOn]
  unfold putBack
  simp only [StateT.run_bind, token_ended hnext, ok_bind]
  rfl

theorem documents_run (hs : s.awaited = []) : (documents (fuel + 1)).run s = .ok ((), s) := by
  rw [documents]
  simp only [StateT.run_bind, StateT.run_get, pure_bind, hs]
  rfl

theorem commands_run {others : List (List Char)} (empty : Bool) (hs : Begun s w others)
    (hw : IsFirst s.dialect w) (hothers : ∀ w ∈ others, IsPlainWord w)
    (hfuel : (blankBefore others).length + 13 ≤ fuel) :
    ∃ next, (commands false empty fuel).run s = .ok ([commandOf s.line w others], next) ∧
      Ended next := by
  obtain ⟨fuel, rfl⟩ : ∃ n, fuel = n + 3 := ⟨fuel - 3, by omega⟩
  have hready : IsReady { s with sought := ⟨false, true, true⟩ } :=
    ⟨hs.ready.aliases, hs.ready.running, Bool.false_ne_true⟩
  have hseek : Begun { s with sought := ⟨false, true, true⟩ } w others :=
    ⟨hready, hs.held, hs.token, hs.word, hs.rest, hs.awaited⟩
  obtain ⟨next, hrun, hnext⟩ := @reads_andOr { s with held := true, sought := {} } w others
    (fuel + 2) (hs.putBack Bool.false_ne_true) hw hothers (by omega)
  refine ⟨{ next with held := true, token := .finish, sought := {} }, ?_,
    ⟨⟨hnext.ready.aliases, hnext.ready.running, Bool.false_ne_true⟩, rfl, rfl, hnext.rest,
      hnext.awaited⟩⟩
  rw [commands]
  unfold putBack seek setToken
  simp only [StateT.run_bind, StateT.run_modify, pure_bind, token_begun hseek hw.free, ok_bind,
    Bool.false_and, Bool.false_eq_true, if_false, hrun, token_ended hnext,
    documents_run (s := { next with held := false, sought := {} }) hnext.awaited]
  rfl

theorem reads_list (empty : Bool) : Reads (list false empty) 14 := by
  intro s w others fuel hs hw hothers hfuel
  obtain ⟨fuel, rfl⟩ : ∃ n, fuel = n + 1 := ⟨fuel - 1, by omega⟩
  obtain ⟨next, hrun, hnext⟩ := @commands_run s w fuel others empty hs hw hothers (by omega)
  refine ⟨next, ?_, hnext⟩
  rw [list]
  simp only [StateT.run_bind, hrun, ok_bind]
  rfl

/-- The text of a line of words. -/
def lineOf (w : List Char) (others : List (List Char)) : List Char :=
  w ++ blankBefore others

/-- A line of plain words is read as the simple command that these words are, whatever the
dialect, and nothing of it is left. -/
theorem next?_run {others : List (List Char)} (hs : IsReady s) (hw : IsFirst s.dialect w)
    (hothers : ∀ w ∈ others, IsPlainWord w) (hrest : s.rest = lineOf w others) :
    ∃ next, next?.run s = .ok (some (commandOf s.line w others), next) ∧ next.rest = [] := by
  have hready : IsReady { s with held := false, awaited := [], sought := ⟨false, true, true⟩ } :=
    ⟨hs.aliases, hs.running, Bool.false_ne_true⟩
  have hlength : s.rest.length = w.length + (blankBefore others).length := by
    rw [hrest, lineOf, List.length_append]
  obtain ⟨fuel, hfuel⟩ : ∃ n, s.rest.length * 16 + 64 = n + 3 := ⟨s.rest.length * 16 + 61, rfl⟩
  have hfirst : (token (fuel + 3)).run
      { s with held := false, awaited := [], sought := ⟨false, true, true⟩ } =
        .ok (.word, { s with rest := blankBefore others, word := [.plain w false],
                             token := .word, held := false, awaited := [], sought := {} }) := by
    have hword := @token_word
      { s with held := false, awaited := [], sought := ⟨false, true, true⟩ } w
      (blankBefore others) fuel hready Bool.false_ne_true (fun _ => hw.free) hw.plain
      (behind_blankBefore others) (not_mem_blankBefore hothers) (by omega)
    rwa [← lineOf, ← hrest] at hword
  obtain ⟨next, hrun, hnext⟩ := @reads_list true
    { s with rest := blankBefore others, word := [.plain w false], token := .word, held := true,
             awaited := [], sought := {} } w others (fuel + 3)
    ⟨⟨hs.aliases, hs.running, Bool.false_ne_true⟩, rfl, rfl, rfl, rfl, rfl⟩ hw hothers (by omega)
  refine ⟨next, ?_, hnext.rest⟩
  unfold next? putBack
  simp only [StateT.run_bind, StateT.run_modify, pure_bind, StateT.run_get, hfuel]
  simp only [hfirst, ok_bind]
  rw [if_neg (by decide)]
  simp only [StateT.run_bind, StateT.run_modify, pure_bind, hrun, ok_bind]
  rfl

/-! The question for the jobs of a name. -/

theorem isFirst_squeue (dialect : Dialect) : IsFirst dialect (octets "squeue") where
  plain := by decide
  free := ⟨by decide, fun _ => by decide⟩
  assigns := by cases dialect <;> rfl

theorem lineOf_append (a b c d e name : List Char) : lineOf a [b, c ++ name, d, e] =
    (a ++ ' ' :: b ++ ' ' :: c) ++ name ++ (' ' :: d ++ ' ' :: e) := by
  simp [lineOf, blankBefore]

theorem octets_command (job : String) :
    octets (QueueSearch.command job) = lineOf (octets "squeue")
      [octets "--noheader", octets "--name=" ++ octets job, octets "-o", octets "%A"] := by
  have hfront : octets "squeue --noheader --name=" =
      octets "squeue" ++ ' ' :: octets "--noheader" ++ ' ' :: octets "--name=" := by decide +kernel
  have hback : octets " -o %A" = ' ' :: octets "-o" ++ ' ' :: octets "%A" := by decide +kernel
  calc octets (QueueSearch.command job)
    _ = octets ("squeue --noheader --name=" ++ job) ++ octets " -o %A" := octets_append _ _
    _ = octets "squeue --noheader --name=" ++ octets job ++ octets " -o %A" :=
        congrArg (· ++ octets " -o %A") (octets_append _ _)
    _ = _ := congrArg₂ (fun front back => front ++ octets job ++ back) hfront hback
    _ = _ := (lineOf_append _ _ _ _ _ _).symm

/-- The question for the jobs of a name is read as one command, with the whole name in one of
its words, if nothing in the name has a meaning for the shell. -/
theorem next?_command {job : String} (hs : IsReady s) (hjob : ∀ c ∈ octets job, IsPlain c)
    (hrest : s.rest = octets (QueueSearch.command job)) :
    ∃ next, next?.run s = .ok (some (commandOf s.line (octets "squeue")
      [octets "--noheader", octets "--name=" ++ octets job, octets "-o", octets "%A"]), next) ∧
        next.rest = [] := by
  have hoption : IsPlainWord (octets "--name=") := by decide
  have hname : IsPlainWord (octets "--name=" ++ octets job) :=
    ⟨List.forall_mem_append.mpr ⟨hoption.plain, hjob⟩, List.append_ne_nil_of_left_ne_nil
      hoption.filled _, by
        rw [List.head?_append]
        exact hoption.begins⟩
  refine next?_run hs (isFirst_squeue s.dialect) ?_ (hrest.trans (octets_command job))
  simp only [List.forall_mem_cons, List.not_mem_nil, false_implies, implies_true, and_true]
  exact ⟨by decide, hname, by decide, by decide⟩

end ClusterLaunch.Shell.Reading
