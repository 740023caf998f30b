import ClusterLaunch.Json.Token
import ClusterLaunch.Json.Value
import ClusterLaunch.Proofs.Digits

/-!
The tokens of a value's text. Both texts of a value, the compact one and the spread
one, are cut into the tokens of the value, whatever follows them, unless it would go on
with a number that stands last.
-/

namespace ClusterLaunch.Json

open Text (isDigit numeral)

mutual

def tokens : Json → List Token
  | .null => [.null]
  | .bool b => [.bool b]
  | .number n => [.number (.ofNat n)]
  | .text s => [.text (.ok s) (.ok ())]
  | .array items => .openArray :: itemTokens items
  | .object members => .openObject :: memberTokens members

def itemTokens : List Json → List Token
  | [] => [.closeArray]
  | [last] => last.tokens ++ [.closeArray]
  | head :: tail => head.tokens ++ .comma :: itemTokens tail

def memberTokens : List (String × Json) → List Token
  | [] => [.closeObject]
  | [(key, value)] => .text (.ok key) (.ok ()) :: .colon :: value.tokens ++ [.closeObject]
  | (key, value) :: tail =>
      .text (.ok key) (.ok ()) :: .colon :: value.tokens ++ .comma :: memberTokens tail

end

namespace Token

/-! No token takes more than the text it is cut from. -/

theorem length_of_items_closed {text rest : List Char} (h : (items text).2 = .closed rest) :
    rest.length ≤ text.length := by
  fun_induction items text <;> simp_all <;> omega

theorem length_lexText (text : List Char) : (lexText text).2.length ≤ text.length := by
  rcases hitems : items text with ⟨parts, ending⟩
  rcases hcontent : characters parts with ⟨content, state⟩
  simp only [lexText, hitems, hcontent]
  cases ending with
  | closed rest =>
      have hrest : rest.length ≤ text.length := length_of_items_closed (congrArg Prod.snd hitems)
      cases state <;> exact hrest
  | stopped fault => cases state <;> exact Nat.zero_le _

theorem length_dropWhile_le (text : List Char) : (text.dropWhile isDigit).length ≤ text.length :=
  (List.dropWhile_sublist isDigit).length_le

theorem length_lexExponent (n : Numeral) (text : List Char) :
    (lexExponent n text).2.length ≤ text.length := by
  unfold lexExponent
  grind [length_dropWhile_le, brokenNumber]

theorem length_lexFraction (n : Numeral) (text : List Char) :
    (lexFraction n text).2.length ≤ text.length := by
  unfold lexFraction
  grind [length_dropWhile_le, length_lexExponent, brokenNumber]

theorem length_lexNumber (negative : Bool) (text : List Char) :
    (lexNumber negative text).2.length ≤ (text.dropWhile isDigit).length := by
  unfold lexNumber
  grind [length_lexFraction, brokenNumber]

theorem length_lexWord (token : Token) (word text : List Char) :
    (lexWord token word text).2.length ≤ text.length := by
  fun_induction lexWord token word text <;> grind

theorem length_next (c : Char) (rest : List Char) : (next c rest).2.length ≤ rest.length := by
  have hnegative : (lexNumber true rest).2.length ≤ rest.length :=
    (length_lexNumber true rest).trans (length_dropWhile_le rest)
  have hplain (hc : isDigit c = true) : (lexNumber false (c :: rest)).2.length ≤ rest.length := by
    have hdrop := length_lexNumber false (c :: rest)
    rw [List.dropWhile_cons_of_pos hc] at hdrop
    exact hdrop.trans (length_dropWhile_le rest)
  have hchoice {p : Prop} [Decidable p] {a b : Token × List Char}
      (ha : p → a.2.length ≤ rest.length) (hb : b.2.length ≤ rest.length) :
      (if p then a else b).2.length ≤ rest.length := by
    split
    next h => exact ha h
    next => exact hb
  unfold next
  iterate 6 refine hchoice (fun _ => le_rfl) ?_
  refine hchoice (fun _ => length_lexText rest) ?_
  refine hchoice (fun _ => hnegative) ?_
  refine hchoice hplain ?_
  iterate 3 refine hchoice (fun _ => length_lexWord _ _ rest) ?_
  exact Nat.zero_le _

/-- Fuel beyond the length of a text changes nothing. -/
theorem listFrom_eq_list {fuel : Nat} {text : List Char} (hfuel : text.length ≤ fuel) :
    listFrom fuel text = list text := by
  -- Any two amounts of fuel that are enough are compared, since a token may take several
  -- characters and then leaves more fuel than the rest is long.
  have hany : ∀ (more less : Nat) (text : List Char), text.length ≤ less → text.length ≤ more →
      listFrom more text = listFrom less text := by
    intro more
    induction more with
    | zero =>
        intro less text _ hmore
        rw [List.length_eq_zero_iff.mp (Nat.le_zero.mp hmore)]
        cases less <;> rfl
    | succ more ih =>
        intro less text hless hmore
        cases text with
        | nil => cases less <;> rfl
        | cons c rest =>
            obtain ⟨less, rfl⟩ : ∃ n, less = n + 1 := ⟨less - 1, by grind⟩
            have hnext := length_next c rest
            simp only [List.length_cons] at hless hmore
            simp only [listFrom]
            rw [ih less rest (by omega) (by omega), ih less (next c rest).2 (by omega) (by omega)]
  exact hany fuel text.length text le_rfl hfuel

@[simp] theorem list_nil : list [] = [] := rfl

theorem list_of_isGap {c : Char} (hgap : isGap c = true) (rest : List Char) :
    list (c :: rest) = list rest := by
  rw [list, List.length_cons, listFrom, if_pos hgap, listFrom_eq_list le_rfl]

theorem list_of_next {c : Char} {rest more : List Char} {token : Token}
    (hgap : isGap c = false) (hnext : next c rest = (token, more)) :
    list (c :: rest) = token :: list more := by
  have hlength := length_next c rest
  rw [hnext] at hlength
  rw [list, List.length_cons, listFrom, if_neg (by simp [hgap]), hnext]
  exact congrArg (token :: ·) (listFrom_eq_list hlength)

/-! Strings. -/

def Item.Writes (part : Item) (c : Char) : Prop :=
  ∀ parts, characters (part :: parts) = (c :: (characters parts).1, (characters parts).2)

theorem char_writes (c : Char) : (Item.char c).Writes c := fun _ => rfl

/-- A unit that belongs to no pair is the character of its number. -/
theorem unit_writes {n : Nat} (hlead : isLead n = false) (htrail : isTrail n = false) :
    (Item.unit n).Writes (Char.ofNat n) := by
  intro parts
  rcases parts with _ | ⟨_ | _, _⟩ <;> simp [characters, hlead, htrail]

theorem unit?_padded {n : Nat} (hn : n < 16 ^ 4) :
    ∃ a b c d, Text.padded 16 4 n = [a, b, c, d] ∧ unit? a b c d = some n := by
  refine ⟨_, _, _, _, rfl, ?_⟩
  have hread := Text.readOn_padded (by decide : 0 < 16) le_rfl 4 n 0 []
  rw [Nat.zero_mul, Nat.zero_add, Nat.mod_eq_of_lt hn] at hread
  exact hread

/-- What is written for a character is read as one item, which stands for it. -/
theorem items_escape (c : Char) :
    ∃ part : Item, part.Writes c ∧
      ∀ more, items (escape c ++ more) = (part :: (items more).1, (items more).2) := by
  by_cases hshort : c ∈ ['"', '\\', '\n', '\r', '\t', '\x08', '\x0c']
  · refine ⟨.char c, char_writes c, fun more => ?_⟩
    simp only [List.mem_cons, List.not_mem_nil, or_false] at hshort
    rcases hshort with rfl | rfl | rfl | rfl | rfl | rfl | rfl <;> simp [escape, items, escape?]
  · simp only [List.mem_cons, List.not_mem_nil, or_false, not_or] at hshort
    obtain ⟨hquote, hslash, hn, hr, ht, hb, hf⟩ := hshort
    by_cases hlow : c < ' '
    · have hbound : c.toNat < 32 := hlow
      obtain ⟨w, x, y, z, hpadded, hunit⟩ := unit?_padded (hbound.trans (by decide))
      refine ⟨.unit c.toNat, ?_, fun more => ?_⟩
      · have hwrites : (Item.unit c.toNat).Writes (Char.ofNat c.toNat) :=
          unit_writes (by grind [isLead]) (by grind [isTrail])
        rwa [Char.ofNat_toNat] at hwrites
      · simp [escape, hquote, hslash, hn, hr, ht, hb, hf, hlow, hpadded, items, hunit]
    · refine ⟨.char c, char_writes c, fun more => ?_⟩
      simp [escape, hquote, hslash, hn, hr, ht, hb, hf, hlow, items]

theorem items_flatMap_escape (cs rest : List Char) :
    ∃ parts, items (cs.flatMap escape ++ '"' :: rest) = (parts, .closed rest) ∧
      characters parts = (cs, .complete) := by
  induction cs with
  | nil => exact ⟨[], by simp [items], rfl⟩
  | cons c cs ih =>
      obtain ⟨parts, hitems, hcontent⟩ := ih
      obtain ⟨part, hwrites, hescape⟩ := items_escape c
      refine ⟨part :: parts, ?_, ?_⟩
      · rw [List.flatMap_cons, List.append_assoc, hescape, hitems]
      · rw [hwrites, hcontent]

theorem lexText_quoted (s : String) (rest : List Char) :
    lexText (s.toList.flatMap escape ++ '"' :: rest) = (.text (.ok s) (.ok ()), rest) := by
  obtain ⟨parts, hitems, hcontent⟩ := items_flatMap_escape s.toList rest
  simp only [lexText, hitems, hcontent, String.ofList_toList]

theorem list_quote (s : String) (rest : List Char) :
    list (quote s ++ rest) = .text (.ok s) (.ok ()) :: list rest := by
  rw [quote, List.append_assoc, List.cons_append, List.singleton_append]
  exact list_of_next rfl (lexText_quoted s rest)

/-! Numbers. -/

/-- The text does not go on with a number that stands before it. -/
def Apart (text : List Char) : Prop :=
  ∀ c ∈ text.head?, isDigit c = false ∧ c ≠ '.' ∧ c ≠ 'e' ∧ c ≠ 'E'

theorem apart_nil : Apart [] := nofun

theorem lexFraction_apart (n : Numeral) {rest : List Char} (hapart : Apart rest) :
    lexFraction n rest = (.number n, rest) := by
  cases rest with
  | nil => rfl
  | cons c more =>
      obtain ⟨-, hpoint, hsmall, hcapital⟩ := hapart c rfl
      simp [lexFraction, lexExponent, hpoint, hsmall, hcapital]

theorem lexNumber_numeral (n : Nat) {rest : List Char} (hapart : Apart rest) :
    lexNumber false (numeral 10 n ++ rest) = (.number (.ofNat n), rest) := by
  obtain ⟨c, more, hnumeral, hzero⟩ := Text.exists_numeral_eq n
  have hdigits : ∀ c ∈ numeral 10 n, isDigit c = true :=
    fun c hc => Text.isDigit_of_mem_numeral hc
  have hstop : rest.takeWhile isDigit = [] ∧ rest.dropWhile isDigit = rest := by
    cases rest with
    | nil => exact ⟨rfl, rfl⟩
    | cons c more => simp [(hapart c rfl).1]
  have htake : (numeral 10 n ++ rest).takeWhile isDigit = c :: more := by
    rw [List.takeWhile_append_of_pos hdigits, hstop.1, List.append_nil, hnumeral]
  have hdrop : (numeral 10 n ++ rest).dropWhile isDigit = rest := by
    rw [List.dropWhile_append_of_pos hdigits, hstop.2]
  have hplain : ¬(c = '0' && !more.isEmpty) = true := by
    intro h
    simp only [Bool.and_eq_true, decide_eq_true_eq] at h
    simp [hzero h.1] at h
  simp only [lexNumber, htake, hdrop, if_neg hplain]
  rw [lexFraction_apart _ hapart, Numeral.ofNat, hnumeral]

theorem ne_of_isDigit {c d : Char} (hc : isDigit c = true) (hd : isDigit d = false) : c ≠ d := by
  rintro rfl
  exact Bool.false_ne_true (hd.symm.trans hc)

theorem next_of_isDigit {c : Char} (hc : isDigit c = true) (rest : List Char) :
    next c rest = lexNumber false (c :: rest) := by
  rw [next]
  iterate 8 rw [if_neg (ne_of_isDigit hc (by decide))]
  rw [if_pos hc]

theorem list_numeral (n : Nat) {rest : List Char} (hapart : Apart rest) :
    list (numeral 10 n ++ rest) = .number (.ofNat n) :: list rest := by
  obtain ⟨c, more, hnumeral, -⟩ := Text.exists_numeral_eq n
  have hdigit : isDigit c = true :=
    Text.isDigit_of_mem_numeral (hnumeral ▸ List.mem_cons_self)
  have hgap : isGap c = false := by
    simp [isGap, ne_of_isDigit hdigit (show isDigit ' ' = false by decide),
      ne_of_isDigit hdigit (show isDigit '\n' = false by decide),
      ne_of_isDigit hdigit (show isDigit '\t' = false by decide),
      ne_of_isDigit hdigit (show isDigit '\r' = false by decide)]
  have hlex := lexNumber_numeral n hapart
  rw [hnumeral, List.cons_append] at hlex ⊢
  exact list_of_next hgap ((next_of_isDigit hdigit _).trans hlex)

/-! Values. Inside a container every value is followed by a comma or by the closing
bracket, or by a line feed before that, and none of these goes on with a number. -/

theorem list_mark (rest : List Char) :
    list ('[' :: rest) = .openArray :: list rest ∧ list (']' :: rest) = .closeArray :: list rest ∧
    list ('\x7b' :: rest) = .openObject :: list rest ∧
    list ('\x7d' :: rest) = .closeObject :: list rest ∧
    list (',' :: rest) = .comma :: list rest ∧ list (':' :: rest) = .colon :: list rest :=
  ⟨list_of_next rfl rfl, list_of_next rfl rfl, list_of_next rfl rfl, list_of_next rfl rfl,
    list_of_next rfl rfl, list_of_next rfl rfl⟩

theorem apart_mark {c : Char} (hc : c ∈ [',', ']', '\x7d', '\n']) (rest : List Char) :
    Apart (c :: rest) := by
  rintro d ⟨⟩
  simp only [List.mem_cons, List.not_mem_nil, or_false] at hc
  rcases hc with rfl | rfl | rfl | rfl <;> decide

mutual

/-- A compact text is cut into the tokens of its value. -/
theorem list_compact (json : Json) {rest : List Char} (hapart : Apart rest) :
    list (json.compact ++ rest) = json.tokens ++ list rest := by
  match json with
  | .null => exact list_of_next rfl rfl
  | .bool true => exact list_of_next rfl rfl
  | .bool false => exact list_of_next rfl rfl
  | .number n => exact list_numeral n hapart
  | .text s => exact list_quote s rest
  | .array items =>
      have hitems := list_compactItems items rest
      simp only [compact, tokens, List.cons_append, list_mark, hitems]
  | .object members =>
      have hmembers := list_compactMembers members rest
      simp only [compact, tokens, List.cons_append, list_mark, hmembers]

theorem list_compactItems (items : List Json) (rest : List Char) :
    list (compactItems items ++ rest) = itemTokens items ++ list rest := by
  match items with
  | [] => exact list_of_next rfl rfl
  | [last] =>
      have hlast := list_compact last (apart_mark (by decide : ']' ∈ _) rest)
      simp [compactItems, itemTokens, hlast, list_mark]
  | head :: second :: tail =>
      have hhead := list_compact head
        (apart_mark (by decide : ',' ∈ _) (compactItems (second :: tail) ++ rest))
      have htail := list_compactItems (second :: tail) rest
      simp [compactItems, itemTokens, hhead, htail, list_mark]

theorem list_compactMembers (members : List (String × Json)) (rest : List Char) :
    list (compactMembers members ++ rest) = memberTokens members ++ list rest := by
  match members with
  | [] => exact list_of_next rfl rfl
  | [(key, value)] =>
      have hvalue := list_compact value (apart_mark (by decide : '\x7d' ∈ _) rest)
      simp [compactMembers, memberTokens, list_quote, hvalue, list_mark]
  | (key, value) :: second :: tail =>
      have hvalue := list_compact value
        (apart_mark (by decide : ',' ∈ _) (compactMembers (second :: tail) ++ rest))
      have htail := list_compactMembers (second :: tail) rest
      simp [compactMembers, memberTokens, list_quote, hvalue, htail, list_mark]

end

/-! Blanks between tokens. -/

theorem list_blank (rest : List Char) : list (' ' :: rest) = list rest :=
  list_of_isGap rfl rest

theorem list_newline (level : Nat) (rest : List Char) :
    list (newline level ++ rest) = list rest := by
  have hblanks : ∀ n, list (List.replicate n ' ' ++ rest) = list rest := by
    intro n
    induction n with
    | zero => rfl
    | succ n ih => rw [List.replicate_succ, List.cons_append, list_blank, ih]
  rw [newline, List.cons_append, list_of_isGap rfl, hblanks]

theorem apart_newline (level : Nat) (rest : List Char) : Apart (newline level ++ rest) :=
  apart_mark (by decide) _

mutual

/-- A spread text is cut into the tokens of its value. -/
theorem list_spread (level : Nat) (json : Json) {rest : List Char} (hapart : Apart rest) :
    list (json.spread level ++ rest) = json.tokens ++ list rest := by
  match json with
  | .null | .bool _ | .number _ | .text _ | .array [] | .object [] =>
      simpa only [spread] using list_compact _ hapart
  | .array (head :: tail) =>
      have hitems := list_spreadItems level (head :: tail) rest
      simp only [spread, tokens, List.cons_append, list_mark, hitems]
  | .object (head :: tail) =>
      have hmembers := list_spreadMembers level (head :: tail) rest
      simp only [spread, tokens, List.cons_append, list_mark, hmembers]

theorem list_spreadItems (level : Nat) (items : List Json) (rest : List Char) :
    list (spreadItems level items ++ rest) = itemTokens items ++ list rest := by
  match items with
  | [] => simp [spreadItems, itemTokens, list_newline, list_mark]
  | [last] =>
      have hlast := list_spread (level + 1) last (apart_newline level (']' :: rest))
      simp [spreadItems, itemTokens, list_newline, hlast, list_mark]
  | head :: second :: tail =>
      have hhead := list_spread (level + 1) head
        (apart_mark (by decide : ',' ∈ _) (spreadItems level (second :: tail) ++ rest))
      have htail := list_spreadItems level (second :: tail) rest
      simp [spreadItems, itemTokens, list_newline, hhead, htail, list_mark]

theorem list_spreadMembers (level : Nat) (members : List (String × Json)) (rest : List Char) :
    list (spreadMembers level members ++ rest) = memberTokens members ++ list rest := by
  match members with
  | [] => simp [spreadMembers, memberTokens, list_newline, list_mark]
  | [(key, value)] =>
      have hvalue := list_spread (level + 1) value (apart_newline level ('\x7d' :: rest))
      simp [spreadMembers, memberTokens, list_newline, list_quote, list_blank, hvalue, list_mark]
  | (key, value) :: second :: tail =>
      have hvalue := list_spread (level + 1) value
        (apart_mark (by decide : ',' ∈ _) (spreadMembers level (second :: tail) ++ rest))
      have htail := list_spreadMembers level (second :: tail) rest
      simp [spreadMembers, memberTokens, list_newline, list_quote, list_blank, hvalue, htail,
        list_mark]

end

end Token

end ClusterLaunch.Json
