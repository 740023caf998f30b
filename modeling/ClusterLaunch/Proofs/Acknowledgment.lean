import ClusterLaunch.Proofs.Words
import ClusterLaunch.Receipt

/-!
What a scheduler's acknowledgment says whatever stands around it. The id is what the last
word of all says, so lines above it and blanks after it make no difference, nor do line
feeds at its ends. An id that is read from one is never blank.
-/

namespace ClusterLaunch

namespace Text

variable {p : Char → Bool} {text front : List Char}

/-- What stands before the first separator, and that nothing or a separator follows it. -/
theorem before_eq_iff : before p text = front ↔
    ∃ rest, text = front ++ rest ∧ (∀ c ∈ front, p c = false) ∧ ∀ c ∈ rest.head?, p c = true := by
  constructor
  · rintro rfl
    refine ⟨text.dropWhile (!p ·), List.takeWhile_append_dropWhile.symm, ?_, ?_⟩
    · intro c hc
      simpa using List.mem_takeWhile_imp hc
    · intro c hc
      simpa using not_of_mem_head?_dropWhile c hc
  · rintro ⟨rest, rfl, hfront, hrest⟩
    have hstop : rest.takeWhile (!p ·) = [] := by
      cases rest with
      | nil => rfl
      | cons c rest => simp [hrest c rfl]
    rw [before, List.takeWhile_append_of_pos fun c hc => by simp [hfront c hc], hstop,
      List.append_nil]

end Text

namespace Acknowledgment

open Text

variable {output id : List Char}

/-- `id` is what stands before the first semicolon of the last word of the last line that is
not blank. -/
def Says (output id : List Char) : Prop :=
  ∃ line earlier word rest, LastLine output line ∧ Spaced line (earlier ++ [word]) ∧
    word = id ++ rest ∧ ';' ∉ id ∧ ∀ c ∈ rest.head?, c = ';'

/-- The last word of the last filled line is the last word of all. -/
theorem lastWord?_eq (output : List Char) :
    lastWord? output = (words output).getLast?.map (before (· == ';')) := by
  unfold lastWord?
  rw [← flatMap_words_filledLines]
  rcases List.eq_nil_or_concat (filledLines output) with hnone | ⟨above, line, hlines⟩
  · simp [hnone]
  · have hline : line ∈ filledLines output := by simp [hlines]
    obtain ⟨earlier, word, hwords⟩ :=
      exists_words_eq_concat (not_isBlankText_of_mem_filledLines hline)
    simp [hlines, hwords]

theorem says_iff : Says output id ↔ lastWord? output = some id := by
  rw [lastWord?_eq, Option.map_eq_some_iff]
  constructor
  · rintro ⟨line, earlier, word, rest, hline, hspaced, hword, hid, hrest⟩
    refine ⟨word, ?_, before_eq_iff.mpr ⟨rest, hword, ?_, ?_⟩⟩
    · rw [getLast?_words_of_lastLine hline, words_eq_of_spaced hspaced, List.getLast?_concat]
    · exact fun c hc => beq_eq_false_iff_ne.mpr (ne_of_mem_of_not_mem hc hid)
    · exact fun c hc => beq_iff_eq.mpr (hrest c hc)
  · rintro ⟨word, hlast, hbefore⟩
    have hfilled : isBlankText output = false := by
      rw [← Bool.not_eq_true, ← words_eq_nil_iff]
      intro hnone
      rw [hnone] at hlast
      cases hlast
    obtain ⟨line, hline⟩ := exists_lastLine hfilled
    rw [getLast?_words_of_lastLine hline] at hlast
    obtain ⟨earlier, hwords⟩ := List.getLast?_eq_some_iff.mp hlast
    obtain ⟨rest, hword, hid, hrest⟩ := before_eq_iff.mp hbefore
    refine ⟨line, earlier, word, rest, hline, spaced_iff.mpr hwords, hword, ?_, ?_⟩
    · exact fun hmem => absurd (hid _ hmem) (by decide)
    · exact fun c hc => beq_iff_eq.mp (hrest c hc)

/-- What is said is a part of a word, and ends before a semicolon. -/
theorem Says.unbroken (h : Says output id) : ∀ c ∈ id, isBlank c = false ∧ c ≠ ';' := by
  obtain ⟨line, earlier, word, rest, -, hspaced, hword, hid, -⟩ := h
  have hisWord : IsWord word := hspaced.isWord word (List.mem_append_right _ List.mem_cons_self)
  intro c hc
  refine ⟨hisWord.unbroken c ?_, ne_of_mem_of_not_mem hc hid⟩
  rw [hword]
  exact List.mem_append_left rest hc

/-- What is read is what the output says, when that has a digit. -/
theorem jobId?_eq_some_iff (output id : String) :
    jobId? output = some id ↔ Says output.toList id.toList ∧ id.toList.any isDigit = true := by
  rw [says_iff, jobId?]
  constructor
  · intro h
    obtain ⟨said, hsaid, hread⟩ := Option.bind_eq_some_iff.mp h
    split at hread
    · next hdigit =>
        cases hread
        simpa [hsaid] using hdigit
    · cases hread
  · rintro ⟨hsaid, hdigit⟩
    rw [hsaid, Option.bind_eq_bind, Option.bind_some, if_pos hdigit, String.ofList_toList]

theorem jobId?_eq_none_iff (output : String) :
    jobId? output = none ↔ ∀ id, Says output.toList id → id.any isDigit = false := by
  constructor
  · intro hnone id hsaid
    by_contra hdigit
    have hread : jobId? output = some (String.ofList id) :=
      (jobId?_eq_some_iff _ _).mpr (by simpa [hsaid] using hdigit)
    cases hnone.symm.trans hread
  · intro hall
    cases hread : jobId? output with
    | none => rfl
    | some id =>
        obtain ⟨hsaid, hdigit⟩ := (jobId?_eq_some_iff _ _).mp hread
        rw [hall _ hsaid] at hdigit
        cases hdigit

theorem jobId_eq_ok_iff (output id : String) :
    jobId output = .ok id ↔ jobId? output = some id := by
  unfold jobId
  cases jobId? output <;> simp

theorem jobId_eq_error_iff (output : String) (failure : Failure) :
    jobId output = .error failure ↔
      jobId? output = none ∧ failure = .unreadableAcknowledgment output := by
  unfold jobId
  cases jobId? output <;> simp [eq_comm]

/-- What is read depends only on the last word. -/
theorem jobId?_congr {output other : String}
    (h : (words output.toList).getLast? = (words other.toList).getLast?) :
    jobId? output = jobId? other := by
  unfold jobId?
  rw [lastWord?_eq, lastWord?_eq, h]

/-- Lines above an output that is not blank do not matter. -/
theorem jobId?_below (above : String) {output : String} (h : isBlankText output.toList = false) :
    jobId? (above ++ "\n" ++ output) = jobId? output := by
  refine jobId?_congr ?_
  have hwords : words (above ++ "\n" ++ output).toList =
      words above.toList ++ words output.toList := by
    rw [String.toList_append, String.toList_append, List.append_assoc]
    exact words_append_cons (c := '\n') (by decide) above.toList output.toList
  obtain ⟨earlier, word, hlast⟩ := exists_words_eq_concat h
  rw [hwords, hlast, ← List.append_assoc, List.getLast?_concat, List.getLast?_concat]

/-- Blanks after an output do not matter. -/
theorem jobId?_append_blank (output : String) {blanks : String}
    (h : isBlankText blanks.toList = true) : jobId? (output ++ blanks) = jobId? output := by
  refine jobId?_congr ?_
  rw [String.toList_append, words_append_blank _ h]

/-- An id is read back from a last word that it makes, or that a semicolon cuts to it. -/
theorem jobId?_of_last {lead id : String} (tail : String)
    (hlead : ∀ c ∈ lead.toList.getLast?, isBlank c = true)
    (hdigit : id.toList.any isDigit = true)
    (hid : ∀ c ∈ id.toList, isBlank c = false ∧ c ≠ ';')
    (htail : ∀ c ∈ tail.toList, isBlank c = false) (hcut : ∀ c ∈ tail.toList.head?, c = ';') :
    jobId? (lead ++ id ++ tail) = some id := by
  have hword : IsWord (id.toList ++ tail.toList) := by
    refine ⟨?_, List.forall_mem_append.mpr ⟨fun c hc => (hid c hc).1, htail⟩⟩
    intro hnil
    rw [(List.append_eq_nil_iff.mp hnil).1] at hdigit
    cases hdigit
  have hwords : words (lead ++ id ++ tail).toList =
      words lead.toList ++ [id.toList ++ tail.toList] := by
    rw [String.toList_append, String.toList_append, List.append_assoc,
      words_append_of_getLast hlead, words_of_isWord hword]
  have hbefore : before (· == ';') (id.toList ++ tail.toList) = id.toList :=
    before_eq_iff.mpr ⟨tail.toList, rfl,
      fun c hc => beq_eq_false_iff_ne.mpr (hid c hc).2, fun c hc => beq_iff_eq.mpr (hcut c hc)⟩
  have hsaid : lastWord? (lead ++ id ++ tail).toList = some id.toList := by
    rw [lastWord?_eq, hwords, List.getLast?_concat, Option.map_some, hbefore]
  exact (jobId?_eq_some_iff _ _).mpr ⟨says_iff.mpr hsaid, hdigit⟩

def linesOf (above : List String) : String :=
  String.join (above.map (· ++ "\n"))

theorem getLast?_linesOf (above : List String) :
    ∀ c ∈ (linesOf above).toList.getLast?, isBlank c = true := by
  intro c hc
  rcases List.eq_nil_or_concat above with rfl | ⟨earlier, line, rfl⟩
  · cases hc
  · have hend : "\n".toList.getLast? = some '\n' := by decide
    obtain rfl : '\n' = c := by
      simpa [linesOf, List.getLast?_append, hend] using hc
    decide

section

variable {id : String} (hdigit : id.toList.any isDigit = true)
  (hid : ∀ c ∈ id.toList, isBlank c = false ∧ c ≠ ';') (above : List String)

include hdigit hid

theorem jobId?_sentence : jobId? (linesOf above ++ "Submitted batch job " ++ id) = some id := by
  have hend : "Submitted batch job ".toList.getLast? = some ' ' := by decide
  have hlead : ∀ c ∈ (linesOf above ++ "Submitted batch job ").toList.getLast?,
      isBlank c = true := by
    intro c hc
    rw [String.toList_append, List.getLast?_append, hend] at hc
    cases hc
    decide
  have hread := jobId?_of_last "" hlead hdigit hid
    (fun c hc => absurd hc List.not_mem_nil) (fun c hc => nomatch hc)
  rwa [String.append_empty] at hread

theorem jobId?_parsable {cluster : String} (hcluster : ∀ c ∈ cluster.toList, isBlank c = false) :
    jobId? (linesOf above ++ id ++ ";" ++ cluster) = some id := by
  have hblank : isBlank ';' = false := by decide
  have htail : (";" ++ cluster).toList = ';' :: cluster.toList := String.toList_append
  have hread := jobId?_of_last (";" ++ cluster) (getLast?_linesOf above) hdigit hid
    (by rw [htail]; exact List.forall_mem_cons.mpr ⟨hblank, hcluster⟩)
    (by rw [htail]; exact fun c hc => (Option.some.inj hc).symm)
  rwa [← String.append_assoc] at hread

end

/-- An id that was read is not blank, since it has a digit. -/
theorem not_isBlankText_of_jobId? {output id : String} (h : jobId? output = some id) :
    isBlankText id.toList = false := by
  obtain ⟨-, hdigit⟩ := (jobId?_eq_some_iff output id).mp h
  exact not_isBlankText_of_any_isDigit hdigit

/-- Line feeds around an acknowledgment do not change the id in it. -/
theorem jobId?_bare (output : String) : jobId? (Receipt.bare output) = jobId? output := by
  unfold jobId? lastWord? Receipt.bare
  rw [String.toList_ofList, filledLines_strip]

end Acknowledgment

namespace Receipt

variable {output id : String} {capture : Option String} {options : Options}

theorem interpret_batch_of_none (h : Acknowledgment.jobId? output = none) :
    interpret .batch capture output options =
      .error (.unreadableAcknowledgment (bare output)) := by
  unfold interpret Acknowledgment.jobId
  rw [Acknowledgment.jobId?_bare, h]

theorem interpret_batch_of_some (h : Acknowledgment.jobId? output = some id) :
    interpret .batch capture output options = .ok ⟨some id, batchOutputs id options⟩ := by
  unfold interpret Acknowledgment.jobId
  rw [Acknowledgment.jobId?_bare, h]

/-- Of an interactive job nothing is read, so nothing can be amiss. -/
theorem interpret_interactive (capture : Option String) (output : String) (options : Options) :
    interpret .interactive capture output options = .ok ⟨none, capture.toList⟩ := rfl

theorem interpret_batch_eq_ok_iff {receipt : Receipt} :
    interpret .batch capture output options = .ok receipt ↔
      ∃ id, Acknowledgment.jobId? output = some id ∧
        receipt = ⟨some id, batchOutputs id options⟩ := by
  cases h : Acknowledgment.jobId? output with
  | none => simp [interpret_batch_of_none h]
  | some id => simp [interpret_batch_of_some h, eq_comm]

theorem interpret_batch_eq_error_iff {failure : Failure} :
    interpret .batch capture output options = .error failure ↔
      Acknowledgment.jobId? output = none ∧
        failure = .unreadableAcknowledgment (bare output) := by
  cases h : Acknowledgment.jobId? output with
  | none => simp [interpret_batch_of_none h, eq_comm]
  | some id => simp [interpret_batch_of_some h]

/-- `inner` is `output` without the line feeds that it begins and ends with. -/
def IsBare (output inner : String) : Prop :=
  ∃ lead tail, output.toList = lead ++ inner.toList ++ tail ∧ (∀ c ∈ lead ++ tail, c = '\n') ∧
    inner.toList.head? ≠ some '\n' ∧ inner.toList.getLast? ≠ some '\n'

theorem isBare_bare (output : String) : IsBare output (bare output) := by
  obtain ⟨lead, tail, houtput, hlead, htail⟩ :=
    Text.exists_strip_eq (· == '\n') output.toList
  refine ⟨lead, tail, ?_, List.forall_mem_append.mpr ⟨?_, ?_⟩, ?_, ?_⟩
  · rw [bare, String.toList_ofList]
    exact houtput
  · exact fun c hc => beq_iff_eq.mp (hlead c hc)
  · exact fun c hc => beq_iff_eq.mp (htail c hc)
  · rw [bare, String.toList_ofList]
    exact fun hhead => absurd (Text.head?_strip _ hhead) (by decide)
  · rw [bare, String.toList_ofList]
    exact fun hlast => absurd (Text.getLast?_strip _ hlast) (by decide)

end Receipt

namespace Acknowledgment

open Text

/-- An acknowledgment is read to what the last word of its last line that is not blank says up
to a semicolon, if that has a digit; else the failure shows all that was printed. So an id is
never empty, and has neither a blank nor a semicolon in it. Lines above what says it make no
difference, nor do blanks after it, and an id in either of the two forms of an acknowledgment
is read back. A receipt is made of the same outputs and with the same ids, though its failure
shows the output without the line feeds around it. -/
theorem reads_last_word (output : String) :
    (∀ id, jobId output = .ok id ↔
      Says output.toList id.toList ∧ id.toList.any isDigit = true) ∧
    (∀ failure, jobId output = .error failure ↔
      failure = .unreadableAcknowledgment output ∧
        ∀ id, Says output.toList id → id.any isDigit = false) ∧
    (∀ id, jobId output = .ok id →
      id ≠ "" ∧ (∀ c ∈ id.toList, isBlank c = false ∧ c ≠ ';') ∧ id.toList.any isDigit = true) ∧
    (∀ above : String, (∃ line ∈ lines output.toList, isBlankText line = false) →
      ∀ id, jobId (above ++ "\n" ++ output) = .ok id ↔ jobId output = .ok id) ∧
    (∀ blanks : String, isBlankText blanks.toList = true →
      ∀ id, jobId (output ++ blanks) = .ok id ↔ jobId output = .ok id) ∧
    (∀ id : String, id.toList.any isDigit = true →
      (∀ c ∈ id.toList, isBlank c = false ∧ c ≠ ';') → ∀ above : List String,
        jobId (linesOf above ++ "Submitted batch job " ++ id) = .ok id ∧
        ∀ cluster : String, (∀ c ∈ cluster.toList, isBlank c = false) →
          jobId (linesOf above ++ id ++ ";" ++ cluster) = .ok id) ∧
    (∀ (capture : Option String) (options : Options),
      (∀ receipt, Receipt.interpret .batch capture output options = .ok receipt ↔
        ∃ id, jobId output = .ok id ∧
          receipt = ⟨some id, Receipt.batchOutputs id options⟩) ∧
      ∃ inner, Receipt.IsBare output inner ∧
        ∀ failure, Receipt.interpret .batch capture output options = .error failure ↔
          (∃ other, jobId output = .error other) ∧
            failure = .unreadableAcknowledgment inner) := by
  simp only [jobId_eq_ok_iff, jobId_eq_error_iff]
  refine ⟨jobId?_eq_some_iff output, ?_, ?_, ?_, ?_, ?_, ?_⟩
  · intro failure
    rw [jobId?_eq_none_iff, and_comm]
  · intro id hread
    obtain ⟨hsaid, hdigit⟩ := (jobId?_eq_some_iff output id).mp hread
    refine ⟨?_, hsaid.unbroken, hdigit⟩
    rintro rfl
    cases hdigit
  · rintro above ⟨line, hline, hfilled⟩ id
    rw [jobId?_below above (not_isBlankText_of_mem_lines hline hfilled)]
  · intro blanks hblanks id
    rw [jobId?_append_blank output hblanks]
  · intro id hdigit hid above
    exact ⟨jobId?_sentence hdigit hid above,
      fun cluster hcluster => jobId?_parsable hdigit hid above hcluster⟩
  · intro capture options
    refine ⟨fun receipt => Receipt.interpret_batch_eq_ok_iff, Receipt.bare output,
      Receipt.isBare_bare output, fun failure => ?_⟩
    rw [Receipt.interpret_batch_eq_error_iff]
    simp

end Acknowledgment

end ClusterLaunch
