import ClusterLaunch.Failure
import ClusterLaunch.Proofs.Quoted
import ClusterLaunch.Text.Blank

/-!
What the message of a failed launch tells. It begins with what was being done, and with words
that belong to one kind of failure, so stage and kind are told by it. The messages of three
kinds quote a text from outside and are fixed otherwise: an operation, an image, an answer
of the scheduler. They are one line, whatever the text is, and it is read back from them.
-/

namespace ClusterLaunch

namespace Text

variable {α : Type} {opening : α → String} {a b : α} {text : List Char}

def PrefixFree (opening : α → String) : Prop :=
  ∀ a b, (opening a).toList <+: (opening b).toList → a = b

/-- What opens a text is told by it, when no opening begins with another. -/
theorem PrefixFree.eq_of_prefix (h : PrefixFree opening) (ha : (opening a).toList <+: text)
    (hb : (opening b).toList <+: text) : a = b := by
  rcases List.prefix_or_prefix_of_prefix ha hb with hprefix | hprefix
  · exact h a b hprefix
  · exact (h b a hprefix).symm

end Text

namespace Failure

def Kind.opening : Kind → String
  | .unsupportedOperation => "unsupported operation "
  | .missingImage =>
      "the image name is mandatory and must be set on the operation implementation artifact"
  | .unresolvableImage => "unable to resolve container image URI from image name "
  | .invalidAddress => "invalid repository URL "
  | .sourceFailed => "repository lookup failed for "
  | .commandFailed => "command "
  | .unreadableAcknowledgment => "unable to parse job ID from output "
  | .missingJobId => "a job ID is required to build a monitoring handle"
  | .jobNotFound => "unable to retrieve job ID for job "
  | .invalidSettings => "invalid configuration: "

def Kind.all : List Kind :=
  table.map Prod.fst

theorem Kind.mem_all (kind : Kind) : kind ∈ all := by
  cases kind <;> decide

/-- The kinds in the words of events. -/
def Kind.words : List (Kind × String) :=
  [(.unsupportedOperation, "UnsupportedOperation"), (.missingImage, "MissingImageName"),
   (.unresolvableImage, "UnresolvableImage"), (.invalidAddress, "InvalidRepositoryUrl"),
   (.sourceFailed, "RepositoryLookupFailure"), (.commandFailed, "CommandExecutionFailure"),
   (.unreadableAcknowledgment, "JobIdParseFailure"), (.missingJobId, "MissingJobId"),
   (.jobNotFound, "JobIdLookupFailure"), (.invalidSettings, "Configuration")]

theorem Kind.label_mem_words (kind : Kind) : (kind, kind.label) ∈ words := by
  cases kind <;> decide

/-- The text from outside that a failure is about, when its message quotes this text and is
fixed otherwise. -/
def payload? : Failure → Option String
  | .unsupportedOperation operation => some operation
  | .unresolvableImage image => some image
  | .unreadableAcknowledgment output => some output
  | _ => none

variable {f g : Failure} {payload : String}

theorem opening_prefix_message (f : Failure) : f.kind.opening.toList <+: f.message.toList := by
  cases f with
  | missingImage | missingJobId => exact List.prefix_rfl
  | _ =>
      unfold message
      simp only [kind, Kind.opening, String.toList_append, List.append_assoc]
      exact List.prefix_append _ _

theorem message_of_payload? (h : f.payload? = some payload) :
    f.message = f.kind.opening ++ Text.quoted payload := by
  cases f with
  | unsupportedOperation | unresolvableImage | unreadableAcknowledgment =>
      cases h
      rfl
  | _ => cases h

theorem exists_payload?_of_kind_eq (h : f.payload? = some payload) (hkind : g.kind = f.kind) :
    ∃ other, g.payload? = some other := by
  cases f with
  | unsupportedOperation | unresolvableImage | unreadableAcknowledgment =>
      cases g <;> cases hkind
      exact ⟨_, rfl⟩
  | _ => cases h

theorem eq_of_payload?_eq (hkind : f.kind = g.kind) (hf : f.payload? = some payload)
    (hg : g.payload? = some payload) : f = g := by
  cases f with
  | unsupportedOperation | unresolvableImage | unreadableAcknowledgment =>
      cases g <;> cases hkind
      cases hf
      cases hg
      rfl
  | _ => cases hf

theorem Kind.prefixFree_opening : Text.PrefixFree opening := by
  have hall : ∀ a ∈ all, ∀ b ∈ all, a.opening.toList <+: b.opening.toList → a = b := by
    decide +kernel
  exact fun a b => hall a a.mem_all b b.mem_all

end Failure

namespace Stage

/-- The stages in the words of events and messages, in the order in which they run. -/
def words : List (Stage × String) :=
  [(.validateOperation, "validate operation"), (.buildContainer, "build container information"),
   (.submitCommand, "run command"), (.interpretOutput, "interpret command output"),
   (.retrieveJobId, "retrieve job ID"), (.buildWatch, "build job monitoring handle")]

theorem words_eq : words = all.map fun stage => (stage, stage.label) := rfl

theorem label_mem_words (stage : Stage) : (stage, stage.label) ∈ words := by
  rw [words_eq]
  exact List.mem_map.mpr ⟨stage, stage.mem_all, rfl⟩

def opening (stage : Stage) : String :=
  "failed to " ++ stage.label ++ ": "

theorem prefixFree_opening : Text.PrefixFree opening := by
  have hall : ∀ a ∈ all, ∀ b ∈ all, a.opening.toList <+: b.opening.toList → a = b := by
    decide +kernel
  exact fun a b => hall a a.mem_all b b.mem_all

end Stage

namespace StageFailure

variable {f g : StageFailure} {payload : String}

theorem message_eq (f : StageFailure) : f.message = f.stage.opening ++ f.failure.message := rfl

/-- The stage that failed and the kind of the failure are told by the message. -/
theorem stage_kind_of_message_eq (h : f.message = g.message) :
    f.stage = g.stage ∧ f.failure.kind = g.failure.kind := by
  have hchars := congrArg String.toList h
  simp only [message_eq, String.toList_append] at hchars
  have hstage : f.stage = g.stage :=
    Stage.prefixFree_opening.eq_of_prefix (List.prefix_append _ f.failure.message.toList)
      (hchars ▸ List.prefix_append _ _)
  refine ⟨hstage, ?_⟩
  -- behind the same stage stands the same message of the failure
  rw [hstage, List.append_cancel_left_eq] at hchars
  exact Failure.Kind.prefixFree_opening.eq_of_prefix f.failure.opening_prefix_message
    (hchars ▸ g.failure.opening_prefix_message)

/-- Reads the text that a message quotes, from the first quote to the end. -/
def shown? (message : String) : Option String :=
  Text.unquoted? (String.ofList (message.toList.dropWhile (· != '"')))

/-- What a message says before it quotes a text stays in one line and has no quote in it. -/
theorem opening_inline (stage : Stage) (kind : Failure.Kind) :
    ∀ c ∈ (stage.opening ++ kind.opening).toList, Text.Inline c ∧ c ≠ '"' := by
  have hstage : ∀ stage ∈ Stage.all,
      (stage.opening.toList.all fun c => decide (Text.Inline c ∧ c ≠ '"')) = true := by
    decide +kernel
  have hkind : ∀ kind ∈ Failure.Kind.all,
      (kind.opening.toList.all fun c => decide (Text.Inline c ∧ c ≠ '"')) = true := by
    decide +kernel
  rw [String.toList_append, List.forall_mem_append]
  exact ⟨fun c hc => of_decide_eq_true (List.all_eq_true.mp (hstage stage stage.mem_all) c hc),
    fun c hc => of_decide_eq_true (List.all_eq_true.mp (hkind kind kind.mem_all) c hc)⟩

theorem message_of_payload? (h : f.failure.payload? = some payload) :
    f.message = f.stage.opening ++ f.failure.kind.opening ++ Text.quoted payload := by
  rw [message_eq, Failure.message_of_payload? h, String.append_assoc]

theorem inline_message (h : f.failure.payload? = some payload) :
    ∀ c ∈ f.message.toList, Text.Inline c := by
  rw [message_of_payload? h, String.toList_append, List.forall_mem_append]
  exact ⟨fun c hc => (opening_inline _ _ c hc).1, Text.inline_quoted payload⟩

theorem shown?_message (h : f.failure.payload? = some payload) :
    shown? f.message = some payload := by
  have hquoteless : ∀ c ∈ (f.stage.opening ++ f.failure.kind.opening).toList, (c != '"') = true :=
    fun c hc => bne_iff_ne.mpr (opening_inline _ _ c hc).2
  have hquoted : (Text.quoted payload).toList.dropWhile (· != '"') =
      (Text.quoted payload).toList := by
    rw [Text.toList_quoted]
    rfl
  rw [shown?, message_of_payload? h, String.toList_append,
    List.dropWhile_append_of_pos hquoteless, hquoted, String.ofList_toList, Text.unquoted?_quoted]

/-- A message that quotes a text from outside is one line without control characters or
separators of lines, whatever the text is. The text is read back from it, and no other failed
launch has this message. -/
theorem message_inline_and_readable (h : f.failure.payload? = some payload) :
    Text.lines f.message.toList = [f.message.toList] ∧
    (∀ c ∈ f.message.toList, Text.Inline c) ∧
    shown? f.message = some payload ∧
    ∀ g : StageFailure, g.message = f.message → g = f := by
  have hinline := inline_message h
  refine ⟨Text.pieces_of_none fun c hc => ?_, hinline, shown?_message h, fun g hg => ?_⟩
  · rw [beq_eq_false_iff_ne]
    rintro rfl
    exact absurd (hinline '\n' hc) (by decide)
  · obtain ⟨hstage, hkind⟩ := stage_kind_of_message_eq hg
    obtain ⟨other, hother⟩ := Failure.exists_payload?_of_kind_eq h hkind
    have hshown : some other = some payload := by
      rw [← shown?_message hother, hg, shown?_message h]
    obtain rfl := Option.some.inj hshown
    cases f
    cases g
    rw [StageFailure.mk.injEq]
    exact ⟨hstage, Failure.eq_of_payload?_eq hkind hother h⟩

theorem message_inline_and_readable_of_controls :
    let output := "7\"\\u\x7b41\x7d\r\n\x1b[2J\u2028\u0301"
    let f : StageFailure := ⟨.interpretOutput, .unreadableAcknowledgment output⟩
    f.failure.payload? = some output ∧ Text.lines f.message.toList = [f.message.toList] ∧
      '\x1b' ∉ f.message.toList ∧ shown? f.message = some output := by
  intro output f
  have hpayload : f.failure.payload? = some output := rfl
  obtain ⟨hline, hinline, hshown, -⟩ := message_inline_and_readable hpayload
  exact ⟨hpayload, hline, fun hc => absurd (hinline _ hc) (by decide), hshown⟩

example :
    (⟨.validateOperation, .unsupportedOperation "a\n\"\\\x1b'"⟩ : StageFailure).message =
      "failed to validate operation: unsupported operation \"a\\n\\\"\\\\\\u\x7b1b\x7d'\"" := by
  decide

end StageFailure

end ClusterLaunch
