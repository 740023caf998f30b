import ClusterLaunch.Document.Declarations
import ClusterLaunch.Document.Request
import ClusterLaunch.Document.Settings
import ClusterLaunch.Proofs.Json.Record

/-!
Documents keep what they hold. Every value of a type that has a document is read back
from each of its texts, be they compact or spread, so that writing what was read from
some other text changes neither the value nor, from then on, the text.
-/

namespace ClusterLaunch

open Json

namespace Json

variable {α : Type} {read : Tree → Except Fault α} {write : α → Json}

def forms : List (Json → String) := [compress, pretty]

/-- A value is read back from each of its texts, and what was read from any text at all
is read back in the same way, after which its text stays what it is. -/
structure Faithful (read : Tree → Except Fault α) (write : α → Json) : Prop where
  returns : ∀ form ∈ forms, ∀ value, readDocument read (form (write value)) = .ok value
  settles : ∀ form ∈ forms, ∀ text value, readDocument read text = .ok value →
    ∃ again, readDocument read (form (write value)) = .ok again ∧ again = value ∧
      form (write again) = form (write value)

theorem readDocument_form {form : Json → String} (hform : form ∈ forms) (json : Json) :
    readDocument read (form json) = read json.tree := by
  simp only [forms, List.mem_cons, List.not_mem_nil, or_false] at hform
  rcases hform with rfl | rfl
  · exact readDocument_compress read json
  · exact readDocument_pretty read json

/-- What is recovered from the tree of a value is recovered from its texts. -/
theorem Recovers.faithful (hread : Recovers read write) : Faithful read write where
  returns _ hform value := (readDocument_form hform _).trans (hread value)
  settles _ hform _ value _ :=
    ⟨value, (readDocument_form hform _).trans (hread value), rfl, rfl⟩

end Json

/-! Requests. -/

theorem recovers_ofText : Recovers (readOptional readText) ofText :=
  recovers_text.ofOption nofun

theorem recovers_ofWord32 : Recovers (readOptional readWord32) ofWord32 :=
  recovers_word32.ofOption nofun

theorem Assignment.recovers : Recovers record.read toJson := by
  intro a
  exact record.read_written (by decide)
    (.cons (recovers_text a.name) (.cons (recovers_text a.value) .nil)) rfl

theorem Options.recovers : Recovers record.read toJson := by
  intro o
  exact record.read_written (by decide)
    (.cons (recovers_ofText o.name) <| .cons (recovers_ofWord32 o.nodes) <|
      .cons (recovers_ofWord32 o.tasks) <| .cons (recovers_ofWord32 o.cpusPerTask) <|
      .cons (recovers_ofText o.memory) <| .cons (recovers_ofText o.maxTime) <|
      .cons (recovers_ofText o.partition) <| .cons (recovers_ofText o.reservation) <|
      .cons (recovers_ofText o.account) <| .cons (recovers_texts o.extra) .nil) rfl

theorem recovers_mode : Recovers (readVariant Document.modes) fun mode => .text mode.name := by
  intro mode
  refine readVariant_text ?_
  cases mode <;> rfl

theorem Order.recovers : Recovers record.read toJson := by
  intro o
  exact record.read_written (by decide)
    (.cons (recovers_mode o.mode) <| .cons (Options.recovers o.options) <|
      .cons (recovers_word64.ofOption nofun o.pollSeconds) .nil) rfl

theorem Request.recovers : Recovers record.read toJson := by
  intro r
  exact record.read_written (by decide)
    (.cons (recovers_text r.operation) <| .cons (recovers_text r.deployment) <|
      .cons (recovers_text r.nodeType) <| .cons (recovers_text r.template) <|
      .cons (recovers_text r.image) <| .cons (Assignment.recovers.array r.inputs) <|
      .cons (recovers_texts r.arguments) <| .cons (recovers_text r.directory) <|
      .cons (Order.recovers r.order) .nil) rfl

/-! Declarations. -/

theorem ArtifactKey.read_members (key : ArtifactKey) :
    record.read (object key.members).tree = .ok key := by
  exact record.read_written (by decide)
    (.cons (recovers_text key.deployment) <| .cons (recovers_text key.template) <|
      .cons (recovers_text key.nodeType) <| .cons (recovers_text key.operation) .nil) rfl

/-- The members of a key are kept until the registry beside them has been read. -/
theorem ArtifactEntry.collect_members (key : ArtifactKey) (registry : String) :
    collect none (memberTrees (key.members ++ [("repository", .text registry)])) =
      .ok (some registry, memberTrees key.members) := by
  simp [ArtifactKey.members, memberTrees, tree, collect, Tree.key, Tree.wellFormed, readText,
    bind, Except.bind, Except.map, pure, Except.pure]

theorem ArtifactEntry.recovers : Recovers read toJson := by
  intro entry
  have hkey := ArtifactKey.read_members entry.key
  rw [tree] at hkey
  rw [toJson, tree, read, collect_members]
  simp [hkey, bind, Except.bind, pure, Except.pure]

theorem RegistryEntry.recovers : Recovers record.read toJson := by
  intro entry
  exact record.read_written (by decide)
    (.cons (recovers_text entry.deployment) <| .cons (recovers_text entry.name) <|
      .cons (recovers_text entry.url) .nil) rfl

theorem Declarations.recovers : Recovers record.read toJson := by
  intro d
  exact record.read_written (by decide)
    (.cons (ArtifactEntry.recovers.array d.artifacts) <|
      .cons (RegistryEntry.recovers.array d.registries) .nil) rfl

/-! Lengths of time, and what holds them. -/

theorem Duration.ofParts?_parts (d : Duration) :
    ofParts? d.seconds.toNat d.nanos.val = some d := by
  have hnanos : d.nanos.val / 1000000000 = 0 := Nat.div_eq_of_lt d.nanos.isLt
  rw [ofParts?, hnanos, Nat.add_zero, if_pos d.seconds.toNat_lt_size, UInt64.ofNat_toNat,
    Fin.ofNat_val_eq_self]

theorem Duration.recovers : Recovers record.read toJson := by
  intro d
  have hnanos : (UInt32.ofNat d.nanos.val).toNat = d.nanos.val :=
    UInt32.toNat_ofNat_of_lt' (d.nanos.isLt.trans (by decide))
  have hread : readWord32 (number (UInt32.ofNat d.nanos.val).toNat).tree =
      .ok (UInt32.ofNat d.nanos.val) := recovers_word32 _
  rw [hnanos] at hread
  refine record.read_written (by decide)
    (.cons (recovers_word64 d.seconds) <| .cons hread .nil) ?_
  simp only [record, hnanos, ofParts?_parts]

theorem Watch.recovers : Recovers record.read toJson := by
  intro w
  exact record.read_written (by decide)
    (.cons (recovers_text w.deployment) <| .cons (recovers_text w.jobId) <|
      .cons (Duration.recovers w.poll) .nil) rfl

theorem Settings.recovers : Recovers record.read toJson := by
  intro s
  exact record.read_written (by decide)
    (.cons (Duration.recovers s.poll) <| .cons (recovers_text s.lead) <|
      .cons (recovers_word32 s.attempts) <| .cons (Duration.recovers s.pause) <|
      .cons (Duration.recovers.ofOption nofun s.timeout) .nil) rfl

theorem Image.Origin.recovers : Recovers record.read toJson := by
  intro o
  exact record.read_written (by decide)
    (.cons (recovers_ofText o.name) <| .cons (recovers_ofText o.url) .nil) rfl

/-- All that is written as a document is read back from it: requests, their orders and
options, declarations, watches, settings and origins of images. -/
theorem Document.read_back :
    Faithful Request.record.read Request.toJson ∧ Faithful Order.record.read Order.toJson ∧
    Faithful Options.record.read Options.toJson ∧
    Faithful Declarations.record.read Declarations.toJson ∧
    Faithful Watch.record.read Watch.toJson ∧ Faithful Settings.record.read Settings.toJson ∧
    Faithful Image.Origin.record.read Image.Origin.toJson :=
  ⟨Request.recovers.faithful, Order.recovers.faithful, Options.recovers.faithful,
    Declarations.recovers.faithful, Watch.recovers.faithful, Settings.recovers.faithful,
    Image.Origin.recovers.faithful⟩

end ClusterLaunch
