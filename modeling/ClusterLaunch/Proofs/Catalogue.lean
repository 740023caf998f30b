import ClusterLaunch.Catalogue
import ClusterLaunch.Operation
import ClusterLaunch.Proofs.Lowercase
import Mathlib.Data.List.Basic

/-!
What a catalogue answers, told from the declarations it was made of. Every look-up is
answered by the last declaration that is filed under its key. Under the key of the
operation that is carried out, these are the declarations whose operation is that one.
-/

namespace ClusterLaunch

namespace Operation

variable {name other : String}

/-- A name has the lower-case form of the operation just if it is recognised as the
operation's: none of its letters has a form beyond ASCII, and it has no `k`. -/
theorem lowercase_eq_run_iff : Text.lowercase name = run ↔ isRun name = true :=
  Text.lowercase_eq_iff (by simp [run]) (by decide +kernel)

theorem lowercase_eq_iff_isRun (h : isRun other = true) :
    Text.lowercase name = Text.lowercase other ↔ isRun name = true := by
  rw [lowercase_eq_run_iff.mpr h, lowercase_eq_run_iff]

end Operation

def Declarations.within (d : Declarations) (deployment : String) : Declarations where
  artifacts := d.artifacts.filter fun entry => entry.key.deployment = deployment
  registries := d.registries.filter fun entry => entry.deployment = deployment

/-- Among entries that are kept with the latest first, the one that a key finds is the
latest that is filed under it. -/
theorem lookup_reverse_map {α β γ : Type} [DecidableEq β] [BEq β] [LawfulBEq β]
    (file : α → β) (value : α → γ) (entries : List α) (key : β) :
    (entries.reverse.map fun entry => (file entry, value entry)).lookup key =
      ((entries.filter fun entry => file entry = key).getLast?).map value := by
  rw [← List.head?_reverse, ← List.filter_reverse]
  induction entries.reverse with
  | nil => rfl
  | cons entry later ih =>
      by_cases h : file entry = key
      · simp [h]
      · have hkey : (key == file entry) = false := beq_eq_false_iff_ne.mpr fun heq => h heq.symm
        simp [List.lookup_cons, h, hkey, ih]

theorem ArtifactKey.folded_eq_iff (key other : ArtifactKey) :
    key.folded = other.folded ↔ key.deployment = other.deployment ∧
      key.template = other.template ∧ key.nodeType = other.nodeType ∧
      Text.lowercase key.operation = Text.lowercase other.operation := by
  simp [ArtifactKey.folded, ArtifactKey.mk.injEq]

namespace Catalogue

def declareAll (c : Catalogue) (made : List Declaration) : Catalogue :=
  made.foldl declare c

theorem declareAll_cons (c : Catalogue) (declaration : Declaration) (made : List Declaration) :
    c.declareAll (declaration :: made) = (c.declare declaration).declareAll made := rfl

theorem artifacts_declareAll (c : Catalogue) (made : List Declaration) :
    (c.declareAll made).artifacts =
      ((made.filterMap Declaration.artifact?).reverse.map fun entry =>
        (entry.key.folded, entry.registry)) ++ c.artifacts := by
  induction made generalizing c with
  | nil => rfl
  | cons declaration made ih =>
      rw [declareAll_cons, ih]
      cases declaration with
      | artifact entry => simp [declare, declareArtifact]
      | registry entry => simp [declare, declareRegistry, List.filterMap_cons]

theorem registries_declareAll (c : Catalogue) (made : List Declaration) :
    (c.declareAll made).registries =
      ((made.filterMap Declaration.address?).reverse.map fun entry =>
        ((entry.deployment, entry.name), entry.url)) ++ c.registries := by
  induction made generalizing c with
  | nil => rfl
  | cons declaration made ih =>
      rw [declareAll_cons, ih]
      cases declaration with
      | artifact entry => simp [declare, declareArtifact, List.filterMap_cons]
      | registry entry => simp [declare, declareRegistry]

/-- A catalogue gives the registry that was declared last under a key. -/
theorem registryOf?_declareAll (made : List Declaration) (key : ArtifactKey) :
    (declareAll {} made).registryOf? key =
      (((made.filterMap Declaration.artifact?).filter fun entry =>
        entry.key.folded = key.folded).getLast?).map ArtifactEntry.registry := by
  rw [registryOf?, artifacts_declareAll, List.append_nil]
  exact lookup_reverse_map (fun entry => entry.key.folded) ArtifactEntry.registry _ key.folded

/-- A catalogue gives the address that was declared last for a registry of a deployment. -/
theorem addressOf?_declareAll (made : List Declaration) (deployment name : String) :
    (declareAll {} made).addressOf? deployment name =
      (((made.filterMap Declaration.address?).filter fun entry =>
        (entry.deployment, entry.name) = (deployment, name)).getLast?).map RegistryEntry.url := by
  rw [addressOf?, registries_declareAll, List.append_nil]
  exact lookup_reverse_map (fun entry => (entry.deployment, entry.name)) RegistryEntry.url _
    (deployment, name)

/-- What counts for the operation that is carried out is declared under one of the names by
which it is recognised, whatever the one in the key. -/
theorem registryOf?_declareAll_of_isRun (made : List Declaration) {key : ArtifactKey}
    (h : Operation.isRun key.operation = true) :
    (declareAll {} made).registryOf? key =
      (((made.filterMap Declaration.artifact?).filter fun entry =>
        entry.key.deployment = key.deployment ∧ entry.key.template = key.template ∧
          entry.key.nodeType = key.nodeType ∧
          Operation.isRun entry.key.operation = true).getLast?).map ArtifactEntry.registry := by
  rw [registryOf?_declareAll]
  simp only [ArtifactKey.folded_eq_iff, Operation.lowercase_eq_iff_isRun h]

/-- The declarations of a file are made in their order. -/
theorem ofDeclarations_eq (d : Declarations) :
    ofDeclarations d =
      declareAll {} (d.artifacts.map .artifact ++ d.registries.map .registry) := by
  simp [ofDeclarations, declareAll, List.foldl_map, declare]

theorem registryOf?_ofDeclarations (d : Declarations) (key : ArtifactKey) :
    (ofDeclarations d).registryOf? key =
      ((d.artifacts.filter fun entry => entry.key.folded = key.folded).getLast?).map
        ArtifactEntry.registry := by
  rw [ofDeclarations_eq, registryOf?_declareAll]
  simp [List.filterMap_map, Function.comp_def]

theorem addressOf?_ofDeclarations (d : Declarations) (deployment name : String) :
    (ofDeclarations d).addressOf? deployment name =
      ((d.registries.filter fun entry =>
        (entry.deployment, entry.name) = (deployment, name)).getLast?).map RegistryEntry.url := by
  rw [ofDeclarations_eq, addressOf?_declareAll]
  simp [List.filterMap_map, Function.comp_def]

/-! A look-up of a deployment is answered by what is declared for that deployment. -/

theorem registryOf?_within (d : Declarations) (key : ArtifactKey) :
    (ofDeclarations (d.within key.deployment)).registryOf? key =
      (ofDeclarations d).registryOf? key := by
  rw [registryOf?_ofDeclarations, registryOf?_ofDeclarations, Declarations.within,
    List.filter_filter]
  congr 3
  funext entry
  by_cases h : entry.key.folded = key.folded
  · simp [h, ((entry.key.folded_eq_iff key).mp h).1]
  · simp [h]

theorem addressOf?_within (d : Declarations) (deployment name : String) :
    (ofDeclarations (d.within deployment)).addressOf? deployment name =
      (ofDeclarations d).addressOf? deployment name := by
  rw [addressOf?_ofDeclarations, addressOf?_ofDeclarations, Declarations.within, List.filter_filter]
  congr 3
  funext entry
  by_cases h : entry.deployment = deployment <;> simp [h]

end Catalogue

end ClusterLaunch
