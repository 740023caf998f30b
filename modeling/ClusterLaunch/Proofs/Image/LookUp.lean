import ClusterLaunch.CommandLine.Result
import ClusterLaunch.Proofs.Catalogue
import ClusterLaunch.Proofs.Image

/-!
Resolving an image by declarations that are looked up. Only images in a registry are asked
about: first which registry is declared for the artifact, and then, if one with a name is,
which address it has in the deployment. What is found is resolved as if it had been given,
so declaring an address for an artifact is the same as naming it on the command line.
-/

namespace ClusterLaunch

namespace Image

variable {source : Source} {key : ArtifactKey} {image name : String} {origin : Origin}

/-- Only the address of an origin has a part in what an image becomes. -/
theorem resolve_congr {other : Origin} (h : other.address? = origin.address?) :
    resolve image other = resolve image origin := by
  simp only [resolve, rehosted?, h]

/-- An image that is in no registry becomes the same under every origin. -/
theorem resolve_of_unregistered (h : (kind image).scheme? = none) (other : Origin) :
    resolve image other = resolve image origin := by
  simp only [resolve, rehosted?, h]
  cases kind image <;> rfl

theorem address?_of_unnamed {found : Option String} (h : found.getD "" = "") (url : Option String) :
    (⟨found, url⟩ : Origin).address? = none := by
  cases found with
  | none => rfl
  | some name =>
      obtain rfl : name = "" := h
      cases url <;> simp [Origin.address?]

/-! The registry that is found. -/

theorem lookUp_of_refused {fault : SourceFault} (h : source.registry key = .error fault) :
    lookUp source key = (.error (.sourceFailed key.display fault), [.asked (.artifact key)]) := by
  simp only [lookUp, h]

/-- Nothing more is asked when no registry is found, or one without a name. -/
theorem lookUp_of_unnamed {found : Option String} (h : source.registry key = .ok found)
    (hfound : found.getD "" = "") : lookUp source key = (.ok {}, [.asked (.artifact key)]) := by
  cases found with
  | none => simp only [lookUp, h]
  | some name =>
      obtain rfl : name = "" := hfound
      simp [lookUp, h]

theorem lookUp_of_named (h : source.registry key = .ok (some name)) (hname : name ≠ "") :
    lookUp source key =
      (match source.address key.deployment name with
        | .error fault => .error (.sourceFailed (registryContext key.deployment name) fault)
        | .ok url => .ok ⟨some name, url⟩,
      [.asked (.artifact key), .asked (.registry key.deployment name)]) := by
  simp only [lookUp, h, String.isEmpty_iff, if_neg hname]
  cases source.address key.deployment name <;> rfl

/-! What is made of it. -/

theorem resolveFrom_of_unregistered (h : (kind image).scheme? = none) :
    resolveFrom source key image = (resolve image {}, []) := by
  simp only [resolveFrom, h]

theorem resolveFrom_of_error {scheme : String} {failure : Failure} {asked : Trail}
    (hscheme : (kind image).scheme? = some scheme)
    (h : lookUp source key = (.error failure, asked)) :
    resolveFrom source key image = (.error failure, asked) := by
  simp only [resolveFrom, hscheme, h]

theorem resolveFrom_of_ok {scheme : String} {asked : Trail}
    (hscheme : (kind image).scheme? = some scheme) (h : lookUp source key = (.ok origin, asked)) :
    resolveFrom source key image =
      (resolve image origin, asked ++ Trail.ofNotices (notes image origin)) := by
  simp only [resolveFrom, hscheme, h]

theorem scheme?_eq_none_of {image : String}
    (h : image = "" ∨ kind image = .file ∨ kind image = .unknown) :
    (kind image).scheme? = none := by
  rcases h with rfl | h | h
  · rfl
  · rw [h]
    rfl
  · rw [h]
    rfl

theorem exists_scheme?_of {image : String}
    (h : kind image = .docker ∨ kind image = .singularityHub) :
    ∃ scheme, (kind image).scheme? = some scheme := by
  rcases h with h | h
  · exact ⟨_, by rw [h]; rfl⟩
  · exact ⟨_, by rw [h]; rfl⟩

/-- An address on the command line stands for a registry with any name. -/
theorem address?_originOf (hname : name ≠ "") (url : String) :
    (CommandLine.originOf (some url)).address? = (⟨some name, some url⟩ : Origin).address? := by
  have hadHoc : CommandLine.adHocName.isEmpty = false := rfl
  have hgiven : name.isEmpty = false := by simpa [String.isEmpty_iff] using hname
  simp only [CommandLine.originOf, Origin.address?, hadHoc, hgiven]

/-- What is found for an image in a registry is resolved as if it had been given, and a
failure to find it is the failure of the whole. -/
theorem resolveFrom_fst {scheme : String} (hscheme : (kind image).scheme? = some scheme) :
    (resolveFrom source key image).1 = (lookUp source key).1.bind (resolve image) := by
  rcases h : lookUp source key with ⟨_ | origin, asked⟩
  · rw [resolveFrom_of_error hscheme h]
    rfl
  · rw [resolveFrom_of_ok hscheme h]
    rfl

theorem queries_resolveFrom {scheme : String} (hscheme : (kind image).scheme? = some scheme) :
    (resolveFrom source key image).2.queries = (lookUp source key).2.queries := by
  rcases h : lookUp source key with ⟨_ | origin, asked⟩
  · rw [resolveFrom_of_error hscheme h]
  · rw [resolveFrom_of_ok hscheme h, Trail.queries_append, Trail.queries_ofNotices,
      List.append_nil]

/-- A declared address has the effect that it has on the command line. -/
theorem resolveFrom_of_declared {url : String} (hregistry : source.registry key = .ok (some name))
    (hname : name ≠ "") (haddress : source.address key.deployment name = .ok (some url)) :
    (resolveFrom source key image).1 = resolve image (CommandLine.originOf (some url)) := by
  cases hscheme : (kind image).scheme? with
  | none =>
      rw [resolveFrom_of_unregistered hscheme]
      exact (resolve_of_unregistered hscheme _).symm
  | some scheme =>
      rw [resolveFrom_fst hscheme, lookUp_of_named hregistry hname, haddress]
      exact (resolve_congr (address?_originOf hname url)).symm

/-- Resolving by declarations is resolving with what they give. Nothing is asked about an image
that is in no registry; about others it is asked which registry the artifact has and, if one
with a name, which address this has in the deployment, each once and nothing after a fault.
So a declared address gives what the same address on the command line gives. -/
theorem resolveFrom_decided (source : Source) (key : ArtifactKey) (image : String) :
    let done := resolveFrom source key image
    (image = "" ∨ kind image = .file ∨ kind image = .unknown →
      done.2.queries = [] ∧ done.1 = resolve image {}) ∧
    (kind image = .docker ∨ kind image = .singularityHub →
      (∀ fault, source.registry key = .error fault →
        done.2.queries = [.artifact key] ∧ done.1 = .error (.sourceFailed key.display fault)) ∧
      (∀ found, source.registry key = .ok found → found = none ∨ found = some "" →
        done.2.queries = [.artifact key] ∧ ∀ url, done.1 = resolve image ⟨found, url⟩) ∧
      (∀ name, source.registry key = .ok (some name) → name ≠ "" →
        done.2.queries = [.artifact key, .registry key.deployment name] ∧
        (∀ fault, source.address key.deployment name = .error fault →
          done.1 = .error (.sourceFailed (registryContext key.deployment name) fault)) ∧
        ∀ url, source.address key.deployment name = .ok url →
          done.1 = resolve image ⟨some name, url⟩)) ∧
    ∀ name url, source.registry key = .ok (some name) → name ≠ "" →
      source.address key.deployment name = .ok (some url) →
        ∀ {σ : Type} (w : CommandLine.World σ) (state : σ),
          ((CommandLine.Task.resolve image (some url)).carryOut w state).answer =
            match done.1 with
            | .ok uri => .ok (uri ++ "\n")
            | .error failure => .error ⟨"Failed to resolve image " ++ Text.quoted image,
                failure.message :: failure.causes⟩ := by
  intro done
  refine ⟨?_, ?_, ?_⟩
  · intro hkind
    simp [done, resolveFrom_of_unregistered (scheme?_eq_none_of hkind)]
  · intro hkind
    obtain ⟨scheme, hscheme⟩ := exists_scheme?_of hkind
    have hresult : done.1 = (lookUp source key).1.bind (resolve image) := resolveFrom_fst hscheme
    have hqueries : done.2.queries = (lookUp source key).2.queries := queries_resolveFrom hscheme
    rw [hresult, hqueries]
    refine ⟨?_, ?_, ?_⟩
    · intro fault hregistry
      rw [lookUp_of_refused hregistry]
      exact ⟨rfl, rfl⟩
    · intro found hregistry hfound
      have hunnamed : found.getD "" = "" := by
        rcases hfound with rfl | rfl <;> rfl
      rw [lookUp_of_unnamed hregistry hunnamed]
      refine ⟨rfl, fun url => ?_⟩
      exact (resolve_congr (address?_of_unnamed hunnamed url)).symm
    · intro name hregistry hname
      rw [lookUp_of_named hregistry hname]
      refine ⟨rfl, ?_, ?_⟩
      · intro fault haddress
        rw [haddress]
        rfl
      · intro url haddress
        rw [haddress]
        rfl
  · intro name url hregistry hname haddress σ w state
    have hresult : done.1 = resolve image (CommandLine.originOf (some url)) :=
      resolveFrom_of_declared hregistry hname haddress
    rw [hresult]
    rfl

end Image

end ClusterLaunch
