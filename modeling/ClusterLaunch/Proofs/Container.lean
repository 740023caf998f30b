import ClusterLaunch.Launcher

/-!
Why a container cannot be built, what one that is built is made of, and what building one
does. It may ask the declarations, but it sends nothing and leaves nothing in the record;
when it fails, that is for the image: its name is missing or of no known kind, or its
registry cannot be looked up or has no address that can be read.
-/

namespace ClusterLaunch

def Step.isInquiry : Step → Bool
  | .asked _ => true
  | .noted notice => notice.level == .debug
  | _ => false

namespace Trail

variable {trail : Trail}

/-- A trail of nothing but inquiries. -/
def Inquires (trail : Trail) : Prop :=
  ∀ step ∈ trail, step.isInquiry = true

theorem Inquires.append {a b : Trail} (ha : a.Inquires) (hb : b.Inquires) : (a ++ b).Inquires :=
  List.forall_mem_append.mpr ⟨ha, hb⟩

theorem Inquires.commands_eq (h : trail.Inquires) : trail.commands = [] := by
  refine List.filterMap_eq_nil_iff.mpr fun step hstep => ?_
  cases step with
  | sent command => exact absurd (h _ hstep) Bool.false_ne_true
  | _ => rfl

theorem Inquires.record_eq (h : trail.Inquires) : trail.record = [] := by
  refine List.filterMap_eq_nil_iff.mpr fun step hstep => ?_
  cases step with
  | entered span => exact absurd (h _ hstep) Bool.false_ne_true
  | noted notice =>
      have hdebug : notice.level = .debug := eq_of_beq (h _ hstep)
      simp [hdebug, Level.depth]
  | _ => rfl

end Trail

namespace Image

variable {image : String} {origin : Origin} {failure : Failure}

/-- What is wrong with an image once its registry is known. -/
theorem kind_of_resolve (h : resolve image origin = .error failure) :
    failure.kind ∈ [.missingImage, .unresolvableImage, .invalidAddress] := by
  have herror : rehosted? image origin = .error failure := by
    unfold resolve at h
    cases hre : rehosted? image origin with
    | error other =>
        rw [hre] at h
        cases h
        rfl
    | ok other =>
        rw [hre] at h
        cases h
  unfold rehosted? at herror
  split at herror
  · cases herror
    simp [Failure.kind]
  · split at herror
    · cases herror
      simp [Failure.kind]
    · split at herror
      · cases herror
      · cases herror
        simp [Failure.kind]
    · cases herror

/-- A look-up fails only with the declarations themselves. -/
theorem kind_of_lookUp {source : Source} {key : ArtifactKey}
    (h : (lookUp source key).1 = .error failure) : failure.kind = .sourceFailed := by
  unfold lookUp at h
  split at h
  · cases h
    rfl
  · cases h
  · split at h
    · cases h
    · simp only at h
      split at h
      · cases h
        rfl
      · cases h

theorem inquires_lookUp (source : Source) (key : ArtifactKey) :
    (lookUp source key).2.Inquires := by
  unfold lookUp
  split
  · simp [Trail.Inquires, Step.isInquiry]
  · simp [Trail.Inquires, Step.isInquiry]
  · split
    · simp [Trail.Inquires, Step.isInquiry]
    · simp only
      split <;> simp [Trail.Inquires, Step.isInquiry]

theorem inquires_notes (image : String) (origin : Origin) :
    (Trail.ofNotices (notes image origin)).Inquires := by
  unfold notes
  split <;> simp [Trail.Inquires, Step.isInquiry, Trail.ofNotices, rehostNotice]

theorem inquires_resolveFrom (source : Source) (key : ArtifactKey) (image : String) :
    (resolveFrom source key image).2.Inquires := by
  have hasked := inquires_lookUp source key
  unfold resolveFrom
  split
  · simp [Trail.Inquires]
  · split
    · next h => simpa [h] using hasked
    · next origin _ h =>
        rw [h] at hasked
        exact hasked.append (inquires_notes image origin)

theorem kind_of_resolveFrom {source : Source} {key : ArtifactKey}
    (h : (resolveFrom source key image).1 = .error failure) :
    failure.kind ∈
      [.missingImage, .unresolvableImage, .invalidAddress, .sourceFailed] := by
  unfold resolveFrom at h
  split at h
  · exact List.mem_append_left [.sourceFailed] (kind_of_resolve h)
  · split at h
    · next hasked =>
        cases h
        have hkind := kind_of_lookUp (congrArg Prod.fst hasked)
        simp [hkind]
    · exact List.mem_append_left [.sourceFailed] (kind_of_resolve h)

end Image

namespace Launcher

variable {σ : Type} {l : Launcher σ} {r : Request} {failure : Failure}

def containerKinds : List Failure.Kind :=
  [.missingImage, .unresolvableImage, .invalidAddress, .sourceFailed]

theorem kind_of_container (h : (l.container r).1 = .error failure) :
    failure.kind ∈ containerKinds := by
  unfold container at h
  split at h
  · cases h
    simp [Failure.kind, containerKinds]
  · next himage =>
    split at h
    · next hresolved =>
        cases h
        exact Image.kind_of_resolveFrom (congrArg Prod.fst hresolved)
    · simp [Container.ofRequest, himage] at h

/-- A container that is built has the image that is resolved, and runs the command that the
inputs give. -/
theorem container_eq_ok {c : Container} (h : (l.container r).1 = .ok c) :
    (Image.resolveFrom l.source r.artifact r.image).1 = .ok c.uri ∧
      c.exec = Container.commandOf r.inputs ∧
      c.verb = if c.exec = "" then .run else .exec := by
  unfold container at h
  split at h
  · cases h
  · next himage =>
    split at h
    · cases h
    · next uri trail hresolved =>
      simp only [Container.ofRequest, himage] at h
      cases h
      simp [hresolved]

theorem inquires_container (l : Launcher σ) (r : Request) : (l.container r).2.Inquires := by
  have hresolved := Image.inquires_resolveFrom l.source r.artifact r.image
  unfold container
  split
  · simp [Trail.Inquires]
  · split
    · next h => simpa [h] using hresolved
    · next h => simpa [h] using hresolved

@[simp] theorem commands_container (l : Launcher σ) (r : Request) :
    (l.container r).2.commands = [] :=
  (l.inquires_container r).commands_eq

@[simp] theorem record_container (l : Launcher σ) (r : Request) :
    (l.container r).2.record = [] :=
  (l.inquires_container r).record_eq

end Launcher

end ClusterLaunch
