import ClusterLaunch.Proofs.Catalogue
import ClusterLaunch.Proofs.Launch.Preview

/-!
What a launch makes of the declarations. It asks for two of them: the registry of the
artifact that is requested, and the address of that registry in the deployment of the
request. So what is declared for other deployments makes no difference to it, and neither
does the spelling of the operation, by which launches and declarations mean the same.
-/

namespace ClusterLaunch

/-- What is asked about an operation, asked under another name of it. -/
def Query.renamed (name : String) : Query → Query
  | .artifact key => .artifact { key with operation := name }
  | .registry deployment owner => .registry deployment owner

def Step.renamed (name : String) : Step → Step
  | .asked query => .asked (query.renamed name)
  | step => step

namespace Trail

/-- A trail, with all that is asked on it asked under another name of the operation. -/
def renamed (name : String) (trail : Trail) : Trail :=
  trail.map (Step.renamed name)

variable (name : String)

@[simp] theorem renamed_nil : renamed name [] = [] := rfl

@[simp] theorem renamed_cons (step : Step) (trail : Trail) :
    renamed name (step :: trail) = step.renamed name :: renamed name trail := rfl

@[simp] theorem renamed_append (a b : Trail) :
    renamed name (a ++ b) = renamed name a ++ renamed name b :=
  List.map_append

@[simp] theorem renamed_ofNotices (notices : List Notice) :
    renamed name (ofNotices notices) = ofNotices notices := by
  simp [renamed, ofNotices, Step.renamed]

@[simp] theorem commands_renamed (trail : Trail) :
    (renamed name trail).commands = trail.commands := by
  induction trail with
  | nil => rfl
  | cons step trail ih => cases step <;> simp [Step.renamed, ih]

@[simp] theorem queries_renamed (trail : Trail) :
    (renamed name trail).queries = trail.queries.map (Query.renamed name) := by
  induction trail with
  | nil => rfl
  | cons step trail ih => cases step <;> simp [Step.renamed, ih]

end Trail

namespace Image

variable {c c' : Catalogue} {key : ArtifactKey} {name : String}

/-- A look-up depends on the registry of the artifact and on addresses in its deployment. -/
theorem lookUp_congr (hregistry : c.registryOf? key = c'.registryOf? key)
    (haddress : ∀ owner, c.addressOf? key.deployment owner = c'.addressOf? key.deployment owner) :
    lookUp (.ofCatalogue c) key = lookUp (.ofCatalogue c') key := by
  simp only [lookUp, Source.ofCatalogue, hregistry, haddress]

/-- The name of the operation matters to a look-up only by the registry that it finds. -/
theorem lookUp_renamed (h : c.registryOf? { key with operation := name } = c.registryOf? key) :
    lookUp (.ofCatalogue c) { key with operation := name } =
      let found := lookUp (.ofCatalogue c) key
      (found.1, found.2.renamed name) := by
  simp only [lookUp, Source.ofCatalogue, h]
  cases c.registryOf? key with
  | none => rfl
  | some owner => by_cases hempty : owner = "" <;> simp [hempty, Step.renamed, Query.renamed]

theorem resolveFrom_renamed (image : String)
    (h : c.registryOf? { key with operation := name } = c.registryOf? key) :
    resolveFrom (.ofCatalogue c) { key with operation := name } image =
      let resolved := resolveFrom (.ofCatalogue c) key image
      (resolved.1, resolved.2.renamed name) := by
  unfold resolveFrom
  rw [lookUp_renamed h]
  cases (kind image).scheme? with
  | none => rfl
  | some scheme =>
      cases lookUp (.ofCatalogue c) key with
      | mk answer asked => cases answer <;> simp

end Image

namespace Launcher

variable {σ : Type} {l : Launcher σ} {draws : Draws} {r : Request} {name : String} {state : σ}
  {c c' : Catalogue}

/-! Two places to look declarations up in that give a request the same container. -/

theorem container_of_resolved {source other : Source}
    (h : Image.resolveFrom other r.artifact r.image = Image.resolveFrom source r.artifact r.image) :
    ({ l with source := other } : Launcher σ).container r =
      ({ l with source := source } : Launcher σ).container r := by
  simp only [container, h]

theorem preview_of_container {source other : Source} (draws : Draws)
    (h : ({ l with source := other } : Launcher σ).container r =
      ({ l with source := source } : Launcher σ).container r) :
    ({ l with source := other } : Launcher σ).preview draws r =
      ({ l with source := source } : Launcher σ).preview draws r := by
  simp only [preview, h]
  rfl

/-- Nothing is looked up after the preview. -/
theorem launch_of_preview {source other : Source} (draws : Draws) (counters : Counters) (state : σ)
    (h : ({ l with source := other } : Launcher σ).preview draws r =
      ({ l with source := source } : Launcher σ).preview draws r) :
    ({ l with source := other } : Launcher σ).launch draws r counters state =
      ({ l with source := source } : Launcher σ).launch draws r counters state := by
  simp only [launch, stages, h]
  rfl

def consulting (l : Launcher σ) (c : Catalogue) : Launcher σ :=
  { l with source := .ofCatalogue c }

/-! Two catalogues that agree on what a launch can ask. -/

theorem container_congr (hregistry : c.registryOf? r.artifact = c'.registryOf? r.artifact)
    (haddress : ∀ owner, c.addressOf? r.deployment owner = c'.addressOf? r.deployment owner) :
    (l.consulting c).container r = (l.consulting c').container r := by
  refine container_of_resolved ?_
  simp only [Image.resolveFrom, Image.lookUp_congr hregistry haddress]

theorem preview_congr (draws : Draws)
    (h : (l.consulting c).container r = (l.consulting c').container r) :
    (l.consulting c).preview draws r = (l.consulting c').preview draws r :=
  preview_of_container draws h

theorem launch_congr (draws : Draws) (counters : Counters) (state : σ)
    (h : (l.consulting c).preview draws r = (l.consulting c').preview draws r) :
    (l.consulting c).launch draws r counters state =
      (l.consulting c').launch draws r counters state :=
  launch_of_preview draws counters state h

/-- A launch is isolated from other deployments: two documents in which the same is declared
for the deployment of the request, in the same order, give the same preview and the same
launch, with the same answer, state, trail and counts. -/
theorem launch_isolated {d d' : Declarations} (l : Launcher σ) (draws : Draws) (r : Request)
    (counters : Counters) (state : σ) (h : d.within r.deployment = d'.within r.deployment) :
    (l.consulting (.ofDeclarations d)).preview draws r =
        (l.consulting (.ofDeclarations d')).preview draws r ∧
      (l.consulting (.ofDeclarations d)).launch draws r counters state =
        (l.consulting (.ofDeclarations d')).launch draws r counters state := by
  have hregistry : (Catalogue.ofDeclarations d).registryOf? r.artifact =
      (Catalogue.ofDeclarations d').registryOf? r.artifact := by
    rw [← Catalogue.registryOf?_within d, ← Catalogue.registryOf?_within d']
    exact congrArg (fun kept => (Catalogue.ofDeclarations kept).registryOf? r.artifact) h
  have haddress : ∀ owner, (Catalogue.ofDeclarations d).addressOf? r.deployment owner =
      (Catalogue.ofDeclarations d').addressOf? r.deployment owner := by
    intro owner
    rw [← Catalogue.addressOf?_within d, ← Catalogue.addressOf?_within d', h]
  have hpreview := preview_congr (l := l) draws (container_congr hregistry haddress)
  exact ⟨hpreview, launch_congr draws counters state hpreview⟩

/-- Between declarations of another deployment, one of them for a registry of the same name,
those of the request are found as if they stood alone. -/
theorem launch_isolated_interleaved :
    let l : Launcher (List (Except Refusal String)) := ⟨.ofCatalogue {}, .scripted, .absent, {}⟩
    let draws : Draws := ⟨⟨0⟩, ⟨0⟩, ⟨0⟩⟩
    let r : Request :=
      ⟨Operation.run, "dep", "Type", "Job", "docker://tool", [], [], "/work", {}⟩
    let own : ArtifactEntry := ⟨r.artifact, "hub"⟩
    let other : ArtifactEntry := ⟨{ r.artifact with deployment := "other" }, "store"⟩
    let alone : Declarations := ⟨[own], [⟨"dep", "hub", "https://one.example"⟩]⟩
    let among : Declarations := ⟨[other, own, other],
      [⟨"other", "hub", "https://two.example"⟩, ⟨"dep", "hub", "https://one.example"⟩,
        ⟨"other", "hub", "https://two.example"⟩]⟩
    alone.within r.deployment = among.within r.deployment ∧
      (l.consulting (.ofDeclarations alone)).launch draws r {} [.ok "Submitted batch job 7"] =
        (l.consulting (.ofDeclarations among)).launch draws r {} [.ok "Submitted batch job 7"] := by
  intro l draws r own other alone among
  have hwithin : alone.within r.deployment = among.within r.deployment := by decide +kernel
  exact ⟨hwithin, (launch_isolated l draws r {} _ hwithin).2⟩

/-! Two names of the operation. -/

/-- A request under another name of its operation has the same container. -/
theorem container_renamed
    (h : c.registryOf? { r.artifact with operation := name } = c.registryOf? r.artifact) :
    (l.consulting c).container { r with operation := name } =
      let built := (l.consulting c).container r
      (built.1, built.2.renamed name) := by
  have hresolved : Image.resolveFrom (l.consulting c).source
      ({ r with operation := name } : Request).artifact r.image = _ :=
    Image.resolveFrom_renamed r.image h
  cases hempty : r.image.isEmpty with
  | true => simp [container, hempty]
  | false =>
      simp only [container, hempty, hresolved]
      simp only [consulting]
      cases Image.resolveFrom (.ofCatalogue c) r.artifact r.image with
      | mk answer asked => cases answer <;> simp [Container.ofRequest]

theorem preview_renamed (draws : Draws) (hrun : Operation.isRun r.operation = true)
    (hname : Operation.isRun name = true)
    (h : c.registryOf? { r.artifact with operation := name } = c.registryOf? r.artifact) :
    (l.consulting c).preview draws { r with operation := name } =
      let previewed := (l.consulting c).preview draws r
      (previewed.1, previewed.2.renamed name) := by
  have hcontainer := container_renamed (l := l) h
  have hbuilt := congrArg Prod.fst hcontainer
  cases hc : ((l.consulting c).container r).1 with
  | error failure =>
      rw [preview_of_unbuilt draws hrun hc,
        preview_of_unbuilt (r := { r with operation := name }) draws hname (hbuilt.trans hc),
        hcontainer]
  | ok built =>
      rw [preview_of_built draws hrun hc,
        preview_of_built (r := { r with operation := name }) draws hname (hbuilt.trans hc),
        hcontainer]
      simp only [Trail.renamed_append, Trail.renamed_ofNotices]
      rfl

/-- The stages after the preview do not read the name of the operation. -/
theorem stages_renamed (draws : Draws) (state : σ) (hrun : Operation.isRun r.operation = true)
    (hname : Operation.isRun name = true)
    (h : c.registryOf? { r.artifact with operation := name } = c.registryOf? r.artifact) :
    let done := (l.consulting c).stages draws r state
    let other := (l.consulting c).stages draws { r with operation := name } state
    other.answer = done.answer ∧ other.state = done.state ∧
      other.trail.commands = done.trail.commands := by
  simp only [stages, preview_renamed draws hrun hname h]
  cases (l.consulting c).preview draws r with
  | mk answer trail =>
      cases answer with
      | error failure => exact ⟨rfl, rfl, Trail.commands_renamed name trail⟩
      | ok p =>
          refine ⟨rfl, rfl, ?_⟩
          simp only [Trail.commands_append, Trail.commands_renamed]
          rfl

theorem launch_renamed (draws : Draws) (counters : Counters) (state : σ)
    (hrun : Operation.isRun r.operation = true) (hname : Operation.isRun name = true)
    (h : c.registryOf? { r.artifact with operation := name } = c.registryOf? r.artifact) :
    let done := (l.consulting c).launch draws r counters state
    let other := (l.consulting c).launch draws { r with operation := name } counters state
    other.1.answer = done.1.answer ∧ other.1.state = done.1.state ∧ other.2 = done.2 ∧
      other.1.trail.commands = done.1.trail.commands ∧
      other.1.trail.queries = done.1.trail.queries.map (Query.renamed name) := by
  intro done other
  have hdone := (l.consulting c).launch_of_isRun draws counters state hrun
  have hother : other = _ := (l.consulting c).launch_of_isRun draws counters state hname
  obtain ⟨hanswer, hstate, hcommands⟩ := stages_renamed (l := l) draws state hrun hname h
  refine ⟨?_, ?_, ?_, ?_, ?_⟩
  · simpa only [done, hdone, hother] using hanswer
  · simpa only [done, hdone, hother] using hstate
  · simp only [done, hdone, hother, hanswer]
    rfl
  · simp [done, hdone, hother, hcommands]
  · rw [queries_launch, queries_launch, preview_renamed draws hrun hname h]
    exact Trail.queries_renamed name _

/-- Launches and declarations mean the same by the operation that is carried out. A name has
the lower-case form of a name that is recognised just if it is recognised itself, so the
registry of the image is the last that is declared for the same deployment, node and type
under a name that is recognised. Under whichever of these names the operation is asked for,
a launch gives the same answer, brings about the same state, counts the same, sends the same
commands, and asks the same about the operation under that name. -/
theorem launched_alike (l : Launcher σ) (made : List Declaration) (draws : Draws) (r : Request)
    (counters : Counters) (state : σ) {name : String}
    (hrun : Operation.isRun r.operation = true) (hname : Operation.isRun name = true) :
    let declared := l.consulting (.declareAll {} made)
    let done := declared.launch draws r counters state
    let other := declared.launch draws { r with operation := name } counters state
    (∀ s, Text.lowercase s = Text.lowercase r.operation ↔ Operation.isRun s = true) ∧
      declared.source.registry r.artifact =
        .ok ((((made.filterMap Declaration.artifact?).filter fun entry =>
          entry.key.deployment = r.deployment ∧ entry.key.template = r.template ∧
            entry.key.nodeType = r.nodeType ∧
            Operation.isRun entry.key.operation = true).getLast?).map ArtifactEntry.registry) ∧
      other.1.answer = done.1.answer ∧ other.1.state = done.1.state ∧ other.2 = done.2 ∧
      other.1.trail.commands = done.1.trail.commands ∧
      other.1.trail.queries = done.1.trail.queries.map (Query.renamed name) := by
  intro declared done other
  have hsame : (Catalogue.declareAll {} made).registryOf? { r.artifact with operation := name } =
      (Catalogue.declareAll {} made).registryOf? r.artifact := by
    have hfolded : ({ r.artifact with operation := name } : ArtifactKey).folded =
        r.artifact.folded :=
      (ArtifactKey.folded_eq_iff _ _).mpr
        ⟨rfl, rfl, rfl, (Operation.lowercase_eq_iff_isRun hrun).mpr hname⟩
    rw [Catalogue.registryOf?, Catalogue.registryOf?, hfolded]
  exact ⟨fun s => Operation.lowercase_eq_iff_isRun hrun,
    congrArg Except.ok (Catalogue.registryOf?_declareAll_of_isRun made hrun),
    launch_renamed draws counters state hrun hname hsame⟩

/-- Asked for in capitals, the operation has the registry that was declared last under a name
of it; a later declaration whose name has a letter from elsewhere does not count. -/
theorem launched_alike_in_capitals :
    let l : Launcher (List (Except Refusal String)) := ⟨.ofCatalogue {}, .scripted, .absent, {}⟩
    let draws : Draws := ⟨⟨0⟩, ⟨0⟩, ⟨0⟩⟩
    let capitals := "TOSCA.INTERFACES.NODE.LIFECYCLE.RUNNABLE.RUN"
    let r : Request := ⟨capitals, "dep", "Type", "Job", "docker://tool", [], [], "/work", {}⟩
    let named (name registry : String) : Declaration :=
      .artifact ⟨{ r.artifact with operation := name }, registry⟩
    let made := [named capitals "first", named Operation.run "hub",
      named "tosca.\u0130nterfaces.node.lifecycle.runnable.run" "other"]
    let declared := l.consulting (.declareAll {} made)
    let answers : List (Except Refusal String) := [.ok "Submitted batch job 7"]
    Operation.isRun capitals = true ∧ Operation.isRun Operation.run = true ∧
      declared.source.registry r.artifact = .ok (some "hub") ∧
      (declared.launch draws { r with operation := Operation.run } {} answers).1.answer =
        (declared.launch draws r {} answers).1.answer := by
  intro l draws capitals r named made declared answers
  have hcapitals : Operation.isRun capitals = true := by decide +kernel
  have hrun : Operation.isRun Operation.run = true := by decide +kernel
  obtain ⟨-, hregistry, hanswer, -⟩ :=
    launched_alike l made draws r {} answers hcapitals hrun
  refine ⟨hcapitals, hrun, ?_, hanswer⟩
  rw [show declared.source.registry r.artifact = _ from hregistry]
  decide +kernel

end Launcher

end ClusterLaunch
