import ClusterLaunch.Proofs.Image.LookUp
import ClusterLaunch.Proofs.Launch.Commands
import ClusterLaunch.Proofs.Launch.Declared
import ClusterLaunch.Proofs.Url.Web

/-!
What a launch shows of the address that is declared for a registry: the host and the port. A
name and a password in it, a path, a query and a fragment get neither into the image nor
into the command, so no two addresses can be told apart by them.
-/

namespace ClusterLaunch

namespace Text

theorem trim_trim (text : List Char) : trim (trim text) = trim text :=
  strip_eq_self head?_strip getLast?_strip

end Text

theorem Registry.public_trimmed_iff (url : String) : Public (Text.trimmed url) ↔ Public url := by
  simp only [Public, Text.trimmed, String.toList_ofList, Text.trim_trim]

namespace Image

variable {image scheme name : String} {a b : Url.WebAddress}

theorem address?_web (hname : name ≠ "") (hown : ¬Registry.Public a.text) :
    (⟨some name, some a.text⟩ : Origin).address? = some (Text.trimmed a.text) := by
  have hfilled : Text.trimmed a.text ≠ "" := by
    obtain ⟨tail, -, htrim⟩ := a.trim_text
    rw [Text.trimmed, htrim, ne_eq, String.ofList_eq_empty_iff]
    exact List.append_ne_nil_of_left_ne_nil a.front_ne_nil tail
  exact address?_eq_some_iff.mpr ⟨⟨name, rfl, hname⟩, ⟨a.text, rfl, rfl⟩, hfilled,
    fun h => hown ((Registry.public_trimmed_iff a.text).mp h)⟩

/-- Declared under an address of the web, an image in a registry gets the host and the port of
this address, or cannot be resolved if that is no port. -/
theorem rehosted?_web (hscheme : (kind image).scheme? = some scheme) (hname : name ≠ "")
    (hown : ¬Registry.Public a.text) :
    rehosted? image ⟨some name, some a.text⟩ =
      if a.overflows then
        .error (.invalidAddress (Text.trimmed a.text) Url.Fault.invalidPort.message)
      else .ok (some (scheme ++ a.shown ++ "/" ++ String.ofList (path scheme image))) := by
  have hauthority : Url.authority (Text.trimmed a.text).toList =
      if a.overflows then .error .invalidPort else .ok a.named := by
    rw [Text.trimmed, String.toList_ofList]
    exact a.authority_text
  have hshown : rehost scheme image a.named =
      scheme ++ a.shown ++ "/" ++ String.ofList (path scheme image) := by
    rw [rehost, String.ofList_append, a.write_named, String.ofList_cons, String.append_assoc,
      String.append_assoc]
    rfl
  rw [rehosted?_declared hscheme (address?_web hname hown), hauthority]
  cases a.overflows
  · exact congrArg (fun uri => Except.ok (some uri)) hshown
  · rfl

/-- Addresses that differ only in front of the host and in the tail give the same image. -/
theorem rehosted?_web_congr (hscheme : (kind image).scheme? = some scheme) (hname : name ≠ "")
    (hown : ¬Registry.Public a.text) (hother : ¬Registry.Public b.text) (hsame : a.SameTarget b)
    (hport : a.overflows = false) :
    rehosted? image ⟨some name, some b.text⟩ = rehosted? image ⟨some name, some a.text⟩ := by
  have hoverflows : b.overflows = false := hsame.named_eq.1.trans hport
  have hshown : b.shown = a.shown := by
    rw [← b.write_named, ← a.write_named, hsame.named_eq.2]
  rw [rehosted?_web hscheme hname hother, rehosted?_web hscheme hname hown, hport, hoverflows,
    hshown]
  simp only [Bool.false_eq_true, if_false]

/-- An address in which too large a number follows the host makes looking up an image fail. -/
theorem resolveFrom_web_of_overflow {source : Source} {key : ArtifactKey}
    (hscheme : (kind image).scheme? = some scheme) (hname : name ≠ "")
    (hown : ¬Registry.Public a.text) (hregistry : source.registry key = .ok (some name))
    (haddress : source.address key.deployment name = .ok (some a.text))
    (hport : a.overflows = true) :
    (resolveFrom source key image).1 =
      .error (.invalidAddress (Text.trimmed a.text) Url.Fault.invalidPort.message) := by
  rw [resolveFrom_fst hscheme, lookUp_of_named hregistry hname, haddress]
  exact resolve_eq_error_iff.mpr (by rw [rehosted?_web hscheme hname hown, hport, if_pos rfl])

/-- Two places that give an artifact addresses with one result give it that image. -/
theorem resolveFrom_congr {source other : Source} {key : ArtifactKey} {url url' : String}
    (hname : name ≠ "") (hregistry : source.registry key = .ok (some name))
    (haddress : source.address key.deployment name = .ok (some url))
    (hregistry' : other.registry key = .ok (some name))
    (haddress' : other.address key.deployment name = .ok (some url'))
    (h : rehosted? image ⟨some name, some url'⟩ = rehosted? image ⟨some name, some url⟩) :
    resolveFrom other key image = resolveFrom source key image := by
  have hnotes : notes image ⟨some name, some url'⟩ = notes image ⟨some name, some url⟩ := by
    simp only [notes, h]
    rfl
  simp only [resolveFrom, lookUp_of_named hregistry hname, haddress,
    lookUp_of_named hregistry' hname, haddress', resolve, h, hnotes]

end Image

namespace Launcher

variable {σ : Type} {l : Launcher σ} {r : Request} {failure : Failure}

/-- Nothing is sent for an image that cannot be resolved. -/
theorem commands_of_unresolved (draws : Draws) (counters : Counters) (state : σ)
    (h : (Image.resolveFrom l.source r.artifact r.image).1 = .error failure) :
    (l.launch draws r counters state).1.trail.commands = [] := by
  cases hpreview : (l.preview draws r).1 with
  | error early => exact (launch_sends_nothing counters state hpreview).1
  | ok p =>
      obtain ⟨-, c, hc, -⟩ := preview_eq_ok hpreview
      cases h.symm.trans (container_eq_ok hc).1

/-- Of an address of the web, declared for an image in a registry, a launch shows the host, in
lower case, and the number of the port, unless this is the usual one: they make up the image,
and only a number that is too large keeps it from being resolved. So addresses that differ in
front of the host and in the tail alone cannot be told apart by the image, nor by what is
previewed, launched or sent. -/
theorem shows_host_and_port (a : Url.WebAddress) {image scheme name : String}
    (hscheme : (Image.kind image).scheme? = some scheme) (hname : name ≠ "")
    (hown : ¬Registry.Public a.text) :
    Image.resolve image ⟨some name, some a.text⟩ =
      (if a.overflows then
        .error (.invalidAddress (Text.trimmed a.text) Url.Fault.invalidPort.message)
      else .ok (scheme ++ a.shown ++ "/" ++ String.ofList (Image.path scheme image))) ∧
    ∀ b : Url.WebAddress, a.SameTarget b → ¬Registry.Public b.text →
      (a.overflows = false → Image.resolve image ⟨some name, some b.text⟩ =
        Image.resolve image ⟨some name, some a.text⟩) ∧
      ∀ {σ : Type} (l : Launcher σ) (source other : Source) (draws : Draws) (r : Request)
        (counters : Counters) (state : σ), r.image = image →
        source.registry r.artifact = .ok (some name) →
        source.address r.deployment name = .ok (some a.text) →
        other.registry r.artifact = .ok (some name) →
        other.address r.deployment name = .ok (some b.text) →
        let given : Launcher σ := { l with source := source }
        let changed : Launcher σ := { l with source := other }
        (a.overflows = false → changed.preview draws r = given.preview draws r ∧
          changed.launch draws r counters state = given.launch draws r counters state) ∧
        (changed.launch draws r counters state).1.trail.commands =
          (given.launch draws r counters state).1.trail.commands := by
  refine ⟨?_, ?_⟩
  · rw [Image.resolve, Image.rehosted?_web hscheme hname hown]
    cases a.overflows <;> rfl
  · intro b hsame hother
    have hrehosted (hport : a.overflows = false) :=
      Image.rehosted?_web_congr hscheme hname hown hother hsame hport
    refine ⟨fun hport => by rw [Image.resolve, hrehosted hport, Image.resolve], ?_⟩
    intro σ l source other draws r counters state himage hregistry haddress hregistry' haddress'
      given changed
    subst himage
    have hsimilar (hport : a.overflows = false) :
        changed.preview draws r = given.preview draws r ∧
          changed.launch draws r counters state = given.launch draws r counters state := by
      have hresolved : Image.resolveFrom other r.artifact r.image =
          Image.resolveFrom source r.artifact r.image :=
        Image.resolveFrom_congr hname hregistry haddress hregistry' haddress' (hrehosted hport)
      have hpreview : changed.preview draws r = given.preview draws r :=
        preview_of_container draws (container_of_resolved hresolved)
      exact ⟨hpreview, launch_of_preview draws counters state hpreview⟩
    refine ⟨hsimilar, ?_⟩
    cases hport : a.overflows with
    | false => rw [(hsimilar hport).2]
    | true =>
        have hport' : b.overflows = true := hsame.named_eq.1.trans hport
        have hnone := commands_of_unresolved (l := given) draws counters state
          (Image.resolveFrom_web_of_overflow hscheme hname hown hregistry haddress hport)
        have hnone' := commands_of_unresolved (l := changed) draws counters state
          (Image.resolveFrom_web_of_overflow hscheme hname hother hregistry' haddress' hport')
        rw [hnone, hnone']

/-- A password with a colon, a port with a zero in front and a path with a colon and an `@`:
none of them gets into the image, and without them the same is sent. -/
theorem shows_host_and_port_with_password :
    let l : Launcher (List (Except Refusal String)) := ⟨.ofCatalogue {}, .scripted, .absent, {}⟩
    let r : Request :=
      ⟨Operation.run, "dep", "Type", "Job", "docker:///tool", [], [], "/work", {}⟩
    let a : Url.WebAddress := ⟨true, some ['u', ':', 'p'], [['R', 'e', 'g'], ['i', 'o']],
      some ['0', '8', '0'], ['/', ':', '@'], by simp; decide, by decide, by decide,
      by simp; decide, by simp [Url.IsTail]⟩
    let b : Url.WebAddress := ⟨true, none, a.labels, a.digits, [], by simp, a.labels_ne_nil,
      a.isLabel, a.isDigit_digits, by simp [Url.IsTail]⟩
    let declared (url : String) : Source :=
      .ofCatalogue ((({} : Catalogue).declareArtifact r.artifact "hub").declareRegistry
        r.deployment "hub" url)
    let answers : List (Except Refusal String) := [.ok "Submitted batch job 7"]
    let draws : Draws := ⟨⟨0⟩, ⟨0⟩, ⟨0⟩⟩
    a.text = "https://u:p@Reg.io:080/:@" ∧ b.text = "https://Reg.io:080" ∧
      Image.resolve r.image ⟨some "hub", some a.text⟩ = .ok "docker://reg.io:80/tool" ∧
      ({ l with source := declared b.text } : Launcher _).launch draws r {} answers =
        ({ l with source := declared a.text } : Launcher _).launch draws r {} answers := by
  intro l r a b declared answers draws
  have htext : a.text = "https://u:p@Reg.io:080/:@" := rfl
  have htext' : b.text = "https://Reg.io:080" := rfl
  have hown : ¬Registry.Public a.text := by
    rw [← Registry.isPublic_iff, htext]
    decide
  have hother : ¬Registry.Public b.text := by
    rw [← Registry.isPublic_iff, htext']
    decide
  have hregistry (url : String) : (declared url).registry r.artifact = .ok (some "hub") := by
    simp [declared, Source.ofCatalogue, Catalogue.declareRegistry, Catalogue.declareArtifact,
      Catalogue.registryOf?]
  have haddress (url : String) : (declared url).address r.deployment "hub" = .ok (some url) := by
    simp [declared, Source.ofCatalogue, Catalogue.declareRegistry, Catalogue.declareArtifact,
      Catalogue.addressOf?]
  have hport : a.overflows = false := by decide
  obtain ⟨hresolved, hsame⟩ := shows_host_and_port a
    (show (Image.kind r.image).scheme? = some "docker://" by decide)
    (show "hub" ≠ "" by decide) hown
  obtain ⟨-, hlaunched⟩ := hsame b ⟨rfl, rfl, rfl⟩ hother
  refine ⟨htext, htext', ?_, ?_⟩
  · rw [hresolved, hport]
    decide
  · exact ((hlaunched l (declared a.text) (declared b.text) draws r {} answers rfl (hregistry _)
      (haddress _) (hregistry _) (haddress _)).1 hport).2

end Launcher

namespace Url

/-- In capitals, too, the mark of Punycode announces what has to be decoded. -/
theorem ofWeb_marked_in_capitals :
    Host.ofWeb "XN--B.ex.org".toList = .error .invalidDomain := by
  refine Host.ofWeb_of_undecodable ?_ (by decide)
  have hall : ("XN--B.ex.org".toList.all fun c => Domain.inLabel c || c == '.') = true := by
    decide
  intro c hc
  rcases Bool.or_eq_true_iff.mp (List.all_eq_true.mp hall c hc) with hlabel | hdot
  · exact Domain.isHostChar_of_inLabel hlabel
  · rw [beq_iff_eq.mp hdot]
    exact Domain.isHostChar_dot

theorem authority_marked_in_capitals :
    authority "https://XN--B.ex.org/".toList = .error .invalidDomain := by
  have hscheme : scheme? (significant "https://XN--B.ex.org/".toList) =
      some ("https", "//XN--B.ex.org/".toList) := by decide
  have hslashes : "//XN--B.ex.org/".toList.dropWhile (fun c => c == '/' || c == '\\') =
      "XN--B.ex.org/".toList := by decide
  have hcredentials : credentials true "XN--B.ex.org/".toList = (none, "XN--B.ex.org/".toList) := by
    decide
  have hhost : hostText true false "XN--B.ex.org/".toList = "XN--B.ex.org".toList := by
    decide
  have hnone : authority? (.web 443) "XN--B.ex.org/".toList = .error .invalidDomain := by
    simp only [authority?, Scheme.isSpecial, hcredentials, hhost, ofWeb_marked_in_capitals]
    rfl
  rw [authority, hscheme]
  simp only [show Scheme.ofName "https" = .web 443 by decide, hslashes, hnone]
  rfl

end Url

namespace Image

/-- A label that is marked as Punycode is decoded also if the mark is in capitals. So an address
may not be read although its labels are letters, digits and hyphens, with a letter in front of
each, and no label begins with the mark as it is written in the plain form. -/
theorem resolve_marked_in_capitals :
    let labels := [['X', 'N', '-', '-', 'B'], ['e', 'x'], ['o', 'r', 'g']]
    let url := "https://XN--B.ex.org/"
    url = "https://" ++ String.ofList (['.'].intercalate labels) ++ "/" ∧
      (∀ label ∈ labels, (label.head?.map Url.isLetter).getD false = true ∧
        label.all Url.Domain.inLabel = true ∧ ¬Url.Domain.encodedLead <+: label) ∧
      ¬Registry.Public url ∧
      resolve "docker://ubuntu" ⟨some "hub", some url⟩ =
        .error (.invalidAddress url Url.Fault.invalidDomain.message) := by
  intro labels url
  have hown : ¬Registry.Public url := by
    rw [← Registry.isPublic_iff]
    decide
  have htrimmed : Text.trimmed url = url := by decide
  have haddress : (⟨some "hub", some url⟩ : Origin).address? = some url :=
    address?_eq_some_iff.mpr
      ⟨⟨"hub", rfl, by decide⟩, ⟨url, rfl, htrimmed⟩, by decide, hown⟩
  have hscheme : (kind "docker://ubuntu").scheme? = some "docker://" := by decide
  refine ⟨by decide, by decide, hown, ?_⟩
  rw [resolve, rehosted?_declared hscheme haddress, Url.authority_marked_in_capitals]
  rfl

end Image

end ClusterLaunch
