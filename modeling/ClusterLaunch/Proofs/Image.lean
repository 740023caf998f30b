import ClusterLaunch.Image
import ClusterLaunch.Proofs.Lines
import ClusterLaunch.Proofs.Url.Host

/-!
What becomes of the name of an image. It is settled in one of six ways: the name is empty
or of no known kind; it is that of a file, or no registry of one's own is declared for it,
and then it stays as it is; or one is declared, and then the authority of its address is
put behind the scheme, if the address has one. What follows the scheme is kept, all but the
slashes in front.
-/

namespace ClusterLaunch

namespace Text

def slashes (n : Nat) : String :=
  String.ofList (List.replicate n '/')

theorem exists_slashes_append (text : List Char) :
    ∃ n, text = List.replicate n '/' ++ stripStart (· == '/') text := by
  refine ⟨(text.takeWhile (· == '/')).length, ?_⟩
  have hslashes : text.takeWhile (· == '/') =
      List.replicate (text.takeWhile (· == '/')).length '/' :=
    List.eq_replicate_iff.mpr ⟨rfl, fun c hc => by simpa using List.mem_takeWhile_imp hc⟩
  rw [← hslashes, stripStart, List.takeWhile_append_dropWhile]

theorem stripStart_slashes_append (n : Nat) (rest : List Char) :
    stripStart (· == '/') (List.replicate n '/' ++ rest) = stripStart (· == '/') rest := by
  have hslashes : ∀ c ∈ List.replicate n '/', (c == '/') = true := by
    intro c hc
    exact beq_iff_eq.mpr (List.eq_of_mem_replicate hc)
  rw [stripStart, List.dropWhile_append_of_pos hslashes, stripStart]

theorem stripEnd_append_slashes (n : Nat) {text : List Char} (h : text.getLast? ≠ some '/') :
    stripEnd (· == '/') (text ++ List.replicate n '/') = text := by
  have hkept : text.reverse.dropWhile (· == '/') = text.reverse := by
    rw [← List.head?_reverse] at h
    cases hreverse : text.reverse with
    | nil => rfl
    | cons c rest => exact List.dropWhile_cons_of_neg (by simpa [hreverse] using h)
  rw [stripEnd, List.reverse_append, List.reverse_replicate]
  exact List.reverse_eq_iff.mpr ((stripStart_slashes_append n text.reverse).trans hkept)

theorem exists_append_slashes (text : List Char) :
    ∃ n, text = stripEnd (· == '/') text ++ List.replicate n '/' := by
  obtain ⟨n, hn⟩ := exists_slashes_append text.reverse
  refine ⟨n, ?_⟩
  rw [stripEnd, ← List.reverse_inj, List.reverse_append, List.reverse_reverse,
    List.reverse_replicate]
  exact hn

end Text

namespace Registry

/-- An address of a public registry: one that is known, with any number of slashes at its end
and blanks around it. -/
def Public (url : String) : Prop :=
  ∃ known ∈ publicAddresses, ∃ n, Text.trimmed url = known ++ Text.slashes n

theorem isPublic_iff (url : String) : isPublic url = true ↔ Public url := by
  simp only [isPublic, Public, List.any_eq_true, beq_iff_eq, bare]
  refine exists_congr fun known => and_congr_right fun hknown => ?_
  have hlast : known.toList.getLast? ≠ some '/' := by
    have hall : ∀ known ∈ publicAddresses, known.toList.getLast? ≠ some '/' := by decide
    exact hall known hknown
  constructor
  · intro h
    obtain ⟨n, hn⟩ := Text.exists_append_slashes (Text.trim url.toList)
    refine ⟨n, ?_⟩
    rw [Text.trimmed, hn, ← h, Text.slashes, String.ofList_append, String.ofList_toList]
  · rintro ⟨n, hn⟩
    have htrim : Text.trim url.toList = known.toList ++ List.replicate n '/' := by
      have htext := congrArg String.toList hn
      simpa [Text.trimmed, Text.slashes] using htext
    rw [htrim, Text.stripEnd_append_slashes n hlast]

end Registry

namespace Image

open Text

variable {image scheme address : String} {origin : Origin}

def schemes : List String := ["docker://", "shub://"]

theorem hasScheme_iff {scheme image : String} :
    hasScheme scheme image = true ↔ ∃ rest, image = scheme ++ rest := by
  rw [hasScheme, Option.isSome_iff_exists]
  constructor
  · rintro ⟨rest, h⟩
    refine ⟨String.ofList rest, String.toList_injective ?_⟩
    simpa using eq_append_of_afterLead? h
  · rintro ⟨rest, rfl⟩
    exact ⟨rest.toList, by rw [String.toList_append, afterLead?_append]⟩

/-- A scheme makes the kind of an image, whatever follows it. -/
theorem kind_append {scheme : String} (hscheme : scheme ∈ schemes) (rest : String) :
    (kind (scheme ++ rest)).scheme? = some scheme := by
  have hdocker (rest : String) : hasScheme "docker://" ("docker://" ++ rest) = true :=
    hasScheme_iff.mpr ⟨rest, rfl⟩
  have hshub (rest : String) : hasScheme "shub://" ("shub://" ++ rest) = true :=
    hasScheme_iff.mpr ⟨rest, rfl⟩
  have hother (rest : String) : hasScheme "docker://" ("shub://" ++ rest) = false := by
    simp [hasScheme, afterLead?]
  simp only [schemes, List.mem_cons, List.not_mem_nil, or_false] at hscheme
  rcases hscheme with rfl | rfl
  · rw [kind, if_pos (hdocker rest)]
    rfl
  · rw [kind, hother, if_neg Bool.false_ne_true, if_pos (hshub rest)]
    rfl

theorem scheme?_kind_eq_some_iff {image scheme : String} :
    (kind image).scheme? = some scheme ↔ scheme ∈ schemes ∧ ∃ rest, image = scheme ++ rest := by
  constructor
  · intro h
    unfold kind at h
    split at h
    · next hdocker =>
      cases h
      exact ⟨by decide, hasScheme_iff.mp hdocker⟩
    · split at h
      · next hshub =>
        cases h
        exact ⟨by decide, hasScheme_iff.mp hshub⟩
      · split at h <;> cases h
  · rintro ⟨hscheme, rest, rfl⟩
    exact kind_append hscheme rest

/-- A registry of one's own is declared for an image in a registry, under an address. -/
structure Redirects (image : String) (origin : Origin) (address : String) : Prop where
  registered : ∃ scheme ∈ schemes, ∃ rest, image = scheme ++ rest
  named : ∃ name, origin.name = some name ∧ name ≠ ""
  addressed : ∃ url, origin.url = some url ∧ trimmed url = address
  filled : address ≠ ""
  own : ¬Registry.Public address

/-- An image name with an authority behind its scheme, and one slash between this and what
follows the scheme and all slashes after it. -/
def Rehosted (image authority uri : String) : Prop :=
  ∃ scheme ∈ schemes, ∃ n rest, rest.toList.head? ≠ some '/' ∧
    image = scheme ++ slashes n ++ rest ∧ uri = scheme ++ authority ++ "/" ++ rest

theorem address?_eq_some_iff : origin.address? = some address ↔
    (∃ name, origin.name = some name ∧ name ≠ "") ∧
      (∃ url, origin.url = some url ∧ trimmed url = address) ∧
      address ≠ "" ∧ ¬Registry.Public address := by
  rw [← Registry.isPublic_iff]
  obtain ⟨name, url⟩ := origin
  cases name with
  | none => simp [Origin.address?]
  | some name =>
      cases url with
      | none => simp [Origin.address?]
      | some url =>
          simp only [Origin.address?]
          grind [String.isEmpty_iff]

theorem path_append (scheme rest : String) :
    path scheme (scheme ++ rest) = stripStart (· == '/') rest.toList := by
  rw [path, String.toList_append, ← String.length_toList, List.drop_left]

theorem rehost_rehosted (hscheme : scheme ∈ schemes) (rest : String) (a : Url.Authority) :
    Rehosted (scheme ++ rest) (String.ofList a.write) (rehost scheme (scheme ++ rest) a) := by
  obtain ⟨n, hn⟩ := exists_slashes_append rest.toList
  refine ⟨scheme, hscheme, n, String.ofList (stripStart (· == '/') rest.toList), ?_, ?_, ?_⟩
  · intro hslash
    rw [String.toList_ofList] at hslash
    exact absurd (not_of_mem_head?_dropWhile '/' hslash) (by simp)
  · apply String.toList_injective
    simpa [slashes] using hn
  · apply String.toList_injective
    simp [rehost, path_append]

/-! What becomes of an image, case by case. -/

theorem rehosted?_unknown (hfilled : image ≠ "") (hkind : kind image = .unknown) :
    rehosted? image origin = .error (.unresolvableImage image) := by
  simp [rehosted?, hfilled, hkind]

theorem rehosted?_file (hkind : kind image = .file) : rehosted? image origin = .ok none := by
  have hfilled : image ≠ "" := by
    rintro rfl
    cases hkind
  simp [rehosted?, hfilled, hkind, Kind.scheme?]

theorem ne_empty_of_scheme? (hscheme : (kind image).scheme? = some scheme) : image ≠ "" := by
  rintro rfl
  cases hscheme

/-- An image in a registry stays as it is when no registry of one's own is declared for it. -/
theorem rehosted?_undeclared (hscheme : (kind image).scheme? = some scheme)
    (haddress : origin.address? = none) : rehosted? image origin = .ok none := by
  have hfilled := ne_empty_of_scheme? hscheme
  cases hkind : kind image <;> simp_all [rehosted?, Kind.scheme?]

theorem rehosted?_declared (hscheme : (kind image).scheme? = some scheme)
    (haddress : origin.address? = some address) :
    rehosted? image origin = match Url.authority address.toList with
      | .ok authority => .ok (some (rehost scheme image authority))
      | .error fault => .error (.invalidAddress address fault.message) := by
  have hfilled := ne_empty_of_scheme? hscheme
  cases hkind : kind image <;> cases hauthority : Url.authority address.toList <;>
    simp_all [rehosted?, Kind.scheme?]

theorem redirects_iff : Redirects image origin address ↔
    (∃ scheme, (kind image).scheme? = some scheme) ∧ origin.address? = some address := by
  simp only [address?_eq_some_iff, scheme?_kind_eq_some_iff]
  constructor
  · rintro ⟨hregistered, hnamed, haddressed, hfilled, hown⟩
    exact ⟨hregistered, hnamed, haddressed, hfilled, hown⟩
  · rintro ⟨hregistered, hnamed, haddressed, hfilled, hown⟩
    exact ⟨hregistered, hnamed, haddressed, hfilled, hown⟩

/-- The ways in which it is settled what an image name becomes: a failure, the name as it is,
or one with another authority. -/
inductive Settled (image : String) (origin : Origin) : Except Failure (Option String) → Prop
  | missing (hempty : image = "") : Settled image origin (.error .missingImage)
  | unresolvable (hfilled : image ≠ "") (hkind : kind image = .unknown) :
      Settled image origin (.error (.unresolvableImage image))
  | file (hkind : kind image = .file) : Settled image origin (.ok none)
  | undeclared {scheme : String} (hscheme : (kind image).scheme? = some scheme)
      (haddress : origin.address? = none) : Settled image origin (.ok none)
  | rehosted {address uri : String} {a : Url.Authority} (h : Redirects image origin address)
      (hauthority : Url.authority address.toList = .ok a) (hhost : a.host.write ≠ [])
      (huri : Rehosted image (String.ofList a.write) uri) : Settled image origin (.ok (some uri))
  | unreadable {address : String} {fault : Url.Fault} (h : Redirects image origin address)
      (hauthority : Url.authority address.toList = .error fault) :
      Settled image origin (.error (.invalidAddress address fault.message))

theorem Redirects.settled (h : Redirects image origin address) :
    Settled image origin (rehosted? image origin) := by
  obtain ⟨⟨scheme, hscheme⟩, haddress⟩ := redirects_iff.mp h
  obtain ⟨hmem, rest, rfl⟩ := scheme?_kind_eq_some_iff.mp hscheme
  rw [rehosted?_declared hscheme haddress]
  cases hauthority : Url.authority address.toList with
  | error fault => exact .unreadable h hauthority
  | ok a =>
      exact .rehosted h hauthority (Url.write_ne_nil_of_authority hauthority)
        (rehost_rehosted hmem rest a)

theorem settled (image : String) (origin : Origin) :
    Settled image origin (rehosted? image origin) := by
  by_cases hempty : image = ""
  · subst hempty
    exact .missing rfl
  · cases hscheme : (kind image).scheme? with
    | some scheme =>
        cases haddress : origin.address? with
        | some address => exact (redirects_iff.mpr ⟨⟨scheme, hscheme⟩, haddress⟩).settled
        | none =>
            rw [rehosted?_undeclared hscheme haddress]
            exact .undeclared hscheme haddress
    | none =>
        cases hkind : kind image with
        | file =>
            rw [rehosted?_file hkind]
            exact .file hkind
        | unknown =>
            rw [rehosted?_unknown hempty hkind]
            exact .unresolvable hempty hkind
        | docker | singularityHub => simp [hkind, Kind.scheme?] at hscheme

theorem resolve_eq_error_iff {failure : Failure} :
    resolve image origin = .error failure ↔ rehosted? image origin = .error failure := by
  unfold resolve
  cases rehosted? image origin <;> simp [Except.map]

end Image

end ClusterLaunch
