import ClusterLaunch.Proofs.Ascii
import ClusterLaunch.Proofs.Octets
import ClusterLaunch.Url.Authority
import Mathlib.Data.Option.Basic

/-!
Hosts in plain labels: letters of ASCII, digits and hyphens, with a letter in front. Unless one
of its labels is marked as Punycode, the schemes of the web take such a host as it is, but for
the case of its letters: it is not mapped to other characters, its labels are not decoded,
and it is never taken for an address of version four.
-/

namespace ClusterLaunch

namespace Text

/-- What holds of the first 128 characters holds of all in ASCII. -/
theorem forall_ascii {p : Char → Prop} (h : ∀ n < 128, p (Char.ofNat n)) :
    ∀ c : Char, c.toNat < 128 → p c := by
  intro c hc
  have hchar := h c.toNat hc
  rwa [Char.ofNat_toNat] at hchar

theorem mapM_eq_some_map {α β : Type} {f : α → Option β} {g : α → β} {items : List α}
    (h : ∀ a ∈ items, f a = some (g a)) : items.mapM f = some (items.map g) := by
  induction items with
  | nil => rfl
  | cons a items ih =>
      rw [List.mapM_cons, h a List.mem_cons_self,
        ih fun b hb => h b (List.mem_cons_of_mem a hb)]
      rfl

theorem map_intercalate {f : Char → Char} {c : Char} (hc : f c = c) (parts : List (List Char)) :
    ([c].intercalate parts).map f = [c].intercalate (parts.map (·.map f)) := by
  induction parts with
  | nil => rfl
  | cons part parts ih =>
      cases parts with
      | nil => simp
      | cons next parts =>
          rw [List.intercalate_cons_cons, List.map_append, ih]
          simp [hc]

theorem mem_intercalate {c d : Char} {parts : List (List Char)} (h : d ∈ [c].intercalate parts) :
    d = c ∨ ∃ part ∈ parts, d ∈ part := by
  induction parts with
  | nil => exact absurd h List.not_mem_nil
  | cons part parts ih =>
      cases parts with
      | nil => exact .inr ⟨part, by simp, by simpa using h⟩
      | cons next parts =>
          rw [List.intercalate_cons_cons, List.append_assoc, List.mem_append,
            List.singleton_append, List.mem_cons] at h
          rcases h with hpart | hc | hrest
          · exact .inr ⟨part, by simp, hpart⟩
          · exact .inl hc
          · rcases ih hrest with hc | ⟨part, hpart, hd⟩
            · exact .inl hc
            · exact .inr ⟨part, List.mem_cons_of_mem _ hpart, hd⟩

end Text

namespace Url

open Text

namespace Domain

def inLabel (c : Char) : Bool :=
  isLetter c || isDigit c || c == '-'

/-- A plain label that is not marked as Punycode, in whatever case. -/
structure IsLabel (label : List Char) : Prop where
  opens : (label.head?.map isLetter).getD false = true
  plain : ∀ c ∈ label, inLabel c = true
  unmarked : ¬encodedLead <+: label.map Char.toLower

/-- What is true of the characters of plain labels, and of the dots between these. -/
structure IsHostChar (c : Char) : Prop where
  ascii : c.toNat < 128
  visible : ' ' < c
  escapeless : c ≠ '%'
  bracketless : c ≠ '['
  colonless : c ≠ ':'
  atless : c ≠ '@'
  inner : endsAuthority true c = false
  lower : c.toLower.toNat < 128
  allowed : isForbidden c.toLower = false

theorem toNat_lt_of_inLabel {c : Char} (h : inLabel c = true) : c.toNat < 128 := by
  have hle {a b : Char} (hab : a ≤ b) : a.toNat ≤ b.toNat := hab
  simp only [inLabel, isLetter, isDigit, Bool.or_eq_true, Bool.and_eq_true, decide_eq_true_eq,
    beq_iff_eq] at h
  rcases h with ((⟨-, h⟩ | ⟨-, h⟩) | ⟨-, h⟩) | rfl
  · exact Nat.lt_of_le_of_lt (hle h) (by decide)
  · exact Nat.lt_of_le_of_lt (hle h) (by decide)
  · exact Nat.lt_of_le_of_lt (hle h) (by decide)
  · decide

theorem isHostChar_of_inLabel {c : Char} (h : inLabel c = true) : IsHostChar c := by
  have hall : ∀ c : Char, c.toNat < 128 → inLabel c = true →
      ' ' < c ∧ c ∉ ['%', '[', ':', '@'] ∧ endsAuthority true c = false ∧
        c.toLower.toNat < 128 ∧ isForbidden c.toLower = false :=
    forall_ascii (by decide)
  have hascii := toNat_lt_of_inLabel h
  obtain ⟨hvisible, hother, hinner, hlower, hallowed⟩ := hall c hascii h
  simp only [List.mem_cons, not_or] at hother
  exact ⟨hascii, hvisible, hother.1, hother.2.1, hother.2.2.1, hother.2.2.2.1, hinner, hlower,
    hallowed⟩

theorem ne_dot_of_inLabel {c : Char} (h : inLabel c = true) : (c.toLower == '.') = false := by
  have hall : ∀ c : Char, c.toNat < 128 → inLabel c = true → (c.toLower == '.') = false :=
    forall_ascii (by decide)
  exact hall c (toNat_lt_of_inLabel h) h

theorem isHostChar_dot : IsHostChar '.' := by
  constructor <;> decide

instance (label : List Char) : Decidable (IsLabel label) :=
  decidable_of_iff ((label.head?.map isLetter).getD false = true ∧
      label.all inLabel = true ∧ ¬encodedLead <+: label.map Char.toLower)
    ⟨fun h => ⟨h.1, List.all_eq_true.mp h.2.1, h.2.2⟩,
      fun h => ⟨h.opens, List.all_eq_true.mpr h.plain, h.unmarked⟩⟩

variable {label name : List Char} {labels : List (List Char)}

theorem IsLabel.exists_eq (h : IsLabel label) :
    ∃ c rest, label = c :: rest ∧ isLetter c = true := by
  cases label with
  | nil => exact absurd h.opens (by simp)
  | cons c rest => exact ⟨c, rest, rfl, by simpa using h.opens⟩

theorem isHostChar_of_mem (h : ∀ label ∈ labels, IsLabel label) {c : Char}
    (hc : c ∈ ['.'].intercalate labels) : IsHostChar c := by
  rcases mem_intercalate hc with rfl | ⟨label, hlabel, hmem⟩
  · exact isHostChar_dot
  · exact isHostChar_of_inLabel ((h label hlabel).plain c hmem)

/-! What becomes of the name and of each label. -/

theorem mapped?_ascii (h : ∀ c ∈ name, IsHostChar c) :
    mapped? name = some (name.map Char.toLower) := by
  have himage : name.mapM image? = some (name.map fun c => [c.toLower]) :=
    mapM_eq_some_map fun c hc => by rw [image?, if_pos (h c hc).ascii]
  have hlower : ∀ c ∈ name.map Char.toLower, c.toNat < 128 := by
    intro c hc
    obtain ⟨d, hd, rfl⟩ := List.mem_map.mp hc
    exact (h d hd).lower
  have hflat : (name.map fun c => [c.toLower]).flatten = name.map Char.toLower := by
    rw [← List.flatMap_def]
    exact List.map_eq_flatMap.symm
  rw [mapped?, himage, Option.map_some, hflat, Normal.normalize_ascii hlower]

theorem isPlain_lower (h : IsLabel label) : isPlain (label.map Char.toLower) = true := by
  rw [isPlain, List.all_map, List.all_eq_true]
  intro c hc
  exact decide_eq_true (isHostChar_of_inLabel (h.plain c hc)).lower

theorem decoded?_lower (h : IsLabel label) :
    decoded? (label.map Char.toLower) = some (label.map Char.toLower) := by
  have hunmarked : afterLead? encodedLead (label.map Char.toLower) = none := by
    rw [Option.eq_none_iff_forall_ne_some]
    intro rest hrest
    exact h.unmarked ⟨rest, (eq_append_of_afterLead? hrest).symm⟩
  rw [decoded?, hunmarked]
  simp [isPlain_lower h]

theorem plain?_lower (h : IsLabel label) :
    plain? (label.map Char.toLower) = some (label.map Char.toLower) := by
  rw [plain?, if_pos (isPlain_lower h)]

theorem rightToLeft_ascii {c : Char} (hc : c.toNat < 128) : rightToLeft.contains c = false := by
  refine CharSet.contains_eq_false ?_ hc
  repeat' first
    | exact .nil
    | refine .cons (by decide) ?_

theorem arabicNumber_ascii {c : Char} (hc : c.toNat < 128) : arabicNumber.contains c = false :=
  CharSet.contains_eq_false (.cons (by decide) .nil) hc

theorem turns_ascii {c : Char} (hc : c.toNat < 128) : turns c = false := by
  rw [turns, rightToLeft_ascii hc, arabicNumber_ascii hc, Bool.or_false]

theorem pieces_lower (hne : labels ≠ []) (h : ∀ label ∈ labels, IsLabel label) :
    pieces (· == '.') ((['.'].intercalate labels).map Char.toLower) =
      labels.map (·.map Char.toLower) := by
  rw [map_intercalate (by decide)]
  refine pieces_intercalate (by decide) (by simpa using hne) ?_
  intro label hlabel c hc
  obtain ⟨other, hother, rfl⟩ := List.mem_map.mp hlabel
  obtain ⟨d, hd, rfl⟩ := List.mem_map.mp hc
  exact ne_dot_of_inLabel ((h other hother).plain d hd)

/-- A name in plain labels is its own plain form, in lower case. -/
theorem toPlain?_labels (hne : labels ≠ []) (h : ∀ label ∈ labels, IsLabel label) :
    toPlain? (['.'].intercalate labels) = some ((['.'].intercalate labels).map Char.toLower) := by
  have hmapped := mapped?_ascii fun c hc => isHostChar_of_mem h hc
  have hkept {f : List Char → Option (List Char)}
      (hf : ∀ label, IsLabel label → f (label.map Char.toLower) = some (label.map Char.toLower)) :
      (labels.map (·.map Char.toLower)).mapM f = some (labels.map (·.map Char.toLower)) := by
    rw [mapM_eq_some_map (g := id), List.map_id]
    intro label hlabel
    obtain ⟨other, hother, rfl⟩ := List.mem_map.mp hlabel
    exact hf other (h other hother)
  have hchar {label : List Char} (hlabel : label ∈ labels.map (·.map Char.toLower)) {c : Char}
      (hc : c ∈ label) : isForbidden c = false ∧ turns c = false := by
    obtain ⟨other, hother, rfl⟩ := List.mem_map.mp hlabel
    obtain ⟨d, hd, rfl⟩ := List.mem_map.mp hc
    have hhost := isHostChar_of_inLabel ((h other hother).plain d hd)
    exact ⟨hhost.allowed, turns_ascii hhost.lower⟩
  have hallowed : (labels.map (·.map Char.toLower)).all (fun label => !label.any isForbidden) =
      true := by
    rw [List.all_eq_true]
    intro label hlabel
    rw [Bool.not_eq_true', List.any_eq_false]
    intro c hc
    simp [(hchar hlabel hc).1]
  have hstraight : (labels.map (·.map Char.toLower)).any (·.any turns) = false := by
    rw [List.any_eq_false]
    intro label hlabel
    rw [Bool.not_eq_true, List.any_eq_false]
    intro c hc
    simp [(hchar hlabel hc).2]
  simp only [toPlain?, hmapped, Option.bind_eq_bind, Option.bind_some, pieces_lower hne h,
    hkept fun label => decoded?_lower, hkept fun label => plain?_lower, hallowed, hstraight, guard]
  simp [map_intercalate]

end Domain

/-! What such a host is taken for. -/

namespace Ipv4

/-- A letter is no digit in base ten. -/
theorem lower_letter {c : Char} (hc : isLetter c = true) :
    c.toLower ≠ '0' ∧ isDigit c.toLower = false ∧ ∀ d ∈ hexValue? c.toLower, 10 ≤ d := by
  have hall : ∀ c : Char, c.toNat < 128 → isLetter c = true →
      c.toLower ≠ '0' ∧ isDigit c.toLower = false ∧ ∀ d ∈ hexValue? c.toLower, 10 ≤ d :=
    forall_ascii (by decide)
  exact hall c (Domain.toNat_lt_of_inLabel (by simp [Domain.inLabel, hc])) hc

theorem number?_of_letter {c : Char} (hc : isLetter c = true) (rest : List Char) :
    number? (c.toLower :: rest) = none := by
  obtain ⟨hzero, -, hvalue⟩ := lower_letter hc
  have hread : number? (c.toLower :: rest) = readOn 10 0 (c.toLower :: rest) := by
    unfold number?
    split
    · next heq => cases heq
    · next heq => exact absurd (List.cons.inj heq).1 hzero
    · rfl
  rw [hread, readOn]
  cases hdigit : hexValue? c.toLower with
  | none => rfl
  | some d =>
      have hbig : 10 ≤ d := hvalue d (by simp [hdigit])
      exact if_neg (by omega)

/-- The parts of a host that does not end with a dot are its pieces. -/
theorem parts_eq_pieces {host : List Char} (h : (pieces (· == '.') host).getLast? ≠ some []) :
    parts host = pieces (· == '.') host := by
  unfold parts
  dsimp only
  split
  · next heq =>
    rw [← List.head?_reverse, heq] at h
    exact absurd rfl h
  · rfl

theorem endsInNumber_labels {labels : List (List Char)} (hne : labels ≠ [])
    (h : ∀ label ∈ labels, Domain.IsLabel label) :
    endsInNumber ((['.'].intercalate labels).map Char.toLower) = false := by
  obtain ⟨c, rest, hlast, hc⟩ := (h _ (List.getLast_mem hne)).exists_eq
  have hpieces := Domain.pieces_lower hne h
  have hend : (labels.map (·.map Char.toLower)).getLast? =
      some (c.toLower :: rest.map Char.toLower) := by
    rw [List.getLast?_map, List.getLast?_eq_getLast_of_ne_nil hne, hlast]
    rfl
  have hparts := parts_eq_pieces (by rw [hpieces, hend]; simp)
  rw [endsInNumber, hparts, hpieces, hend]
  simp [number?_of_letter hc, (lower_letter hc).2.1]

end Ipv4

namespace Host

variable {name : List Char}

theorem octets_eq (h : ∀ c ∈ name, Domain.IsHostChar c) :
    octets name = Octets.encode (String.ofList name) := by
  rw [Octets.encode, String.toList_ofList]
  induction name with
  | nil => rfl
  | cons c rest ih =>
      have hc := h c List.mem_cons_self
      rw [octets, ih fun d hd => h d (List.mem_cons_of_mem c hd), List.flatMap_cons]
      rintro a b more ⟨⟩
      exact absurd rfl hc.escapeless

/-- A name of such characters is mapped as it stands. -/
theorem ofWeb_eq (h : ∀ c ∈ name, Domain.IsHostChar c) :
    ofWeb name = match Domain.toPlain? name with
      | none => .error .invalidDomain
      | some name =>
          if name.isEmpty then .error .emptyHost
          else if Ipv4.endsInNumber name then
            match Ipv4.parse? name with
            | some address => .ok (.ipv4 address)
            | none => .error .invalidIpv4
          else .ok (.domain name) := by
  have hread : (Octets.decodeLossy (octets name)).toList = name := by
    rw [octets_eq h, Octets.decodeLossy_encode, String.toList_ofList]
  unfold ofWeb
  split
  · next heq => exact absurd rfl (h '[' List.mem_cons_self).bracketless
  · generalize (Octets.decodeLossy (octets name)).toList = text at hread ⊢
    subst hread
    rfl

/-- The host that plain labels name is the domain of them, in lower case. -/
theorem ofWeb_labels {labels : List (List Char)} (hne : labels ≠ [])
    (h : ∀ label ∈ labels, Domain.IsLabel label) :
    ofWeb (['.'].intercalate labels) =
      .ok (.domain ((['.'].intercalate labels).map Char.toLower)) := by
  have hfilled : ((['.'].intercalate labels).map Char.toLower).isEmpty = false := by
    obtain ⟨label, rest, rfl⟩ := List.exists_cons_of_ne_nil hne
    obtain ⟨c, more, rfl, -⟩ := (h _ List.mem_cons_self).exists_eq
    cases rest <;> simp
  rw [ofWeb_eq fun c hc => Domain.isHostChar_of_mem h hc, Domain.toPlain?_labels hne h]
  simp only [hfilled, Ipv4.endsInNumber_labels hne h, Bool.false_eq_true, if_false]

/-- A name with a label that cannot be decoded is no host. -/
theorem ofWeb_of_undecodable (h : ∀ c ∈ name, Domain.IsHostChar c)
    (hlabels : (pieces (· == '.') (name.map Char.toLower)).mapM Domain.decoded? = none) :
    ofWeb name = .error .invalidDomain := by
  have hplain : Domain.toPlain? name = none := by
    rw [Domain.toPlain?, Domain.mapped?_ascii h]
    simp only [Option.bind_eq_bind, Option.bind_some, hlabels, Option.bind_none]
  rw [ofWeb_eq h, hplain]

end Host

end Url

end ClusterLaunch
