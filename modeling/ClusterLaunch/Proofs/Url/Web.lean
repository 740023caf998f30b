import ClusterLaunch.Proofs.Digits
import ClusterLaunch.Proofs.Lines
import ClusterLaunch.Proofs.Url.Domain
import Mathlib.Data.Char

/-!
Addresses of the web in their parts, and what of them the authority is made of: the host, in
lower case, and the number of the port, unless the scheme has it anyway. The name and
password in front of the host and all that follows the port are passed over.
-/

namespace ClusterLaunch

namespace Text

/-- What is dropped at the end of a text is dropped at the end of its last part, unless nothing
is left of this and the part before it ends in the class, too. -/
theorem stripEnd_append {p : Char → Bool} {front : List Char}
    (h : ∀ c ∈ front.getLast?, p c = false) (back : List Char) :
    stripEnd p (front ++ back) = front ++ stripEnd p back := by
  have hkept : front.reverse.dropWhile p = front.reverse := by
    rw [← List.head?_reverse] at h
    cases hreverse : front.reverse with
    | nil => rfl
    | cons c rest => exact List.dropWhile_cons_of_neg (by simp [h c (by simp [hreverse])])
  rw [stripEnd, List.reverse_append, List.dropWhile_append, stripEnd]
  split
  · next hnone =>
    rw [hkept, List.reverse_reverse, List.isEmpty_iff.mp hnone, List.reverse_nil, List.append_nil]
  · rw [List.reverse_append, List.reverse_reverse]

theorem strip_append {p : Char → Bool} {front : List Char} (hne : front ≠ [])
    (hhead : ∀ c ∈ front.head?, p c = false) (hlast : ∀ c ∈ front.getLast?, p c = false)
    (back : List Char) : strip p (front ++ back) = front ++ stripEnd p back := by
  obtain ⟨c, rest, rfl⟩ := List.exists_cons_of_ne_nil hne
  have hstart : stripStart p (c :: rest ++ back) = c :: rest ++ back :=
    List.dropWhile_cons_of_neg (by simp [hhead c rfl])
  rw [strip, hstart, stripEnd_append hlast]

end Text

namespace Url

open Text

/-- What may follow the authority of an address: nothing, or a path, a query or a fragment. -/
def IsTail (tail : List Char) : Prop :=
  ∀ c ∈ tail.head?, c = '/' ∨ c = '?' ∨ c = '#'

/-- A character that stands for itself in front of the host: none that is left out of addresses,
and none that ends the authority. -/
def IsInner (c : Char) : Prop :=
  ' ' < c ∧ endsAuthority true c = false

instance : DecidablePred IsInner := fun c =>
  inferInstanceAs (Decidable (' ' < c ∧ endsAuthority true c = false))

structure WebAddress where
  secure : Bool
  /-- The name and the password in front of the host. -/
  held : Option (List Char)
  labels : List (List Char)
  /-- What follows the colon after the host. -/
  digits : Option (List Char)
  tail : List Char
  isInner_held : ∀ text ∈ held, ∀ c ∈ text, IsInner c
  labels_ne_nil : labels ≠ []
  isLabel : ∀ label ∈ labels, Domain.IsLabel label
  isDigit_digits : ∀ text ∈ digits, ∀ c ∈ text, isDigit c = true
  isTail : IsTail tail

namespace WebAddress

variable (a : WebAddress)

def scheme : List Char :=
  if a.secure then "https".toList else "http".toList

def usualPort : Nat :=
  if a.secure then 443 else 80

def host : List Char :=
  ['.'].intercalate a.labels

def lead : List Char :=
  (a.held.map (· ++ ['@'])).getD []

def target : List Char :=
  a.host ++ (a.digits.map (':' :: ·)).getD []

def front : List Char :=
  a.scheme ++ "://".toList ++ (a.lead ++ a.target)

def text : String :=
  String.ofList (a.front ++ a.tail)

def number? : Option Nat :=
  match a.digits with
  | none | some [] => none
  | some digits => some (digitsValue digits)

def overflows : Bool :=
  a.number?.any (65535 < ·)

def named : Authority where
  host := .domain (a.host.map Char.toLower)
  port := a.number?.bind fun number => if number = a.usualPort then none else some number

def shown : String :=
  String.ofList (a.host.map Char.toLower) ++ match a.number? with
    | none => ""
    | some number => if number = a.usualPort then "" else ":" ++ decimal number

/-- Whether two addresses differ at most in what stands in front of the host and in the tail. -/
def SameTarget (b : WebAddress) : Prop :=
  b.secure = a.secure ∧ b.labels = a.labels ∧ b.digits = a.digits

end WebAddress

/-! What is dropped from an address. -/

variable {tail : List Char} {p : Char → Bool}

theorem IsTail.opens {c : Char} {rest : List Char} (h : IsTail (c :: rest)) :
    endsAuthority true c = true ∧ c ≠ ':' ∧ isDigit c = false ∧ ' ' < c := by
  rcases h c rfl with rfl | rfl | rfl <;> decide

theorem IsTail.stripEnd (h : IsTail tail) : IsTail (stripEnd p tail) := by
  have hprefix : Text.stripEnd p tail <+: tail := by
    rw [Text.stripEnd, ← List.reverse_suffix, List.reverse_reverse]
    exact List.dropWhile_suffix p
  obtain ⟨dropped, hdropped⟩ := hprefix
  intro c hc
  refine h c ?_
  rw [← hdropped, List.head?_append, Option.mem_def.mp hc]
  rfl

theorem IsTail.filter (h : IsTail tail) (hp : ∀ c, ' ' < c → p c = true) :
    IsTail (tail.filter p) := by
  cases tail with
  | nil => exact h
  | cons c rest =>
      rw [List.filter_cons_of_pos (hp c h.opens.2.2.2)]
      exact h

theorem significant_append {front : List Char} (hne : front ≠ []) (hfront : ∀ c ∈ front, ' ' < c)
    (h : IsTail tail) : ∃ rest, IsTail rest ∧ significant (front ++ tail) = front ++ rest := by
  have houtside {c : Char} (hc : ' ' < c) : decide (c ≤ ' ') = false :=
    decide_eq_false (not_le.mpr hc)
  have hkept (c : Char) (hc : ' ' < c) : (!(c == '\t' || c == '\n' || c == '\r')) = true := by
    have hne {d : Char} (hd : d ≤ ' ') : (c == d) = false :=
      beq_eq_false_iff_ne.mpr (ne_of_gt (lt_of_le_of_lt hd hc))
    rw [hne (by decide), hne (by decide), hne (by decide)]
    rfl
  have hends : strip (· ≤ ' ') (front ++ tail) = front ++ Text.stripEnd (· ≤ ' ') tail :=
    strip_append hne (fun c hc => houtside (hfront c (List.mem_of_mem_head? hc)))
      (fun c hc => houtside (hfront c (List.mem_of_mem_getLast? hc))) tail
  refine ⟨_, (h.stripEnd (p := (· ≤ ' '))).filter hkept, ?_⟩
  rw [significant, hends, List.filter_append,
    List.filter_eq_self.mpr fun c hc => hkept c (hfront c hc)]

/-! The parts of the authority. -/

theorem before_append {front : List Char} (hfront : ∀ c ∈ front, endsAuthority true c = false)
    (h : IsTail tail) : before (endsAuthority true) (front ++ tail) = front := by
  have htail : tail.takeWhile (fun c => !endsAuthority true c) = [] := by
    cases tail with
    | nil => rfl
    | cons c rest => exact List.takeWhile_cons_of_neg (by simp [h.opens.1])
  rw [before, List.takeWhile_append_of_pos fun c hc => by simp [hfront c hc], htail,
    List.append_nil]

theorem credentials_none {front : List Char}
    (hfront : ∀ c ∈ front, endsAuthority true c = false ∧ c ≠ '@') (h : IsTail tail) :
    credentials true (front ++ tail) = (none, front ++ tail) := by
  have hnone : ¬front.contains '@' = true := by
    rw [List.contains_iff_mem]
    exact fun hmem => (hfront '@' hmem).2 rfl
  simp only [credentials, before_append (fun c hc => (hfront c hc).1) h, if_neg hnone]

/-- What is held in front of the host ends with the last `@` of the authority. -/
theorem credentials_some {held front : List Char}
    (hheld : ∀ c ∈ held, endsAuthority true c = false)
    (hfront : ∀ c ∈ front, endsAuthority true c = false ∧ c ≠ '@') (h : IsTail tail) :
    credentials true (held ++ '@' :: front ++ tail) = (some held, front ++ tail) := by
  have hinner : ∀ c ∈ held ++ '@' :: front, endsAuthority true c = false := by
    intro c hc
    rcases List.mem_append.mp hc with hmem | hmem
    · exact hheld c hmem
    · rcases List.mem_cons.mp hmem with rfl | hmem
      · rfl
      · exact (hfront c hmem).1
  have hafter : ((held ++ '@' :: front).reverse.takeWhile (· != '@')).reverse = front := by
    rw [List.reverse_append, List.reverse_cons, List.append_assoc,
      List.takeWhile_append_of_pos fun c hc => by simp [(hfront c (List.mem_reverse.mp hc)).2]]
    simp
  have hlength : (held ++ '@' :: front).length - front.length - 1 = held.length := by
    simp only [List.length_append, List.length_cons]
    omega
  have hcontains : (held ++ '@' :: front).contains '@' = true := by simp
  simp only [credentials, before_append hinner h, if_pos hcontains, hafter, hlength,
    List.take_left]
  simp [List.drop_append]

theorem hostText_append {host after : List Char} (hhost : ∀ c ∈ host, Domain.IsHostChar c)
    (hafter : ∀ c ∈ after.head?, endsAuthority true c = true ∨ c = ':') :
    hostText true false (host ++ after) = host := by
  induction host with
  | nil =>
      cases after with
      | nil => rfl
      | cons c rest =>
          rcases hafter c rfl with hc | rfl
          · simp [hostText, hc]
          · simp [hostText]
  | cons c rest ih =>
      have hc := hhost c List.mem_cons_self
      have hrest := ih fun d hd => hhost d (List.mem_cons_of_mem c hd)
      have hbracket : (c == '[') = false := beq_eq_false_iff_ne.mpr hc.bracketless
      simp [hostText, hc.inner, hc.colonless, hbracket, hrest]

theorem port_tail (scheme : Scheme) (h : IsTail tail) : port scheme tail = .ok none := by
  cases tail with
  | nil => rfl
  | cons c rest =>
      unfold port
      split
      · next heq => exact absurd (List.cons.inj heq).1 h.opens.2.1
      · rfl

theorem port_digits (usual : Nat) {digits : List Char} (hdigits : ∀ c ∈ digits, isDigit c = true)
    (h : IsTail tail) :
    port (.web usual) (':' :: (digits ++ tail)) =
      if 65535 < digitsValue digits then .error .invalidPort
      else if digits.isEmpty || usual == digitsValue digits then .ok none
      else .ok (some (digitsValue digits)) := by
  have htake : (digits ++ tail).takeWhile isDigit = digits := by
    rw [List.takeWhile_append_of_pos hdigits]
    cases tail with
    | nil => simp
    | cons c rest => simp [h.opens.2.2.1]
  have hdrop : (digits ++ tail).dropWhile isDigit = tail := by
    rw [List.dropWhile_append_of_pos hdigits]
    cases tail with
    | nil => rfl
    | cons c rest => exact List.dropWhile_cons_of_neg (by simp [h.opens.2.2.1])
  simp only [port, htake, hdrop]
  cases tail with
  | nil => simp [Scheme.port?]
  | cons c rest => simp [Scheme.port?, h.opens.1]

/-! The address as a whole. -/

namespace WebAddress

variable (a : WebAddress)

theorem isHostChar_of_mem_host {a : WebAddress} {c : Char} (hc : c ∈ a.host) :
    Domain.IsHostChar c :=
  Domain.isHostChar_of_mem a.isLabel hc

theorem isInner_of_mem_target {a : WebAddress} {c : Char} (hc : c ∈ a.target) :
    IsInner c ∧ c ≠ '@' ∧ isBlank c = false := by
  have hblank : ∀ c : Char, c.toNat < 128 → ' ' < c → isBlank c = false :=
    forall_ascii (by decide)
  have hhost (hchar : Domain.IsHostChar c) : IsInner c ∧ c ≠ '@' ∧ isBlank c = false :=
    ⟨⟨hchar.visible, hchar.inner⟩, hchar.atless, hblank c hchar.ascii hchar.visible⟩
  rcases List.mem_append.mp hc with hmem | hmem
  · exact hhost (isHostChar_of_mem_host hmem)
  · cases hdigits : a.digits with
    | none => simp [hdigits] at hmem
    | some digits =>
        rw [hdigits, Option.map_some, Option.getD_some, List.mem_cons] at hmem
        rcases hmem with rfl | hdigit
        · exact ⟨⟨by decide, rfl⟩, by decide, rfl⟩
        · have hlabel : Domain.inLabel c = true := by
            simp [Domain.inLabel, a.isDigit_digits digits hdigits c hdigit]
          exact hhost (Domain.isHostChar_of_inLabel hlabel)

theorem exists_host_eq : ∃ c rest, a.host = c :: rest := by
  obtain ⟨label, labels, hlabels⟩ := List.exists_cons_of_ne_nil a.labels_ne_nil
  obtain ⟨c, rest, rfl, -⟩ := (a.isLabel label (by simp [hlabels])).exists_eq
  cases labels <;> simp [host, hlabels]

theorem port_text (h : IsTail tail) :
    port (.web a.usualPort) ((a.digits.map (':' :: ·)).getD [] ++ tail) =
      if a.overflows then .error .invalidPort else .ok a.named.port := by
  cases hdigits : a.digits with
  | none => simpa [overflows, number?, named, hdigits] using port_tail _ h
  | some digits =>
      rw [Option.map_some, Option.getD_some, List.cons_append,
        port_digits a.usualPort (a.isDigit_digits digits hdigits) h]
      cases digits with
      | nil => simp [overflows, number?, named, hdigits, digitsValue]
      | cons c rest =>
          by_cases husual : a.usualPort = digitsValue (c :: rest)
          · simp [overflows, number?, named, hdigits, husual]
          · simp [overflows, number?, named, hdigits, husual, Ne.symm husual]

theorem hostText_target (h : IsTail tail) : hostText true false (a.target ++ tail) = a.host := by
  rw [target, List.append_assoc]
  refine hostText_append (fun c hc => isHostChar_of_mem_host hc) ?_
  cases a.digits with
  | some digits => simp
  | none =>
      intro c hc
      cases tail with
      | nil => cases hc
      | cons d rest =>
          cases hc
          exact .inl h.opens.1

theorem authority?_target (h : IsTail tail) {held : Option (List Char)} {text : List Char}
    (hcredentials : credentials true text = (held, a.target ++ tail)) :
    authority? (.web a.usualPort) text =
      if a.overflows then .error .invalidPort else .ok (some a.named) := by
  obtain ⟨c, rest, hhost⟩ := a.exists_host_eq
  have hc : Domain.IsHostChar c := isHostChar_of_mem_host (a := a) (by simp [hhost])
  have hopens : ((a.target ++ tail).head?.map (endsAuthority true)).getD false = false := by
    simp [target, hhost, hc.inner]
  have hfilled : a.host.isEmpty = false := by simp [hhost]
  have hweb : Host.ofWeb a.host = .ok a.named.host :=
    Host.ofWeb_labels a.labels_ne_nil a.isLabel
  have hport : port (.web a.usualPort) ((a.target ++ tail).drop a.host.length) =
      if a.overflows then .error .invalidPort else .ok a.named.port := by
    rw [target, List.append_assoc, List.drop_left]
    exact a.port_text h
  simp only [authority?, Scheme.isSpecial, hcredentials, hopens, a.hostText_target h, hfilled, hweb,
    hport]
  cases a.overflows <;> simp [bind, Except.bind, pure, Except.pure]

theorem authority?_text (h : IsTail tail) :
    authority? (.web a.usualPort) (a.lead ++ a.target ++ tail) =
      if a.overflows then .error .invalidPort else .ok (some a.named) := by
  have htarget : ∀ c ∈ a.target, endsAuthority true c = false ∧ c ≠ '@' :=
    fun c hc => ⟨(isInner_of_mem_target hc).1.2, (isInner_of_mem_target hc).2.1⟩
  unfold lead
  cases hheld : a.held with
  | none => exact a.authority?_target h (credentials_none htarget h)
  | some held =>
      have hinner : ∀ c ∈ held, endsAuthority true c = false :=
        fun c hc => (a.isInner_held held hheld c hc).2
      have hcredentials := credentials_some hinner htarget h
      refine a.authority?_target h (Eq.trans ?_ hcredentials)
      simp

theorem isInner_of_mem_lead {a : WebAddress} {c : Char} (hc : c ∈ a.lead) : IsInner c := by
  cases hheld : a.held with
  | none => simp [lead, hheld] at hc
  | some held =>
      rw [lead, hheld, Option.map_some, Option.getD_some, List.mem_append,
        List.mem_singleton] at hc
      rcases hc with hmem | rfl
      · exact a.isInner_held held hheld c hmem
      · exact ⟨by decide, rfl⟩

theorem isInner_of_mem {a : WebAddress} {c : Char} (hc : c ∈ a.lead ++ a.target) : IsInner c := by
  rcases List.mem_append.mp hc with hlead | htarget
  · exact isInner_of_mem_lead hlead
  · exact (isInner_of_mem_target htarget).1

theorem target_ne_nil : a.target ≠ [] := by
  obtain ⟨c, rest, hhost⟩ := a.exists_host_eq
  simp [target, hhost]

/-- No slash follows those behind the scheme. -/
theorem dropWhile_slashes (tail : List Char) :
    ('/' :: '/' :: (a.lead ++ a.target ++ tail)).dropWhile (fun c => c == '/' || c == '\\') =
      a.lead ++ a.target ++ tail := by
  obtain ⟨c, rest, htext⟩ := List.exists_cons_of_ne_nil
    (List.append_ne_nil_of_right_ne_nil a.lead a.target_ne_nil)
  have hinner : endsAuthority true c = false := (isInner_of_mem (a := a) (by simp [htext])).2
  have hslash : (c == '/' || c == '\\') = false := by
    simp only [endsAuthority, Bool.or_eq_false_iff, Bool.true_and] at hinner ⊢
    exact ⟨hinner.1.1.1, hinner.2⟩
  rw [htext]
  simp [hslash]

theorem visible_of_mem_front {a : WebAddress} {c : Char} (hc : c ∈ a.front) : ' ' < c := by
  have hscheme : ∀ c ∈ a.scheme ++ "://".toList, ' ' < c := by
    unfold scheme
    cases a.secure <;> simp
  rcases List.mem_append.mp hc with hopen | hmem
  · exact hscheme c hopen
  · exact (isInner_of_mem hmem).1

theorem front_ne_nil : a.front ≠ [] := by
  simp [front]

theorem trim_text : ∃ tail, IsTail tail ∧ trim a.text.toList = a.front ++ tail := by
  have hhead : ∀ c ∈ a.front.head?, isBlank c = false := by
    unfold front scheme
    cases a.secure <;> rintro c ⟨⟩ <;> rfl
  have hlast : ∀ c ∈ a.front.getLast?, isBlank c = false := by
    intro c hc
    rw [front, ← List.append_assoc, List.getLast?_append_of_ne_nil _ a.target_ne_nil] at hc
    exact (isInner_of_mem_target (List.mem_of_mem_getLast? hc)).2.2
  refine ⟨_, a.isTail.stripEnd (p := isBlank), ?_⟩
  rw [text, String.toList_ofList, trim, strip_append a.front_ne_nil hhead hlast]

theorem scheme?_front (tail : List Char) :
    scheme? (a.front ++ tail) =
      some (String.ofList a.scheme, '/' :: '/' :: (a.lead ++ a.target ++ tail)) := by
  unfold front scheme
  cases a.secure <;> rfl

theorem ofName_scheme : Scheme.ofName (String.ofList a.scheme) = .web a.usualPort := by
  unfold scheme usualPort
  cases a.secure <;> rfl

/-- The authority of an address of the web is its host, in lower case, with the number of its
port, unless this is the usual one. Only a number that is too large makes it unreadable. -/
theorem authority_text :
    authority (trim a.text.toList) =
      if a.overflows then .error .invalidPort else .ok a.named := by
  obtain ⟨kept, hkept, htrim⟩ := a.trim_text
  obtain ⟨tail, htail, hsignificant⟩ :=
    significant_append a.front_ne_nil (fun c hc => visible_of_mem_front hc) hkept
  rw [authority, htrim, hsignificant, a.scheme?_front]
  simp only [a.ofName_scheme, a.dropWhile_slashes, a.authority?_text htail]
  cases a.overflows <;> rfl

theorem write_named : String.ofList a.named.write = a.shown := by
  rw [Authority.write, String.ofList_append, shown]
  congr 1
  unfold named
  cases a.number? with
  | none => rfl
  | some number =>
      by_cases husual : number = a.usualPort
      · simp [husual]
      · simp [husual, decimal, String.ofList_cons]

theorem SameTarget.named_eq {a b : WebAddress} (h : a.SameTarget b) :
    b.overflows = a.overflows ∧ b.named = a.named := by
  cases a
  cases b
  obtain ⟨rfl, rfl, rfl⟩ := h
  exact ⟨rfl, rfl⟩

end WebAddress

end Url

end ClusterLaunch
