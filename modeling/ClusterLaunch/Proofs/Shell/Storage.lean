import ClusterLaunch.Proofs.Fallible
import ClusterLaunch.Shell.Storage

/-!
Files and directories. What is written into a file is read from it at the place where it was
written. A name that is given or taken away changes what stands under this name in this
directory, and nothing else.
-/

namespace ClusterLaunch.Shell

namespace Content

variable {c : Content} {text : List Char} {offset : Nat}

theorem text_eq (c : Content) : c.text = c.pieces.toList.flatten := by
  rw [Content.text]
  split
  · next one hpieces => rw [hpieces, List.flatten_singleton]
  · rfl

/-- The size that is kept with a content is that of its text. -/
def Sound (c : Content) : Prop :=
  c.size = c.text.length

theorem text_ofText (text : List Char) : (ofText text).text = text := by
  rw [ofText]
  split
  · next hempty => rw [List.isEmpty_iff.mp hempty, text_eq]; rfl
  · rfl

theorem sound_ofText (text : List Char) : (ofText text).Sound := by
  rw [Sound, text_ofText, ofText]
  split
  · next hempty => rw [List.isEmpty_iff.mp hempty]; rfl
  · rfl

theorem text_append (c : Content) (text : List Char) : (c.append text).text = c.text ++ text := by
  rw [append]
  split
  · next hempty => rw [List.isEmpty_iff.mp hempty, List.append_nil]
  · rw [text_eq, text_eq, Array.toList_push, List.flatten_append, List.flatten_singleton]

theorem Sound.append (h : c.Sound) (text : List Char) : (c.append text).Sound := by
  rw [Sound, text_append, List.length_append, ← h, Content.append]
  split
  · next hempty => rw [List.isEmpty_iff.mp hempty, List.length_nil, Nat.add_zero]
  · rfl

/-- Writing over a text keeps what is before the place and what is behind it, and a gap is
filled with zeros. -/
theorem Sound.text_put (h : c.Sound) (hne : text ≠ []) (offset : Nat) :
    (c.put offset text).text =
      c.text.take offset ++ List.replicate (offset - c.text.length) '\x00' ++ text ++
        c.text.drop (offset + text.length) := by
  rw [put, if_neg (by simpa using hne), ← h]
  split
  · next heq =>
      obtain rfl : offset = c.size := by simpa using heq
      rw [text_append, Nat.sub_self, h, List.take_length, List.drop_eq_nil_of_le (by omega)]
      simp
  · exact text_ofText _

theorem Sound.put (h : c.Sound) (offset : Nat) (text : List Char) : (c.put offset text).Sound := by
  rw [Content.put]
  split
  · exact h
  split
  · exact h.append text
  · exact sound_ofText _

/-- What was written at a place is read there. -/
theorem Sound.read_put (h : c.Sound) (offset : Nat) (text : List Char) :
    ((c.put offset text).text.drop offset).take text.length = text := by
  by_cases hempty : text = []
  · rw [hempty]
    rfl
  have hlength : (c.text.take offset ++ List.replicate (offset - c.text.length) '\x00').length =
      offset := by
    rw [List.length_append, List.length_take, List.length_replicate]
    omega
  rw [h.text_put hempty, List.append_assoc, List.drop_left' hlength, List.take_left' rfl]

end Content

namespace Storage

variable {s : Storage} {id parent now : Nat} {n : List Char} {names : List (List Char × Nat)}

/-- What stands under a name in a directory. -/
def child? (s : Storage) (parent : Nat) (n : List Char) : Option Nat :=
  (s.names parent).lookup n

theorem at?_modify (s : Storage) (id : Nat) (f : Entry → Entry) (other : Nat) :
    (s.modify id f).at? other = if id = other then (s.at? other).map f else s.at? other := by
  simp only [modify, at?, Std.HashMap.getElem?_modify, beq_iff_eq]
  split
  · next heq => rw [heq]
  · rfl

theorem names_setNames (s : Storage) (parent now : Nat) (names : List (List Char × Nat))
    (other : Nat) :
    (s.setNames parent now names).names other =
      if parent = other ∧ s.isDirectory parent = true then names else s.names other := by
  simp only [Storage.names, setNames, at?_modify, isDirectory]
  by_cases hother : parent = other
  · subst hother
    rcases Option.eq_none_or_eq_some (s.at? parent) with hentry | ⟨e, hentry⟩
    · simp [hentry]
    · cases hnode : e.node <;> simp [hentry, hnode, Entry.isDirectory]
  · simp [hother]

@[simp] theorem isDirectory_setNames (s : Storage) (parent now : Nat)
    (names : List (List Char × Nat)) (other : Nat) :
    (s.setNames parent now names).isDirectory other = s.isDirectory other := by
  simp only [setNames, isDirectory, at?_modify]
  by_cases hother : parent = other
  · subst hother
    rcases Option.eq_none_or_eq_some (s.at? parent) with hentry | ⟨e, hentry⟩
    · simp [hentry]
    · cases hnode : e.node <;> simp [hentry, hnode, Entry.isDirectory]
  · simp [hother]

/-- A place that is no directory has no names. -/
theorem child?_eq_none_of_not_isDirectory (h : s.isDirectory parent = false) (n : List Char) :
    s.child? parent n = none := by
  simp only [isDirectory] at h
  simp only [child?, Storage.names]
  cases hentry : s.at? parent with
  | none => rfl
  | some e => cases hnode : e.node <;> simp_all [Entry.isDirectory]

theorem lookup_filter_ne (names : List (List Char × Nat)) (n m : List Char) :
    (names.filter fun (name, _) => name != n).lookup m =
      if m = n then none else names.lookup m := by
  induction names with
  | nil => simp
  | cons first names ih =>
      obtain ⟨name, id⟩ := first
      by_cases hname : name = n
      · subst hname
        rw [List.filter_cons_of_neg (by simp), ih]
        split
        · rfl
        · next hne => rw [List.lookup_cons, beq_false_of_ne hne]
      · rw [List.filter_cons_of_pos (by simpa using hname), List.lookup_cons, List.lookup_cons, ih]
        by_cases hm : m = name
        · subst hm
          simp [hname]
        · rw [beq_false_of_ne hm]

/-- A name that is given stands for its entry from then on; no other name is touched. -/
theorem child?_name (h : s.isDirectory parent = true) (now : Nat) (n : List Char) (id other : Nat)
    (m : List Char) :
    (s.name parent now n id).child? other m =
      if other = parent ∧ m = n then some id else s.child? other m := by
  rw [child?, Storage.name, names_setNames]
  by_cases hother : other = parent
  · subst hother
    rw [if_pos ⟨rfl, h⟩, List.lookup_append, lookup_filter_ne, child?]
    by_cases hm : m = n
    · simp [hm]
    · simp [hm, List.lookup_cons, beq_false_of_ne hm]
  · rw [if_neg fun hsame => hother hsame.1.symm, if_neg fun hsame => hother hsame.1, child?]

/-- A name that is taken away stands for nothing; no other name is touched. -/
theorem child?_unname (s : Storage) (parent now : Nat) (n : List Char) (other : Nat)
    (m : List Char) :
    (s.unname parent now n).child? other m =
      if other = parent ∧ m = n then none else s.child? other m := by
  rw [child?, unname, names_setNames]
  by_cases hother : other = parent
  · subst hother
    cases hdirectory : s.isDirectory other with
    | true => simp [lookup_filter_ne, child?]
    | false =>
        have hnone := child?_eq_none_of_not_isDirectory hdirectory m
        rw [child?] at hnone
        simp [hnone, child?]
  · rw [if_neg fun hsame => hother hsame.1.symm, if_neg fun hsame => hother hsame.1, child?]

/-! Storages in which all that is named is there. -/

/-- Every entry has a number that was given, every name stands for an entry, and the first
directory is there. -/
structure Sound (s : Storage) : Prop where
  given : ∀ {id}, (s.at? id).isSome = true → id < s.next
  named : ∀ {parent n id}, s.child? parent n = some id → (s.at? id).isSome = true
  root : s.isDirectory root = true

@[simp] theorem next_setNames (s : Storage) (parent now : Nat) (names : List (List Char × Nat)) :
    (s.setNames parent now names).next = s.next := rfl

@[simp] theorem isSome_at?_modify (s : Storage) (id : Nat) (f : Entry → Entry) (other : Nat) :
    ((s.modify id f).at? other).isSome = (s.at? other).isSome := by
  rw [at?_modify]
  split <;> simp

/-- Names that stand for entries can be given to a directory. -/
theorem Sound.setNames (h : s.Sound)
    (hnames : ∀ {n id}, names.lookup n = some id → (s.at? id).isSome = true) (parent now : Nat) :
    (s.setNames parent now names).Sound where
  given hsome := h.given (by simpa [Storage.setNames] using hsome)
  named {other n id} hchild := by
    rw [child?, names_setNames] at hchild
    simp only [Storage.setNames, isSome_at?_modify]
    split at hchild
    · exact hnames hchild
    · exact h.named hchild
  root := by rw [isDirectory_setNames, h.root]

theorem Sound.name (h : s.Sound) (hid : (s.at? id).isSome = true) (parent now : Nat)
    (n : List Char) : (s.name parent now n id).Sound := by
  refine h.setNames (fun {m other} hlookup => ?_) parent now
  rw [List.lookup_append, lookup_filter_ne, List.lookup_cons, Option.or_eq_some_iff] at hlookup
  rcases hlookup with hold | ⟨-, hnew⟩
  · split at hold
    · cases hold
    · exact h.named hold
  · split at hnew
    · obtain rfl : id = other := Option.some.inj hnew
      exact hid
    · cases hnew

theorem Sound.unname (h : s.Sound) (parent now : Nat) (n : List Char) :
    (s.unname parent now n).Sound := by
  refine h.setNames (fun {m other} hlookup => ?_) parent now
  rw [lookup_filter_ne] at hlookup
  split at hlookup
  · cases hlookup
  · exact h.named hlookup

theorem names_write (s : Storage) (id now : Nat) (f : Content → Content) (other : Nat) :
    (s.write id now f).names other = s.names other := by
  simp only [Storage.names, Storage.write, at?_modify]
  by_cases hother : id = other
  · subst hother
    rcases Option.eq_none_or_eq_some (s.at? id) with hentry | ⟨e, hentry⟩
    · simp [hentry]
    · cases hnode : e.node <;> simp [hentry, hnode]
  · simp [hother]

theorem isDirectory_write (s : Storage) (id now : Nat) (f : Content → Content) (other : Nat) :
    (s.write id now f).isDirectory other = s.isDirectory other := by
  simp only [isDirectory, Storage.write, at?_modify]
  by_cases hother : id = other
  · subst hother
    rcases Option.eq_none_or_eq_some (s.at? id) with hentry | ⟨e, hentry⟩
    · simp [hentry]
    · cases hnode : e.node <;> simp [hentry, hnode, Entry.isDirectory]
  · simp [hother]

/-- Writing to a file touches no name. -/
theorem Sound.write (h : s.Sound) (id now : Nat) (f : Content → Content) :
    (s.write id now f).Sound where
  given hsome := h.given (by simpa [Storage.write] using hsome)
  named hchild := by
    rw [child?, names_write] at hchild
    simpa [Storage.write] using h.named hchild
  root := by rw [isDirectory_write, h.root]

/-- A directory that has no names yet, or no directory at all. -/
def Childless (e : Entry) : Prop :=
  ∀ above names, e.node = .directory above names → names = []

/-- A storage with one entry more, which has no name yet. -/
def insert (s : Storage) (e : Entry) : Storage :=
  ⟨s.entries.insert s.next e, s.next + 1⟩

theorem at?_insert (s : Storage) (e : Entry) (id : Nat) :
    (s.insert e).at? id = if s.next = id then some e else s.at? id := by
  simp only [at?, insert, Std.HashMap.getElem?_insert, beq_iff_eq]

theorem names_insert_of_ne (e : Entry) (h : s.next ≠ parent) :
    (s.insert e).names parent = s.names parent := by
  simp only [Storage.names, at?_insert, if_neg h]

theorem isDirectory_insert_of_ne (e : Entry) (h : s.next ≠ parent) :
    (s.insert e).isDirectory parent = s.isDirectory parent := by
  simp only [isDirectory, at?_insert, if_neg h]

theorem isSome_at?_of_isDirectory (h : s.isDirectory id = true) : (s.at? id).isSome = true := by
  rw [isDirectory] at h
  cases hentry : s.at? id with
  | none => simp [hentry] at h
  | some e => rfl

theorem Sound.lt_of_isDirectory (h : s.Sound) (hparent : s.isDirectory parent = true) :
    parent < s.next :=
  h.given (isSome_at?_of_isDirectory hparent)

theorem Sound.insert (h : s.Sound) {e : Entry} (he : Childless e) : (s.insert e).Sound where
  given {id} hsome := by
    rw [at?_insert] at hsome
    split at hsome
    · next heq => exact heq ▸ Nat.lt_succ_self _
    · exact Nat.lt_succ_of_lt (h.given hsome)
  named {parent n id} hchild := by
    rw [at?_insert]
    split
    · rfl
    by_cases hplace : s.next = parent
    · have hnone : (s.insert e).names parent = [] := by
        simp only [Storage.names, at?_insert, if_pos hplace, Option.map_some]
        split
        · next hnode => exact he _ _ (Option.some.inj hnode)
        · rfl
      rw [child?, hnone] at hchild
      cases hchild
    · rw [child?, names_insert_of_ne e hplace] at hchild
      exact h.named hchild
  root := by
    rw [isDirectory_insert_of_ne e (Nat.ne_of_gt (h.lt_of_isDirectory h.root)), h.root]

theorem add_eq (s : Storage) (parent now : Nat) (n : List Char) (e : Entry) :
    s.add parent now n e = ((s.insert { e with changed := now }).name parent now n s.next, s.next) :=
  rfl

theorem Sound.add (h : s.Sound) {e : Entry} (he : Childless e) (parent now : Nat) (n : List Char) :
    (s.add parent now n e).1.Sound := by
  rw [add_eq]
  refine (h.insert (e := { e with changed := now }) he).name ?_ parent now n
  rw [at?_insert, if_pos rfl]
  rfl

/-- A directory is made where it is asked for, and the entries of the others are kept. -/
theorem Sound.ensure (h : s.Sound) (parent : Nat) (n : List Char) : (s.ensure parent n).1.Sound := by
  rw [Storage.ensure]
  split
  · exact h
  · refine h.add ?_ parent 0 n
    rintro above names ⟨⟩
    rfl

theorem Sound.ensureWay (h : s.Sound) (names : List (List Char)) : (s.ensureWay names).1.Sound := by
  rw [Storage.ensureWay]
  generalize Storage.root = parent
  induction names generalizing s parent with
  | nil => exact h
  | cons n names ih => exact ih (h.ensure parent n) _

theorem Sound.place (h : s.Sound) (path : List Char) {e : Entry} (he : Childless e) :
    (s.place path e).Sound := by
  rw [Storage.place]
  split
  · exact h
  · next n way hparts => exact (h.ensureWay way.reverse).add he _ 0 n

theorem Sound.foldl {α : Type} {f : Storage → α → Storage}
    (hf : ∀ {s : Storage} (a : α), s.Sound → (f s a).Sound) (h : s.Sound) (all : List α) :
    (all.foldl f s).Sound := by
  induction all generalizing s with
  | nil => exact h
  | cons a all ih => exact ih (hf a h)

theorem at?_empty (id : Nat) :
    empty.at? id = if root = id then some { node := .directory root [], mode := 0o755 }
      else none := by
  simp [empty, at?, Std.HashMap.ofList_singleton, Std.HashMap.getElem?_insert]

theorem sound_empty : empty.Sound where
  given {id} hsome := by
    rw [at?_empty] at hsome
    split at hsome
    · next heq => exact heq ▸ Nat.zero_lt_one
    · cases hsome
  named {parent n id} hchild := by
    have hnone : empty.names parent = [] := by
      simp only [Storage.names, at?_empty]
      by_cases hparent : root = parent <;> simp [hparent]
    rw [child?, hnone] at hchild
    cases hchild
  root := by
    rw [isDirectory, at?_empty, if_pos rfl]
    rfl

/-! Paths. -/

/-- A spot is a name in a directory with the entry of that name, or a directory itself. -/
inductive Leads (s : Storage) : Spot → Prop
  | name {parent : Nat} (n : List Char) (hparent : s.isDirectory parent = true) :
      Leads s ⟨parent, n, s.child? parent n⟩
  | self {id : Nat} (hid : s.isDirectory id = true) : Leads s ⟨s.parentOf id, ['.'], some id⟩

/-- Names are followed to a spot, through however many directories and links. -/
theorem leads_of_walk {through : Bool} {fuel links : Nat} {path : List (List Char)} {spot : Spot}
    (h : s.walk through fuel links parent path = .ok spot) : Leads s spot := by
  induction fuel generalizing links parent path with
  | zero => cases h
  | succ fuel ih =>
      unfold walk at h
      cases hparent : s.isDirectory parent with
      | false => simp [hparent] at h
      | true =>
          simp only [hparent, Bool.not_true, Bool.false_eq_true, if_false] at h
          split at h
          · obtain rfl := Except.ok.inj h
            exact .self hparent
          · exact ih h
          · next part rest _ =>
              -- the name is the last one, or it is a directory or a link on the way
              have hlast {entry : Option Nat} (hentry : (s.names parent).lookup part = entry)
                  (hspot : Except.ok ⟨parent, part, entry⟩ = (.ok spot : Except Trouble Spot)) :
                  Leads s spot := by
                obtain rfl := Except.ok.inj hspot
                exact hentry ▸ .name part hparent
              split at h
              · cases h
              split at h
              · next hnone =>
                  split at h
                  · exact hlast hnone h
                  · cases h
              · next id hid =>
                  split at h
                  · split at h
                    · exact hlast hid h
                    · split at h
                      · cases h
                      · exact ih h
                  · split at h
                    · exact hlast hid h
                    · exact ih h

theorem leads_of_spot {through : Bool} {path : List Char} {spot : Spot}
    (h : s.spot through parent path = .ok spot) : Leads s spot := by
  simp only [Storage.spot] at h
  obtain ⟨-, h⟩ := unless_eq_ok_iff.mp h
  obtain ⟨-, h⟩ := unless_eq_ok_iff.mp h
  obtain ⟨found, hwalk, h⟩ := bind_eq_ok_iff.mp h
  have hfound : found = spot := by
    split at h
    · exact Except.ok.inj (unless_eq_ok_iff.mp h).2
    · exact Except.ok.inj h
  exact hfound ▸ leads_of_walk hwalk

/-- A path that is found leads to an entry. -/
theorem Sound.isSome_of_find (h : s.Sound) {path : List Char} {through : Bool}
    (hfind : s.find parent path through = .ok id) : (s.at? id).isSome = true := by
  obtain ⟨spot, hspot, hentry⟩ := bind_eq_ok_iff.mp hfind
  cases leads_of_spot hspot with
  | name n hparent =>
      simp only at hentry
      split at hentry
      · next found hfound => exact Except.ok.inj hentry ▸ h.named hfound
      · cases hentry
  | self hid => exact Except.ok.inj hentry ▸ isSome_at?_of_isDirectory hid

/-! Finding what was added. -/

/-- A name that a path can be: it has no slash, and does not stand for a place. -/
structure IsName (n : List Char) : Prop where
  filled : n ≠ []
  slash : '/' ∉ n
  dot : n ≠ ['.']
  dots : n ≠ ['.', '.']
  length_le : n.length ≤ 255

theorem IsName.parts_eq (hn : IsName n) : parts n = [n] := by
  have hpieces : Text.pieces (· == '/') n = [n] :=
    Text.pieces_of_none fun c hc => beq_false_of_ne fun heq => hn.slash (heq ▸ hc)
  rw [parts, hpieces]
  simp [hn.filled, hn.dot]

theorem IsName.not_leading (hn : IsName n) :
    (n.getLast? == some '/' || endsWith n ['/', '.']) = false := by
  have hlast : n.getLast? ≠ some '/' := fun h => hn.slash (List.mem_of_getLast? h)
  have hend : n.drop (n.length - 2) ≠ ['/', '.'] := fun h =>
    hn.slash (List.mem_of_mem_drop (h ▸ List.mem_cons_self))
  simp [endsWith, hlast, hend]

/-- An entry that is no link is found under its name. -/
theorem find_of_child? (hparent : s.isDirectory parent = true) (hn : IsName n)
    (hchild : s.child? parent n = some id)
    (hlink : ∀ target, (s.at? id).map Entry.node ≠ some (.link target)) :
    s.find parent n = .ok id := by
  have hwalk (through : Bool) (fuel links : Nat) :
      s.walk through (fuel + 1) links parent [n] = .ok ⟨parent, n, some id⟩ := by
    rw [child?] at hchild
    have hlength : ¬ nameLimit < n.length := Nat.not_lt_of_le hn.length_le
    unfold walk
    simp only [hparent, Bool.not_true, Bool.false_eq_true, if_false]
    split
    · next heq => cases heq
    · next rest heq => exact absurd (List.cons.inj heq).1 hn.dots
    · next part rest _ heq =>
        obtain ⟨rfl, rfl⟩ := List.cons.inj heq
        simp only [hlength, hchild, if_false, List.isEmpty_nil, if_true]
  have hempty : n.isEmpty = false := by simpa using hn.filled
  have hlimit : ¬ pathLimit < n.length := by
    have hle := hn.length_le
    rw [pathLimit]
    omega
  have hhead : (n.head? == some '/') = false :=
    beq_false_of_ne fun h => hn.slash (List.mem_of_head? h)
  have hspot : s.spot true parent n = .ok ⟨parent, n, some id⟩ := by
    simp only [spot, hn.parts_eq, hn.not_leading, hempty, hlimit, hhead, hwalk, Bool.or_false,
      Bool.false_eq_true, if_false, Bool.false_and]
    rfl
  rw [find, hspot]
  rfl

/-- What was added to a directory under a name is found there under this name. -/
theorem find_add (h : s.Sound) (hparent : s.isDirectory parent = true) (hn : IsName n) {e : Entry}
    (he : ∀ target, e.node ≠ .link target) (now : Nat) :
    (s.add parent now n e).1.find parent n = .ok (s.add parent now n e).2 := by
  have hne : s.next ≠ parent := Nat.ne_of_gt (h.lt_of_isDirectory hparent)
  rw [add_eq]
  refine find_of_child? ?_ hn ?_ fun target => ?_
  · rw [Storage.name, isDirectory_setNames, isDirectory_insert_of_ne _ hne, hparent]
  · rw [child?_name (by rw [isDirectory_insert_of_ne _ hne, hparent]), if_pos ⟨rfl, rfl⟩]
  · simp only [Storage.name, setNames, at?_modify, if_neg hne.symm, at?_insert, if_true]
    exact fun hnode => he target (Option.some.inj hnode)

end Storage

end ClusterLaunch.Shell
