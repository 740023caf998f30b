import ClusterLaunch.Proofs.Json.Layout

/-!
Records within records. The value of a field has its place under the name of the field in an
object, or at its index in an array. All that the record around it takes from that place is
what the reader of the field makes of the value, be it a value or a fault.
-/

namespace ClusterLaunch.Json

variable {α β γ : Type} {types : List Type}

/-- A place for the value of a field: under its name in an object, or at its index in an array. -/
inductive Frame (name : String) (index : Nat) : (Tree → Tree) → Prop
  | member {key : Tree} (hkey : key.key = .ok name) (before after : List (Tree × Tree)) :
      Frame name index fun part => .object (.ofList (before ++ (key, part) :: after))
  | item (before after : List Tree) (hindex : before.length = index) :
      Frame name index fun part => .array (.ofList (before ++ part :: after))

/-- What is read of a whole depends on a part of it only through what a reader makes of the
part. When that is a fault, it is the fault of the whole, unless there is one before it. -/
structure Carries (whole : Tree → Except Fault β) (read : Tree → Except Fault α) : Prop where
  congr {tree other : Tree} (h : read tree = read other) : whole tree = whole other
  fault {tree other : Tree} {value : β} {fault : Fault} (h : whole tree = .ok value)
    (hother : read other = .error fault) : whole other = .error fault

namespace Carries

variable {whole : Tree → Except Fault β} {read : Tree → Except Fault α}

theorem refl (read : Tree → Except Fault α) : Carries read read :=
  ⟨id, fun _ hother => hother⟩

theorem of_error (fault : Fault) (read : Tree → Except Fault α) :
    Carries (fun _ => (.error fault : Except Fault β)) read :=
  ⟨fun _ => rfl, nofun⟩

theorem of_eq (h : Carries whole read) {other : Tree → Except Fault β}
    (heq : ∀ tree, other tree = whole tree) : Carries other read :=
  funext heq ▸ h

/-- A whole that is read has a part that is read. -/
theorem exists_read (h : Carries whole read) {tree : Tree} {value : β}
    (hwhole : whole tree = .ok value) : ∃ part, read tree = .ok part := by
  cases hread : read tree with
  | error fault => cases hwhole.symm.trans (h.fault hwhole hread)
  | ok part => exact ⟨part, rfl⟩

/-- A part of a part is a part. -/
theorem trans {outer : Tree → Except Fault γ} {middle : Tree → Except Fault β}
    {frame inner : Tree → Tree} (houter : Carries (fun tree => outer (frame tree)) middle)
    (hinner : Carries (fun tree => middle (inner tree)) read) :
    Carries (fun tree => outer (frame (inner tree))) read where
  congr h := houter.congr (hinner.congr h)
  fault h hother := by
    obtain ⟨part, hpart⟩ := houter.exists_read h
    exact houter.fault h (hinner.fault hpart hother)

theorem bind (h : Carries whole read) (next : β → Except Fault γ) :
    Carries (fun tree => whole tree >>= next) read where
  congr hread := congrArg (· >>= next) (h.congr hread)
  fault hnext hother := by
    obtain ⟨value, hwhole, -⟩ := bind_eq_ok_iff.mp hnext
    rw [h.fault hwhole hother]
    rfl

theorem after (first : Except Fault γ) {whole : γ → Tree → Except Fault β}
    (h : ∀ value, Carries (whole value) read) :
    Carries (fun tree => first >>= fun value => whole value tree) read := by
  cases first with
  | error fault => exact of_error fault read
  | ok value => exact h value

theorem map (h : Carries whole read) (f : β → γ) :
    Carries (fun tree => (whole tree).map f) read where
  congr hread := congrArg (·.map f) (h.congr hread)
  fault hmap hother := by
    obtain ⟨value, hwhole, -⟩ := map_eq_ok_iff.mp hmap
    rw [h.fault hwhole hother]
    rfl

end Carries

variable {fields : Fields types} {field : Field α} {index : Nat}

theorem Fields.At.carries_members (hat : fields.At field index) (hnames : fields.names.Nodup)
    {key : Tree} (hkey : key.key = .ok field.name) (strict : Bool) (slots : Slots types)
    (before after : List (Tree × Tree)) :
    Carries (fun part => fields.readMembers strict slots (.ofList (before ++ (key, part) :: after)))
      field.read := by
  simp only [readMembers_append]
  refine .after _ fun slots => ?_
  simp only [Members.ofList, readMembers, hkey]
  rcases hat.store_eq hnames slots with htaken | ⟨put, hput⟩
  · simp only [htaken]
    exact .of_error _ _
  · refine (((Carries.refl field.read).map put).bind fun slots =>
      fields.readMembers strict slots (.ofList after)).of_eq fun part => ?_
    rw [hput]
    cases field.read part <;> rfl

theorem Fields.At.carries_items {before : List Tree} (hat : fields.At field before.length)
    (expected : String) (start : Nat) (after : List Tree) :
    Carries (fun part => fields.readItems expected start (.ofList (before ++ part :: after)))
      field.read := by
  generalize hlength : before.length = index at hat
  induction hat generalizing before start with
  | @here _ rest =>
      obtain rfl := List.length_eq_zero_iff.mp hlength
      refine ((Carries.refl field.read).bind fun value =>
        (rest.readItems expected (start + 1) (.ofList after)).map
          fun found => ((value, found.1), found.2)).of_eq fun part => ?_
      simp only [List.nil_append, Items.ofList, readItems]
      cases field.read part <;> rfl
  | @there _ _ other rest _ _ ih =>
      cases before with
      | nil => cases hlength
      | cons first before =>
          simp only [List.cons_append, Items.ofList, readItems]
          cases other.read first with
          | error fault => exact .of_error fault _
          | ok value => exact (ih (start + 1) (Nat.succ.inj hlength)).map _

/-- A record takes from the place of a field what the field reads there. -/
theorem Record.carries {record : Record β} (hnames : record.fields.names.Nodup)
    (hat : record.fields.At field index) {frame : Tree → Tree}
    (hframe : Frame field.name index frame) :
    Carries (fun part => record.read (frame part)) field.read := by
  cases hframe with
  | member hkey before after => exact (hat.carries_members hnames hkey _ _ before after).bind _
  | item before after hindex =>
      subst hindex
      exact (hat.carries_items _ _ after).bind _

theorem carries_list (read : Tree → Except Fault α) (before after : List Tree) :
    Carries (fun part => readList read (.array (.ofList (before ++ part :: after)))) read := by
  simp only [readList]
  induction before with
  | nil =>
      refine ((Carries.refl read).bind fun value =>
        ((Items.ofList after).readAll read).map (value :: ·)).of_eq fun part => ?_
      simp only [List.nil_append, Items.ofList, Items.readAll]
      cases read part <;> rfl
  | cons first before ih =>
      simp only [List.cons_append, Items.ofList, Items.readAll]
      cases read first with
      | error fault => exact .of_error fault _
      | ok value => exact ih.map _

end ClusterLaunch.Json
