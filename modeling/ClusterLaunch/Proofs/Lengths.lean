import ClusterLaunch.Document.Settings
import ClusterLaunch.Proofs.Duration
import ClusterLaunch.Proofs.Json.Literal
import ClusterLaunch.Proofs.Json.Placed

/-!
Lengths of time in documents. Seconds and nanoseconds are read in either order, or in a row, as
the length of time that they come to; they are refused if its seconds go beyond 64 bits, and
with them the settings or the watch that they stand in.
-/

namespace ClusterLaunch

open Json

namespace Duration

/-- A length of time as it is given: its seconds and its nanoseconds, by name or in a row. -/
inductive Parts (seconds nanos : Numeral) : Tree → Prop
  | secondsFirst {key other : Tree} (hkey : key.key = .ok "secs") (hother : other.key = .ok "nanos") :
      Parts seconds nanos (.object (.ofList [(key, .number seconds), (other, .number nanos)]))
  | nanosFirst {key other : Tree} (hkey : key.key = .ok "nanos") (hother : other.key = .ok "secs") :
      Parts seconds nanos (.object (.ofList [(key, .number nanos), (other, .number seconds)]))
  | listed : Parts seconds nanos (.array (.ofList [.number seconds, .number nanos]))

variable {seconds nanos : Numeral} {tree : Tree}

/-- Both parts are read, in the order in which they are given. -/
theorem Parts.read_eq_bind (h : Parts seconds nanos tree) :
    record.read tree = (do
      let a ← readWord64 (.number seconds)
      let b ← readWord32 (.number nanos)
      record.build (a, b, ())) ∨
    record.read tree = (do
      let b ← readWord32 (.number nanos)
      let a ← readWord64 (.number seconds)
      record.build (a, b, ())) := by
  -- either number may be refused, and the first to be refused is what is reported
  cases h with
  | secondsFirst hkey hother =>
      left
      simp only [Record.read, Members.ofList, Fields.readMembers, hkey, hother]
      cases hs : readWord64 (.number seconds) <;> cases hn : readWord32 (.number nanos) <;>
        simp [record, Fields.store, Slots.empty, Field.required, hs, hn, Except.map, Fields.finish,
          bind, Except.bind]
  | nanosFirst hkey hother =>
      right
      simp only [Record.read, Members.ofList, Fields.readMembers, hkey, hother]
      cases hs : readWord64 (.number seconds) <;> cases hn : readWord32 (.number nanos) <;>
        simp [record, Fields.store, Slots.empty, Field.required, hs, hn, Except.map, Fields.finish,
          bind, Except.bind]
  | listed =>
      left
      simp only [Record.read, Items.ofList]
      cases hs : readWord64 (.number seconds) <;> cases hn : readWord32 (.number nanos) <;>
        simp [record, Fields.readItems, Field.required, hs, hn, Except.map, bind, Except.bind]
      split <;> next hbuild => exact hbuild.symm

theorem Parts.words (h : Parts seconds nanos tree) {d : Duration}
    (hread : record.read tree = .ok d) :
    seconds.IsCount UInt64.size ∧ nanos.IsCount UInt32.size := by
  rcases h.read_eq_bind with heq | heq
  · obtain ⟨a, ha, hread⟩ := bind_eq_ok_iff.mp (heq.symm.trans hread)
    obtain ⟨b, hb, -⟩ := bind_eq_ok_iff.mp hread
    exact ⟨(Numeral.readWord64_eq_ok_iff.mp ha).1, (Numeral.readWord32_eq_ok_iff.mp hb).1⟩
  · obtain ⟨b, hb, hread⟩ := bind_eq_ok_iff.mp (heq.symm.trans hread)
    obtain ⟨a, ha, -⟩ := bind_eq_ok_iff.mp hread
    exact ⟨(Numeral.readWord64_eq_ok_iff.mp ha).1, (Numeral.readWord32_eq_ok_iff.mp hb).1⟩

theorem Parts.read_eq_build (h : Parts seconds nanos tree)
    (hseconds : seconds.IsCount UInt64.size) (hnanos : nanos.IsCount UInt32.size) :
    record.read tree = record.build (.ofNat seconds.size, .ofNat nanos.size, ()) := by
  have hs : readWord64 (.number seconds) = .ok (.ofNat seconds.size) :=
    Numeral.readWord64_eq_ok_iff.mpr ⟨hseconds, UInt64.toNat_ofNat_of_lt' hseconds.lt⟩
  have hn : readWord32 (.number nanos) = .ok (.ofNat nanos.size) :=
    Numeral.readWord32_eq_ok_iff.mpr ⟨hnanos, UInt32.toNat_ofNat_of_lt' hnanos.lt⟩
  rcases h.read_eq_bind with heq | heq
  · rw [heq, hs, ok_bind, hn, ok_bind]
  · rw [heq, hn, ok_bind, hs, ok_bind]

/-- Seconds and nanoseconds are read as what they come to, unless its seconds go beyond 64
bits. -/
theorem Parts.read_eq (h : Parts seconds nanos tree) (hseconds : seconds.IsCount UInt64.size)
    (hnanos : nanos.IsCount UInt32.size) :
    if seconds.size + nanos.size / 1000000000 < UInt64.size then
      ∃ d, record.read tree = .ok d ∧ d.total = seconds.size * 1000000000 + nanos.size
    else record.read tree = .error (.mismatch .durationOverflow) := by
  rw [h.read_eq_build hseconds hnanos]
  simp only [record, UInt64.toNat_ofNat_of_lt' hseconds.lt, UInt32.toNat_ofNat_of_lt' hnanos.lt]
  split
  · next hlt =>
      obtain ⟨d, hd, htotal⟩ := ofParts?_of_lt hlt
      exact ⟨d, by rw [hd], htotal⟩
  · next hle => rw [ofParts?_of_le (Nat.le_of_not_lt hle)]

/-- Seconds and nanoseconds at a place in a document are read as the length of time that they
come to, and are refused just if its seconds go beyond 64 bits. -/
def KeptAt {β : Type} (read : Tree → Except Fault β) (put : β → Duration → β)
    (place : Tree → Tree) : Prop :=
  ∀ {given text : String} {other part : Tree} {whole : β} {seconds nanos : Numeral},
    (place other).IsOf given → readDocument read given = .ok whole →
    Parts seconds nanos part → (place part).IsOf text →
      (∀ result, readDocument read text = .ok result →
        seconds.IsCount UInt64.size ∧ nanos.IsCount UInt32.size) ∧
      (seconds.IsCount UInt64.size → nanos.IsCount UInt32.size →
        if seconds.size + nanos.size / 1000000000 < UInt64.size then
          ∃ d, d.total = seconds.size * 1000000000 + nanos.size ∧
            readDocument read text = .ok (put whole d)
        else readDocument read text = .error (.mismatch .durationOverflow))

theorem keptAt_of_read_eq {β : Type} {read : Tree → Except Fault β} {put : β → Duration → β}
    {place : Tree → Tree}
    (h : ∀ {other part : Tree} {whole : β} {seconds nanos : Numeral},
      read (place other) = .ok whole → Parts seconds nanos part →
        read (place part) = (record.read part).map (put whole)) : KeptAt read put place := by
  intro given text other part whole seconds nanos hgiven hread hparts htext
  rw [readDocument_of_isOf hgiven] at hread
  rw [readDocument_of_isOf htext, h hread hparts]
  constructor
  · intro result hresult
    obtain ⟨d, hd, -⟩ := map_eq_ok_iff.mp hresult
    exact hparts.words hd
  · intro hseconds hnanos
    have hsum := hparts.read_eq hseconds hnanos
    split at hsum
    · next hlt =>
        obtain ⟨d, hd, htotal⟩ := hsum
        rw [if_pos hlt, hd]
        exact ⟨d, htotal, rfl⟩
    · next hle =>
        rw [if_neg hle, hsum]
        rfl

/-- Where nothing but a length of time is written, what is read of seconds and nanoseconds is all
that a reader may refuse. -/
theorem Parts.readOptional_eq (h : Parts seconds nanos tree) :
    readOptional record.read tree = (record.read tree).map some := by
  cases h <;> rfl

end Duration

theorem Watch.isOpen : record.IsOpen := ⟨rfl, by decide⟩

theorem Watch.puts_poll :
    record.Puts (.required "poll_interval" Duration.record.read) 2 fun w poll => { w with poll } :=
  ⟨isOpen, _, _, .there (.there .here), fun _ => rfl, fun _ _ => rfl⟩

theorem Watch.keptAt {frame : Tree → Tree} (hframe : Frame "poll_interval" 2 frame) :
    Duration.KeptAt record.read (fun w poll => { w with poll }) frame :=
  Duration.keptAt_of_read_eq fun hread _ => puts_poll.read_eq hframe hread _

theorem Settings.isOpen : record.IsOpen := ⟨rfl, by decide⟩

structure LengthSetting where
  name : String
  index : Nat
  set : Settings → Duration → Settings

namespace LengthSetting

def poll : LengthSetting := ⟨"monitoring_interval", 0, fun s poll => { s with poll }⟩

def pause : LengthSetting := ⟨"job_id_lookup_delay", 3, fun s pause => { s with pause }⟩

def timeout : LengthSetting :=
  ⟨"transport_timeout", 4, fun s limit => { s with timeout := some limit }⟩

def all : List LengthSetting :=
  [poll, pause, timeout]

theorem keptAt {v : LengthSetting} (hv : v ∈ all) {frame : Tree → Tree}
    (hframe : Frame v.name v.index frame) :
    Duration.KeptAt Settings.record.read v.set frame := by
  refine Duration.keptAt_of_read_eq fun hread hparts => ?_
  have hpoll : Settings.record.Puts (.required "monitoring_interval" Duration.record.read) 0
      poll.set := ⟨Settings.isOpen, _, _, .here, fun _ => rfl, fun _ _ => rfl⟩
  have hpause : Settings.record.Puts (.required "job_id_lookup_delay" Duration.record.read) 3
      pause.set :=
    ⟨Settings.isOpen, _, _, .there (.there (.there .here)), fun _ => rfl, fun _ _ => rfl⟩
  have htimeout : Settings.record.Puts (.optional "transport_timeout" Duration.record.read) 4
      fun s timeout => { s with timeout } :=
    ⟨Settings.isOpen, _, _, .there (.there (.there (.there .here))), fun _ => rfl, fun _ _ => rfl⟩
  simp only [all, List.mem_cons, List.not_mem_nil, or_false] at hv
  rcases hv with rfl | rfl | rfl
  · exact hpoll.read_eq hframe hread _
  · exact hpause.read_eq hframe hread _
  · refine (htimeout.read_eq hframe hread _).trans ?_
    simp only [Field.optional, hparts.readOptional_eq]
    cases Duration.record.read _ <;> rfl

end LengthSetting

end ClusterLaunch
