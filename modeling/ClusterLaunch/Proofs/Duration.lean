import ClusterLaunch.Duration
import Mathlib.Tactic.Ring

/-!
Lengths of time as numbers. A length of time is its number of nanoseconds, and none of them is
lost when seconds, milliseconds or seconds and nanoseconds are made into one.
-/

namespace ClusterLaunch.Duration

variable {d : Duration}

def total (d : Duration) : Nat :=
  d.seconds.toNat * 1000000000 + d.nanos.val

theorem total_injective {a b : Duration} (h : a.total = b.total) : a = b := by
  unfold total at h
  have hseconds : a.seconds.toNat = b.seconds.toNat := by omega
  have hnanos : a.nanos.val = b.nanos.val := by omega
  cases a
  cases b
  rw [Duration.mk.injEq]
  exact ⟨UInt64.toNat_inj.mp hseconds, Fin.ext hnanos⟩

theorem eq_of_seconds {a b : Duration} (h : a.seconds.toNat = b.seconds.toNat) (ha : a.nanos = 0)
    (hb : b.nanos = 0) : a = b :=
  total_injective (by rw [total, total, h, ha, hb])

/-! Milliseconds. -/

def IsMillis (d : Duration) : Prop :=
  d.nanos.val % 1000000 = 0

theorem IsMillis.total_eq (h : d.IsMillis) : d.total = d.millis * 1000000 := by
  have hnanos : d.nanos.val / 1000000 * 1000000 = d.nanos.val :=
    Nat.div_mul_cancel (Nat.dvd_of_mod_eq_zero h)
  rw [total, millis, Nat.add_mul, hnanos, Nat.mul_assoc]

theorem IsMillis.eq_of_millis_eq {a b : Duration} (ha : a.IsMillis) (hb : b.IsMillis)
    (h : a.millis = b.millis) : a = b :=
  total_injective (by rw [ha.total_eq, hb.total_eq, h])

theorem val_nanos_ofMillis (millis : UInt64) :
    (ofMillis millis).nanos.val = millis.toNat % 1000 * 1000000 := by
  have hnanos : millis.toNat % 1000 * 1000000 < 1000000000 := by omega
  simp only [ofMillis, UInt64.toNat_mod, Fin.val_ofNat, UInt64.reduceToNat,
    Nat.mod_eq_of_lt hnanos]

theorem millis_ofMillis (millis : UInt64) : (ofMillis millis).millis = millis.toNat := by
  have hseconds : (ofMillis millis).seconds.toNat = millis.toNat / 1000 := UInt64.toNat_div _ _
  rw [Duration.millis, val_nanos_ofMillis, hseconds, Nat.mul_div_cancel _ (by decide),
    Nat.div_add_mod']

theorem isMillis_ofMillis (millis : UInt64) : (ofMillis millis).IsMillis := by
  rw [IsMillis, val_nanos_ofMillis, Nat.mul_mod_left]

/-! Seconds and nanoseconds. -/

/-- Nanoseconds beyond a second are carried, and the sum is a length of time unless its seconds
go beyond 64 bits. -/
theorem ofParts?_of_lt {seconds nanos : Nat} (h : seconds + nanos / 1000000000 < UInt64.size) :
    ∃ d, ofParts? seconds nanos = some d ∧ d.total = seconds * 1000000000 + nanos := by
  refine ⟨_, if_pos h, ?_⟩
  rw [total, UInt64.toNat_ofNat_of_lt' h, Fin.val_ofNat, Nat.add_mul, Nat.add_assoc,
    Nat.div_add_mod']

theorem ofParts?_of_le {seconds nanos : Nat} (h : UInt64.size ≤ seconds + nanos / 1000000000) :
    ofParts? seconds nanos = none :=
  if_neg (Nat.not_lt_of_le h)

end ClusterLaunch.Duration
