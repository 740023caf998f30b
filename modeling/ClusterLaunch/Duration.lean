/-!
Lengths of time: whole seconds of 64 bits and a part of a second in nanoseconds.
The part is always below a second, so equal lengths are equal values.
-/

namespace ClusterLaunch

structure Duration where
  seconds : UInt64
  nanos : Fin 1000000000
  deriving DecidableEq, Repr

namespace Duration

def ofSeconds (seconds : UInt64) : Duration :=
  ⟨seconds, 0⟩

def ofMillis (millis : UInt64) : Duration :=
  ⟨millis / 1000, Fin.ofNat _ ((millis % 1000).toNat * 1000000)⟩

/-- The sum of seconds and nanoseconds, when its seconds fit into 64 bits. -/
def ofParts? (seconds nanos : Nat) : Option Duration :=
  let total := seconds + nanos / 1000000000
  if total < UInt64.size then some ⟨UInt64.ofNat total, Fin.ofNat _ nanos⟩ else none

/-- The whole milliseconds in a length of time. -/
def millis (d : Duration) : Nat :=
  d.seconds.toNat * 1000 + d.nanos.val / 1000000

end Duration

end ClusterLaunch
