import ClusterLaunch.Text.Digits

/-!
Punycode: a label with characters beyond `U+007F` written in letters, digits and
hyphens. The plain characters come first; then, for each other character in the
order of code points, how many insertion points lie before its own, as a number
of variable length whose thresholds adapt to the distances seen so far.
-/

namespace ClusterLaunch.Url.Punycode

/-- The largest code point that is written. -/
def maxCode : Nat := 0x10ffff

/-- The digit of a value below thirty-six. -/
def digit (value : Nat) : Char :=
  if value < 26 then Char.ofNat (97 + value) else Char.ofNat (22 + value)

def value? (c : Char) : Option Nat :=
  if 'a' ≤ c && c ≤ 'z' then some (c.toNat - 97)
  else if 'A' ≤ c && c ≤ 'Z' then some (c.toNat - 65)
  else if '0' ≤ c && c ≤ '9' then some (c.toNat - 22)
  else none

/-- The least value of the digit at place `k` that another digit follows. -/
def threshold (k bias : Nat) : Nat :=
  if k ≤ bias then 1 else if bias + 26 ≤ k then 26 else k - bias

/-- The bias after a distance `delta` to the `count`-th character. -/
def adapt (delta count : Nat) (first : Bool) : Nat :=
  let rec settle : Nat → Nat → Nat → Nat
    | 0, delta, k => k + 36 * delta / (delta + 38)
    | fuel + 1, delta, k =>
        if 455 < delta then settle fuel (delta / 35) (k + 36) else k + 36 * delta / (delta + 38)
  let damped := if first then delta / 700 else delta / 2
  settle 64 (damped + damped / count) 0

/-- The digits of a distance, from place `k` on. -/
def distance : Nat → Nat → Nat → Nat → List Char
  | 0, _, _, _ => []
  | fuel + 1, bias, k, q =>
      let t := threshold k bias
      if q < t then [digit q]
      else digit (t + (q - t) % (36 - t)) :: distance fuel bias (k + 36) ((q - t) / (36 - t))

/-- Writes the characters whose code points are `least` or more; `done` have been
written, `plain` of them as they are. -/
def encodeFrom (label : List Nat) (plain : Nat) : Nat → Nat → Nat → Nat → Nat → List Char
  | 0, _, _, _, _ => []
  | fuel + 1, least, delta, bias, done =>
      match (label.filter (least ≤ ·)).min? with
      | none => []
      | some m =>
          let start := delta + (m - least) * (done + 1)
          let (text, delta, bias, done) := label.foldl (fun (text, delta, bias, done) n =>
            if n < m then (text, delta + 1, bias, done)
            else if n = m then
              (text ++ distance 32 bias 36 delta, 0, adapt delta (done + 1) (done = plain),
                done + 1)
            else (text, delta, bias, done)) (([] : List Char), start, bias, done)
          text ++ encodeFrom label plain fuel (m + 1) (delta + 1) bias done

def encode (label : List Char) : List Char :=
  let plain := label.filter (·.toNat < 128)
  let count := plain.length
  (if plain.isEmpty then [] else plain ++ ['-']) ++
    encodeFrom (label.map Char.toNat) count label.length 128 0 72 count

def readDistance (bias : Nat) : Nat → Nat → Nat → List Char → Option (Nat × List Char)
  | _, _, _, [] => none
  | k, weight, sum, c :: rest => do
      let d ← value? c
      let sum := sum + d * weight
      if UInt32.size ≤ sum then none
      let t := threshold k bias
      if d < t then some (sum, rest)
      else readDistance bias (k + 36) (weight * (36 - t)) sum rest

/-- Reads the characters that are inserted into `label`. -/
def decodeFrom : Nat → List Char → Nat → Nat → Nat → List Char → Option (List Char)
  | _, [], _, _, _, label => some label
  | 0, _ :: _, _, _, _, _ => none
  | fuel + 1, c :: rest, n, i, bias, label => do
      let (sum, more) ← readDistance bias 36 1 i (c :: rest)
      let count := label.length + 1
      let n := n + sum / count
      let place := sum % count
      if maxCode < n || (0xd800 ≤ n && n < 0xe000) then none
      decodeFrom fuel more n (place + 1) (adapt (sum - i) count (i = 0 && n = 128 + sum / count))
        (label.insertIdx place (Char.ofNat n))

/-- The label that a Punycode text writes. -/
def decode? (text : List Char) : Option (List Char) :=
  let (reversed, lead) := (text.reverse.takeWhile (· ≠ '-'), text.reverse.dropWhile (· ≠ '-'))
  match lead with
  | [] | [_] => decodeFrom text.length text 128 0 72 []
  | _ :: plain =>
      if plain.all (·.toNat < 128) then
        decodeFrom text.length reversed.reverse 128 0 72 plain.reverse
      else none

end ClusterLaunch.Url.Punycode
