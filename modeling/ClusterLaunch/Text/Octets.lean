/-!
UTF-8. A decoder steps from one character to the next; where the octets at hand
are not a character, the step gives none and passes over the longest run that
could have begun one, so a text is read in the same way whether faults are
refused or replaced.
-/

namespace ClusterLaunch.Text.Octets

def continues (b : UInt8) : Bool :=
  0x80 ≤ b && b ≤ 0xbf

/-- How many octets follow a first octet, and the range of the second one. -/
def shape? (b : UInt8) : Option (Nat × UInt8 × UInt8) :=
  if 0xc2 ≤ b && b ≤ 0xdf then some (1, 0x80, 0xbf)
  else if b = 0xe0 then some (2, 0xa0, 0xbf)
  else if b = 0xed then some (2, 0x80, 0x9f)
  else if 0xe1 ≤ b && b ≤ 0xef then some (2, 0x80, 0xbf)
  else if b = 0xf0 then some (3, 0x90, 0xbf)
  else if 0xf1 ≤ b && b ≤ 0xf3 then some (3, 0x80, 0xbf)
  else if b = 0xf4 then some (3, 0x80, 0x8f)
  else none

/-- Takes `count` further octets of a character whose value so far is `value`. -/
def finish (value : Nat) : Nat → List UInt8 → Option Char × List UInt8
  | 0, rest => (some (Char.ofNat value), rest)
  | _ + 1, [] => (none, [])
  | count + 1, b :: rest =>
      if continues b then finish (value * 64 + (b.toNat - 0x80)) count rest
      else (none, b :: rest)

/-- The bits of the character that its first octet holds, when `count` more follow. -/
def leading (b : UInt8) (count : Nat) : Nat :=
  b.toNat % Nat.pow 2 (6 - count)

/-- The character that begins with the octet `b`, and what follows it. -/
def next (b : UInt8) (rest : List UInt8) : Option Char × List UInt8 :=
  if b < 0x80 then (some (Char.ofNat b.toNat), rest)
  else match shape? b, rest with
    | none, _ => (none, rest)
    | some _, [] => (none, [])
    | some (count, low, high), second :: more =>
        if low ≤ second && second ≤ high then
          finish (leading b count * 64 + (second.toNat - 0x80)) (count - 1) more
        else (none, rest)

/-- The characters of a text, with `none` for every run that is not one. -/
def scan : Nat → List UInt8 → List (Option Char)
  | 0, _ => []
  | _, [] => []
  | fuel + 1, b :: rest =>
      let (c, more) := next b rest
      c :: scan fuel more

/-- The text, if every octet belongs to a character. -/
def decode? (octets : List UInt8) : Option String :=
  ((scan octets.length octets).mapM id).map String.ofList

/-- The text, with `U+FFFD` for every run of octets that is not a character. -/
def decodeLossy (octets : List UInt8) : String :=
  String.ofList ((scan octets.length octets).map (·.getD '\ufffd'))

def encode (s : String) : List UInt8 :=
  s.toList.flatMap String.utf8EncodeChar

end ClusterLaunch.Text.Octets
