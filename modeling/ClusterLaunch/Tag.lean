import ClusterLaunch.Text.Digits

/-!
Random tags: thirty-two bits, shown as eight hexadecimal digits. Two tags are
shown alike only if they are equal.
-/

namespace ClusterLaunch

structure Tag where
  bits : UInt32
  deriving DecidableEq, Repr

def Tag.digits (tag : Tag) : List Char :=
  Text.padded 16 8 tag.bits.toNat

theorem Tag.digits_length (tag : Tag) : tag.digits.length = 8 :=
  Text.padded_length 16 8 _

end ClusterLaunch
