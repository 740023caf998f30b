import ClusterLaunch.Text.Digits
import ClusterLaunch.Text.Pieces

/-!
Addresses of version four as they are written in a host: up to four numbers with
dots between them, each decimal, octal or hexadecimal, the last of which fills
all the octets that are left. A host whose last part looks like a number is such
an address or nothing.
-/

namespace ClusterLaunch.Url.Ipv4

open Text

/-- The dotted parts of a host. A dot at the end opens no further part. -/
def parts (host : List Char) : List (List Char) :=
  let all := pieces (· == '.') host
  match all.reverse with
  | [] :: rest@(_ :: _) => rest.reverse
  | _ => all

/-- The value of one number, or none if it is not a number. -/
def number? : List Char → Option Nat
  | [] => none
  | '0' :: x :: rest =>
      if x = 'x' || x = 'X' then readOn 16 0 rest else readOn 8 0 (x :: rest)
  | text => readOn 10 0 text

/-- Whether the last part of a host looks like a number. -/
def endsInNumber (host : List Char) : Bool :=
  match (parts host).getLast? with
  | none => false
  | some last => !last.isEmpty && last.all isDigit || (number? last).isSome

/-- The address that the numbers of a host make up when `room` octets are left;
the first number counts most, and the last one fills the octets that remain. -/
def combine (room : Nat) : List Nat → Option Nat
  | [] => none
  | [last] => if last < Nat.pow 256 room then some last else none
  | n :: rest =>
      if n < 256 then (combine (room - 1) rest).map (n * Nat.pow 256 (room - 1) + ·) else none

def parse? (host : List Char) : Option Nat := do
  let numbers ← (parts host).mapM number?
  if 4 < numbers.length then none else combine 4 numbers

/-- An address as four decimal numbers. -/
def write (address : Nat) : List Char :=
  let octet (place : Nat) := numeral 10 (address / Nat.pow 256 place % 256)
  octet 3 ++ '.' :: octet 2 ++ '.' :: octet 1 ++ '.' :: octet 0

end ClusterLaunch.Url.Ipv4
