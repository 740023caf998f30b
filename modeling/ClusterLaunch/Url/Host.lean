import ClusterLaunch.Text.Octets
import ClusterLaunch.Url.Domain
import ClusterLaunch.Url.Fault
import ClusterLaunch.Url.Ipv4
import ClusterLaunch.Url.Ipv6

/-!
Hosts. The schemes of the web name their hosts by a domain or an address; in any
other scheme a host is a text that is kept as it is, apart from the characters
that have to be written by their octets.
-/

namespace ClusterLaunch.Url

open Text

inductive Host
  | domain (name : List Char)
  | ipv4 (address : Nat)
  | ipv6 (groups : List Nat)
  deriving DecidableEq, Repr

namespace Host

def write : Host → List Char
  | .domain name => name
  | .ipv4 address => Ipv4.write address
  | .ipv6 groups => '[' :: Ipv6.write groups ++ [']']

/-- Whether nothing is left of a host when it is written. -/
def isEmpty (host : Host) : Bool :=
  host.write.isEmpty

/-- The octet that two digits after a percent sign write. -/
def escaped? (a b : Char) : Option UInt8 := do
  let high ← hexValue? a
  let low ← hexValue? b
  return UInt8.ofNat (high * 16 + low)

/-- The octets of a text, those written by two digits after a percent sign included. -/
def octets : List Char → List UInt8
  | [] => []
  | '%' :: a :: b :: rest =>
      match escaped? a b with
      | some octet => octet :: octets rest
      | none => String.utf8EncodeChar '%' ++ octets (a :: b :: rest)
  | c :: rest => String.utf8EncodeChar c ++ octets rest

def bracketed (text : List Char) : Except Fault Host :=
  match text.getLast?, Ipv6.parse? text.dropLast with
  | some ']', some groups => .ok (.ipv6 groups)
  | _, _ => .error .invalidIpv6

def ofWeb (text : List Char) : Except Fault Host :=
  match text with
  | '[' :: rest => bracketed rest
  | _ =>
      match Domain.toPlain? (Octets.decodeLossy (octets text)).toList with
      | none => .error .invalidDomain
      | some name =>
          if name.isEmpty then .error .emptyHost
          else if Ipv4.endsInNumber name then
            match Ipv4.parse? name with
            | some address => .ok (.ipv4 address)
            | none => .error .invalidIpv4
          else .ok (.domain name)

/-- The characters that no host may hold, whatever the scheme. -/
def isForbidden (c : Char) : Bool :=
  c ∈ ['\x00', '\t', '\n', '\r', ' ', '#', '/', ':', '<', '>', '?', '@', '[', '\\', ']', '^', '|']

/-- A character as it stands in a host of any scheme. -/
def kept (c : Char) : List Char :=
  if ' ' ≤ c && c ≤ '~' then [c]
  else (String.utf8EncodeChar c).flatMap fun octet =>
    '%' :: (padded 16 2 octet.toNat).map Char.toUpper

/-- The host that a text names in a scheme that is not of the web. -/
def ofOther (text : List Char) : Except Fault Host :=
  match text with
  | '[' :: rest => bracketed rest
  | _ =>
      if text.any isForbidden then .error .forbiddenCharacter
      else .ok (.domain (text.flatMap kept))

end Host

end ClusterLaunch.Url
