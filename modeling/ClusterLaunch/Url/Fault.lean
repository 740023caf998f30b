/-!
Why the authority of an address cannot be found.
-/

namespace ClusterLaunch.Url

inductive Fault
  /-- The text names no scheme, and there is nothing it could be relative to. -/
  | relative
  | emptyHost
  | invalidPort
  | invalidIpv4
  | invalidIpv6
  /-- A character that the host of a scheme of no special kind may not hold. -/
  | forbiddenCharacter
  /-- A domain name that has no form in plain characters. -/
  | invalidDomain
  /-- The address is sound, but it names no host. -/
  | noHost
  deriving DecidableEq, Repr

def Fault.message : Fault → String
  | .relative => "relative URL without a base"
  | .emptyHost => "empty host"
  | .invalidPort => "invalid port number"
  | .invalidIpv4 => "invalid IPv4 address"
  | .invalidIpv6 => "invalid IPv6 address"
  | .forbiddenCharacter => "invalid domain character"
  | .invalidDomain => "invalid international domain name"
  | .noHost => "URL has no host"

end ClusterLaunch.Url
