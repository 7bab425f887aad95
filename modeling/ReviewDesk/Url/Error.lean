/-
Why a text is not a URL.
-/

namespace ReviewDesk

/-- The reasons to refuse a text. -/
inductive Url.Error where
  | relativeWithoutBase
  | emptyHost
  | invalidPort
  | invalidIPv4
  | invalidIPv6
  | invalidDomain
  | invalidDomainCharacter
  deriving DecidableEq, Repr

/-- The wording of every reason. -/
def Url.Error.message : Url.Error → String
  | .relativeWithoutBase => "relative URL without a base"
  | .emptyHost => "empty host"
  | .invalidPort => "invalid port number"
  | .invalidIPv4 => "invalid IPv4 address"
  | .invalidIPv6 => "invalid IPv6 address"
  | .invalidDomain => "invalid international domain name"
  | .invalidDomainCharacter => "invalid domain character"

end ReviewDesk
