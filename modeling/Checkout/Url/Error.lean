/-!
# Failures of reading URLs
-/

namespace Checkout

/-- Why a text is no URL. -/
inductive UrlError where
  | emptyHost
  | internationalName
  | port
  | ipv4Address
  | ipv6Address
  | domainCharacter
  | relative
  deriving DecidableEq, Repr

/-- The wording of the failure. -/
def UrlError.message : UrlError → String
  | .emptyHost => "empty host"
  | .internationalName => "invalid international domain name"
  | .port => "invalid port number"
  | .ipv4Address => "invalid IPv4 address"
  | .ipv6Address => "invalid IPv6 address"
  | .domainCharacter => "invalid domain character"
  | .relative => "relative URL without a base"

end Checkout
