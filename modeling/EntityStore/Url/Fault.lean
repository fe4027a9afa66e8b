/-!
# Faults of URLs

Why a text is no absolute URL.
-/

namespace EntityStore

/-- Why a text is no absolute URL. -/
inductive UrlFault where
  | noScheme
  | emptyHost
  | hostCharacter
  | hostName
  | ipv4Address
  | ipv6Address
  | port
deriving DecidableEq, Repr

def UrlFault.message : UrlFault → String
  | .noScheme => "relative URL without a base"
  | .emptyHost => "empty host"
  | .hostCharacter => "invalid domain character"
  | .hostName => "invalid international domain name"
  | .ipv4Address => "invalid IPv4 address"
  | .ipv6Address => "invalid IPv6 address"
  | .port => "invalid port number"

end EntityStore
