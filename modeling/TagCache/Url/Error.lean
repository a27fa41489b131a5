/-!
# Why a text is no url
-/

namespace TagCache

/-- Why a text is no url. -/
inductive UrlError where
  /-- The url needs a host and has none. -/
  | emptyHost
  /-- The host is no domain name. -/
  | invalidDomain
  /-- The host has a character that no host may have. -/
  | invalidHostCharacter
  | invalidIpv4
  | invalidIpv6
  | invalidPort
  /-- The text has no scheme, and there is nothing to resolve it against. -/
  | noBase
  deriving DecidableEq, Repr

/-- The wording of an error. -/
def UrlError.message : UrlError → String
  | emptyHost => "empty host"
  | invalidDomain => "invalid international domain name"
  | invalidHostCharacter => "invalid domain character"
  | invalidIpv4 => "invalid IPv4 address"
  | invalidIpv6 => "invalid IPv6 address"
  | invalidPort => "invalid port number"
  | noBase => "relative URL without a base"

end TagCache
