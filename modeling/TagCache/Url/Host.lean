import TagCache.Idna.Label
import TagCache.Url.Address
import TagCache.Url.Error

/-!
# Hosts

A host is a domain name or an address. In urls with a special scheme a domain name is lower case
and has none of the characters that mean something elsewhere in a url. Its encoded labels stand for
labels of international names, and a name that ends in a number is an IPv4 address. In other urls
any text without those characters is a host, with controls encoded.
-/

namespace TagCache

/-- Where a url points to. -/
inductive Host where
  | domain (name : List Char)
  | ipv4 (address : UInt32)
  | ipv6 (address : Ipv6)
  deriving DecidableEq, Repr

namespace Host

/-- The text of a host. -/
def chars : Host → List Char
  | domain name => name
  | ipv4 a => Ipv4.chars a
  | ipv6 a => '[' :: a.chars ++ [']']

/-- The text of a host. -/
def text (h : Host) : String := String.ofList h.chars

/-- Whether no domain name may have a character. -/
def isForbiddenInDomain (c : Char) : Bool :=
  c ≤ ' ' || c = '\x7f' || c = '%' || c = '#' || c = '/' || c = ':' || c = '<' || c = '>'
    || c = '?' || c = '@' || c = '[' || c = '\\' || c = ']' || c = '^' || c = '|'

/-- Whether no host may have a character. -/
def isForbidden (c : Char) : Bool :=
  c = '\x00' || c = '\t' || c = '\n' || c = '\r' || c = ' ' || c = '#' || c = '/' || c = ':'
    || c = '<' || c = '>' || c = '?' || c = '@' || c = '[' || c = '\\' || c = ']' || c = '^'
    || c = '|'

/-- The domain name in ASCII that encoded text stands for. -/
def readDomain? (cs : List Char) : Option (List Char) := do
  let name := (← Utf8.decode? (Percent.decode cs)).map Char.toLower
  if name.any (fun c => isForbiddenInDomain c || 0x7f < c.toNat) || !Idna.isName name then none
  else some name

/-- The address in a text that begins with a bracket. -/
def readBracketed (cs : List Char) : Except UrlError Host :=
  if cs.getLast? ≠ some ']' then .error .invalidIpv6 else
  match Ipv6.ofChars? cs.tail.dropLast with
  | some a => .ok (.ipv6 a)
  | none => .error .invalidIpv6

/-- The host that a text of a url with a special scheme stands for. -/
def ofSpecial (cs : List Char) : Except UrlError Host :=
  if cs.head? = some '[' then readBracketed cs else
  match readDomain? cs with
  | none => .error .invalidDomain
  | some name =>
    if !Ipv4.endsInNumber name then .ok (.domain name) else
    match Ipv4.ofChars? name with
    | some a => .ok (.ipv4 a)
    | none => .error .invalidIpv4

/-- The host that a text of a url with another scheme stands for. -/
def ofOther (cs : List Char) : Except UrlError Host :=
  if cs.head? = some '[' then readBracketed cs
  else if cs.any isForbidden then .error .invalidHostCharacter
  else .ok (.domain (Percent.encode Percent.controlSet cs))

end Host

end TagCache
