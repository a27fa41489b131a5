import TagCache.Url.Host
import TagCache.Url.Path

/-!
# Urls

A url has a scheme, perhaps an authority that says where it points to and as whom, a path, and
perhaps a query and a fragment. All parts are in encoded form. The special schemes have rules of
their own: those of networks always have a host, and all of them have a path of segments.
-/

namespace TagCache

/-! ## Schemes -/

/-- The first part of a url. -/
inductive Scheme where
  | http
  | https
  | ws
  | wss
  | ftp
  | file
  | other (name : List Char)
  deriving DecidableEq, Repr

namespace Scheme

/-- The text of a scheme, in lower case. -/
def chars : Scheme → List Char
  | http => ['h', 't', 't', 'p']
  | https => ['h', 't', 't', 'p', 's']
  | ws => ['w', 's']
  | wss => ['w', 's', 's']
  | ftp => ['f', 't', 'p']
  | file => ['f', 'i', 'l', 'e']
  | other name => name

/-- The text of a scheme. -/
def text (s : Scheme) : String := String.ofList s.chars

/-- The schemes with rules of their own. -/
def special : List Scheme := [http, https, ws, wss, ftp, file]

/-- The scheme with a text. -/
def ofChars (cs : List Char) : Scheme := (special.find? fun s => s.chars = cs).getD (.other cs)

/-- Whether a scheme has rules of its own. -/
def isSpecial : Scheme → Bool
  | other _ => false
  | _ => true

/-- Whether the urls of a scheme always have a host. -/
def isNetwork : Scheme → Bool
  | file | other _ => false
  | _ => true

/-- Whether a scheme is one of the web. -/
def isWeb (s : Scheme) : Bool := s = http || s = https

/-- The port that is not written. -/
def defaultPort? : Scheme → Option Nat
  | http | ws => some 80
  | https | wss => some 443
  | ftp => some 21
  | file | other _ => none

/-- Whether a character separates segments. -/
def isSlash (s : Scheme) (c : Char) : Bool := c = '/' || (s.isSpecial && c = '\\')

/-- The characters encoded in a query. -/
def querySet (s : Scheme) : Char → Bool :=
  if s.isSpecial then Percent.specialQuerySet else Percent.querySet

end Scheme

/-! ## Authorities -/

/-- Where a url points to and as whom. -/
structure Authority where
  username : List Char
  password : Option (List Char)
  host : Option Host
  /-- The port, unless it is that of the scheme. -/
  port : Option Nat
  deriving DecidableEq, Repr

namespace Authority

/-- Whether a user name or a password is given. -/
def hasUserinfo (a : Authority) : Bool := !a.username.isEmpty || a.password.isSome

/-- User name, password and the sign behind them. -/
def userinfoChars (a : Authority) : List Char :=
  let password := match a.password with
    | some p => ':' :: p
    | none => []
  if a.hasUserinfo then a.username ++ password ++ ['@'] else []

/-- The text of an authority. -/
def chars (a : Authority) : List Char :=
  let host := match a.host with
    | some h => h.chars
    | none => []
  let port := match a.port with
    | some n => ':' :: Nat.toDigits 10 n
    | none => []
  a.userinfoChars ++ host ++ port

end Authority

/-! ## Urls -/

/-- A url. -/
structure Url where
  scheme : Scheme
  authority : Option Authority
  path : Path
  query : Option (List Char)
  fragment : Option (List Char)
  deriving DecidableEq, Repr

namespace Url

/-- The host of a url. -/
def host? (u : Url) : Option Host := u.authority.bind (·.host)

/-- The port of a url, unless it is that of its scheme. -/
def port? (u : Url) : Option Nat := u.authority.bind (·.port)

/-- Scheme and authority. Where there is no authority but the path could be taken for one, a dot
segment keeps them apart. -/
def originChars (u : Url) : List Char :=
  u.scheme.chars ++ ':' :: match u.authority, u.path with
    | some a, _ => '/' :: '/' :: a.chars
    | none, .rooted ([] :: _ :: _) => ['/', '.']
    | none, _ => []

/-- The query behind its mark. -/
def queryChars (u : Url) : List Char :=
  match u.query with
  | some q => '?' :: q
  | none => []

/-- The fragment behind its mark. -/
def fragmentChars (u : Url) : List Char :=
  match u.fragment with
  | some f => '#' :: f
  | none => []

/-- The text of a url. -/
def chars (u : Url) : List Char :=
  u.originChars ++ u.path.chars ++ u.queryChars ++ u.fragmentChars

/-- The text of a url. -/
def text (u : Url) : String := String.ofList u.chars

/-- The text of the path of a url. -/
def pathText (u : Url) : String := String.ofList u.path.chars

/-- Path and query, as they are sent to the host. -/
def target (u : Url) : String := String.ofList (u.path.chars ++ u.queryChars)

end Url

end TagCache
