import TagCache.Client.Config
import TagCache.Client.Response
import TagCache.Json.Text
import TagCache.Request
import TagCache.Text.Base64
import TagCache.Url.Form

/-!
# Calls over HTTP

A client resolves the path of a request against its base url and adds who is calling: user name and
password of the url as basic credentials, and the access token of the client, if it holds one, as
bearer credentials. What is sent is a value, so a call is described without making it; the network
is a function from what is sent to the response that arrives, if one does.
-/

namespace TagCache

/-! ## Credentials -/

namespace Url

/-- User name and password of a url as they are meant. A user name that is no text hides both, and
a password that is no text is none. -/
def credentials? (u : Url) : Option (List Char × Option (List Char)) := do
  let a ← u.authority
  let username ← Utf8.decode? (Percent.decode a.username)
  let password := a.password.bind fun p => Utf8.decode? (Percent.decode p)
  if username.isEmpty && password.isNone then none else some (username, password)

/-- The url without user name and password. -/
def withoutUserinfo (u : Url) : Url :=
  { u with authority := u.authority.map fun a => { a with username := [], password := none } }

end Url

/-- The value of the header for basic credentials. -/
def basicCredentials (username : List Char) (password : Option (List Char)) : String :=
  "Basic " ++ String.ofList
    (Base64.encode (Utf8.encode (username ++ ':' :: password.getD [])))

/-- The value of the header for a token. -/
def bearerCredentials (token : String) : String := "Bearer " ++ token

/-- Whether a character may stand in a header. -/
def isHeaderChar (c : Char) : Bool := c = '\t' || (0x20 ≤ c.toNat && c ≠ '\x7f')

/-! ## Clients -/

/-- A request as it is sent. -/
structure HttpRequest where
  method : Method
  url : Url
  /-- Names in lower case and values, in the order of the names. -/
  headers : List (String × String)
  body : Option String
  deriving DecidableEq, Repr

namespace HttpRequest

/-- The first line of the request. -/
def line (r : HttpRequest) : String := r.method.name ++ " " ++ r.url.target ++ " HTTP/1.1"

/-- The values of a header. -/
def header (r : HttpRequest) (name : String) : List String :=
  (r.headers.filter fun h => h.1 = name).map Prod.snd

end HttpRequest

/-- Who calls an API and where. -/
structure Client where
  baseUrl : Url
  /-- The access token, unless calls are anonymous. -/
  token : Option String
  deriving DecidableEq, Repr

namespace Client

/-- A client without a token. -/
def new (config : ClientConfig) : Client := ⟨config.apiBaseUrl, none⟩

/-- The client with a token in place of the one it has. -/
def setToken (c : Client) (token : String) : Client := { c with token := some token }

/-- The client without its token. -/
def clearToken (c : Client) : Client := { c with token := none }

/-- Where a request leads to. Slashes at the start of a path do not lead out of the base. -/
def url (c : Client) (r : Request) : Except HttpError Url :=
  (c.baseUrl.join (r.path.toList.dropWhile (· = '/'))).mapError fun e => .invalidRequest (.url e)

/-- The headers that say who is calling a url. -/
def authorization (c : Client) (u : Url) : List (String × String) :=
  let basic := u.credentials?.map fun (name, password) => basicCredentials name password
  (basic.toList ++ (c.token.map bearerCredentials).toList).map fun value =>
    ("authorization", value)

/-- The request as it is sent. -/
def build (c : Client) (r : Request) : Except HttpError HttpRequest := do
  let url ← c.url r
  if url.host?.isNone then throw (.invalidRequest (.noHost url))
  if !c.token.all fun token => token.toList.all isHeaderChar then throw (.invalidRequest .header)
  let bare := if url.credentials?.isSome then url.withoutUserinfo else url
  let contentType := if r.body.isSome then [("content-type", "application/json")] else []
  return {
    method := r.method
    url := bare.withPairs r.query
    headers := c.authorization url ++ contentType
    body := r.body.map Json.canonical }

/-- Whether there is a way to send a request. -/
def canSend (r : HttpRequest) : Bool := r.url.scheme.isWeb

/-- The result of a call. The network answers a request or does not. -/
def send (c : Client) (network : HttpRequest → Option Response) (r : Request) :
    Except HttpError Json := do
  let sent ← c.build r
  if !canSend sent then throw .network
  match network sent with
  | none => throw .network
  | some response => response.result

end Client

end TagCache
