import TagCache.Json.Parser
import TagCache.Url.Basic

/-!
# Why a call failed
-/

namespace TagCache

/-- Why a request cannot be sent. -/
inductive RequestFault where
  /-- The path leads to no url. -/
  | url (error : UrlError)
  /-- The path leads to a url without a host. -/
  | noHost (target : Url)
  /-- The token has a character that no header may have. -/
  | header
  deriving DecidableEq, Repr

/-- The wording of a fault. -/
def RequestFault.message : RequestFault → String
  | url error => error.message
  | noHost target => "builder error for url (" ++ target.text ++ ")"
  | header => "builder error"

/-- Why a call over HTTP failed. -/
inductive HttpError where
  | invalidRequest (fault : RequestFault)
  /-- No complete answer arrived. -/
  | network
  /-- The token is missing, expired or revoked. -/
  | unauthorized
  /-- The answer is not a success. -/
  | status (code : Nat) (detail : String)
  /-- The answer is no JSON. -/
  | invalidBody (error : Json.ParseError)
  deriving DecidableEq, Repr

/-- The wording of an error. -/
def HttpError.message : HttpError → String
  | invalidRequest fault => "invalid request: " ++ fault.message
  | network => "network error"
  | unauthorized => "not authenticated"
  | status code detail => "server responded with " ++ toString code ++ ": " ++ detail
  | invalidBody error => "invalid response body: " ++ error.message

end TagCache
