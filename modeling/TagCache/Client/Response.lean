import TagCache.Client.Error
import TagCache.Client.Reason
import TagCache.Text.Utf8

/-!
# Reading responses

The result of a call is the JSON value of a successful response, null if it has no body. Other
responses are described by the `detail` of their body, which is a text or a list of faults that
have a message each; without either by the body itself, and without a body by their status.
-/

namespace TagCache

/-- An answer of the server. -/
structure Response where
  status : Nat
  body : List UInt8

namespace Response

/-- Whether a status is that of a response. It has three digits, and a provisional status only
announces a response. -/
def isFinal (status : Nat) : Bool := (200 ≤ status || status = 101) && status < 1000

/-- Whether a response with this status has a body. -/
def hasBody (status : Nat) : Bool := status ∉ [101, 204, 304]

/-- The response that a status and the bytes behind it make. -/
def ofBytes? (status : Nat) (bytes : List UInt8) : Option Response :=
  if isFinal status then some ⟨status, if hasBody status then bytes else []⟩ else none

/-- The response that a status makes if the bytes behind it break off. Only a response without a
body is complete by then. -/
def ofStatus? (status : Nat) : Option Response :=
  if hasBody status then none else ofBytes? status []

/-- Whether the call succeeded. -/
def isSuccess (r : Response) : Bool := 200 ≤ r.status && r.status < 300

/-- The detail that the body gives. -/
def detail? (r : Response) : Option Json := (Json.parse r.body).toOption.bind (·.get? "detail")

/-- The messages in a list of faults. -/
def faultMessages (faults : List Json) : List String :=
  faults.filterMap fun fault => (fault.get? "msg").bind (·.str?)

/-- What describes the response if the body gives no detail. -/
def plainDescription (r : Response) : String :=
  if r.body.isEmpty then (Http.reason? r.status).getD "unknown status"
  else String.ofList (Utf8.decodeLossy r.body)

/-- The description of a response that is not a success. -/
def description (r : Response) : String :=
  match r.detail? with
  | some (.str message) => message
  | some (.arr faults) => "; ".intercalate (faultMessages faults)
  | _ => r.plainDescription

/-- The result of the call. -/
def result (r : Response) : Except HttpError Json :=
  if r.status = 401 then .error .unauthorized
  else if !r.isSuccess then .error (.status r.status r.description)
  else if r.body.isEmpty then .ok .null
  else (Json.parse r.body).mapError .invalidBody

end Response

end TagCache
