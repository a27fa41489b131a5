/-!
# Why a request has no result

Every error names the endpoint. The transport's own error is a parameter, so the cache works over
any transport.
-/

namespace TagCache

/-- Why a query or a mutation has no result. `ε` is the error of the transport. -/
inductive RequestError (ε : Type) where
  /-- The argument cannot be written. -/
  | encode (endpoint : String) (reason : String)
  /-- The request got no answer. -/
  | transport (endpoint : String) (source : ε)
  /-- The answer is no result of the endpoint. -/
  | decode (endpoint : String) (reason : String)
  /-- The query settled without a result. -/
  | noData (endpoint : String)
  deriving DecidableEq, Repr

namespace RequestError

variable {ε : Type}

/-- The endpoint that was called. -/
def endpoint : RequestError ε → String
  | encode e _ => e
  | transport e _ => e
  | decode e _ => e
  | noData e => e

/-- The wording of an error, given the wording of the transport's own. -/
def message (describe : ε → String) : RequestError ε → String
  | encode e reason => "could not encode argument of " ++ e ++ ": " ++ reason
  | transport e source => e ++ " failed: " ++ describe source
  | decode e reason => "could not decode response of " ++ e ++ ": " ++ reason
  | noData e => e ++ " settled without data"

end RequestError

end TagCache
