import TagCache.Schema.Basic
import TagCache.Store.Error

/-!
# The state of a cached query

A snapshot is what all subscribers of an entry share: a status, the raw data of the last accepted
result, and the last error. A subscriber sees it decoded into the result type of its query.
-/

namespace TagCache

/-- Where a cached query stands. -/
inductive QueryStatus where
  /-- Nothing was ever requested. -/
  | uninitialized
  /-- A request is on its way. -/
  | loading
  /-- The last request gave the data. -/
  | success
  /-- The last request failed. -/
  | error
  /-- The data has to be requested again before it can be trusted. -/
  | stale
  deriving DecidableEq, Repr

/-- Whether the last request has been answered and nothing else is expected. -/
def QueryStatus.isSettled : QueryStatus → Bool
  | success | error => true
  | uninitialized | loading | stale => false

/-- The state of an entry. -/
structure Snapshot (ε : Type) where
  status : QueryStatus
  data : Option Json
  error : Option (RequestError ε)
  deriving DecidableEq

/-- The state of a query as its subscribers see it. -/
structure QueryState (ρ ε : Type) where
  status : QueryStatus
  data : Option ρ
  error : Option (RequestError ε)

variable {ρ ε : Type}

namespace Snapshot

/-- The state before the first request. -/
def initial : Snapshot ε := ⟨.uninitialized, none, none⟩

/-- The state with its data decoded. Data of another shape is an error of its own. -/
def decode (s : Snapshot ε) (endpoint : String) (schema : Schema ρ) : QueryState ρ ε :=
  match s.data.map schema.decode with
  | some (.error e) => ⟨.error, none, some (.decode endpoint e.message)⟩
  | some (.ok data) => ⟨s.status, some data, s.error⟩
  | none => ⟨s.status, none, s.error⟩

end Snapshot

namespace QueryState

/-- The error of a failed state; the data, if there is any, of every other. -/
def result (s : QueryState ρ ε) : Except (RequestError ε) (Option ρ) :=
  match s.status, s.error with
  | .error, some e => .error e
  | _, _ => .ok s.data

/-- The state with its data written as JSON. -/
def encode (s : QueryState ρ ε) (schema : Schema ρ) : QueryState Json ε :=
  ⟨s.status, s.data.map schema.encode, s.error⟩

end QueryState

end TagCache
