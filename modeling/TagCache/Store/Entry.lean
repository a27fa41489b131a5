import TagCache.Endpoint
import TagCache.Store.Snapshot

/-!
# Cache entries

An entry holds the snapshot of one query and one argument, and what is needed to request it
again: the request, and the tags of a result, both from the first subscriber. Requests carry an
id, so that an answer can be told from the answer to an earlier request; subscriptions advance a
generation, so that an eviction can be told from one that was called off; and an entry has a
birth number, so that it can be told from an earlier entry under the same key.
-/

namespace TagCache

/-- A cached query. `κ` are the kinds of tags, `ε` the errors of the transport. -/
structure Entry (κ ε : Type) where
  endpoint : String
  request : Request
  /-- The tags of a result, or why it is no result. -/
  provides : Json → Except DecodeError (List (Tag κ))
  snapshot : Snapshot ε
  /-- How often the snapshot has been written. -/
  version : Nat
  /-- The tags of the data, each once. -/
  tags : List (Tag κ)
  subscribers : Nat
  /-- The id of the outstanding request. -/
  inFlight : Option Nat
  /-- The entry was invalidated while its request was outstanding. -/
  refetchAfter : Bool
  /-- Advanced by every subscription and unsubscription. -/
  generation : Nat
  /-- How many entries the store had created before this one. -/
  birth : Nat

namespace Entry

variable {κ ε : Type}

/-- An entry without data and subscribers. -/
def new (endpoint : String) (request : Request)
    (provides : Json → Except DecodeError (List (Tag κ))) (birth : Nat) : Entry κ ε where
  endpoint := endpoint
  request := request
  provides := provides
  snapshot := .initial
  version := 0
  tags := []
  subscribers := 0
  inFlight := none
  refetchAfter := false
  generation := 0
  birth := birth

/-- Writes the snapshot. Every write is a new version, also one that changes nothing. -/
def write (e : Entry κ ε) (snapshot : Snapshot ε) : Entry κ ε :=
  { e with snapshot := snapshot, version := e.version + 1 }

/-- Writes the status. -/
def setStatus (e : Entry κ ε) (status : QueryStatus) : Entry κ ε :=
  e.write { e.snapshot with status := status }

/-- Writes the data. -/
def setData (e : Entry κ ε) (data : Json) : Entry κ ε :=
  e.write { e.snapshot with data := some data }

/-- No trustworthy data, and no request that would bring it. -/
def needsFetch (e : Entry κ ε) : Bool :=
  e.inFlight.isNone && match e.snapshot.status with
    | .uninitialized | .stale | .error => true
    | .loading | .success => false

end Entry

end TagCache
