import TagCache.Endpoint
import TagCache.Store.Error

/-!
# What a store asks of its surroundings

Operations of a store are pure. What has to happen outside, they return as a list of effects in
the order in which it happens.
-/

namespace TagCache

/-- What happened inside a store. -/
inductive StoreEvent (κ ε : Type) where
  | fetched (key : CacheKey)
  | fetchFailed (key : CacheKey) (error : RequestError ε)
  | invalidated (tags : List (Tag κ)) (keys : List CacheKey)
  | evicted (key : CacheKey)
  | mutationFailed (error : RequestError ε)
  | rolledBack (key : CacheKey)
  deriving DecidableEq

/-- A request on behalf of an entry. -/
structure Fetch where
  key : CacheKey
  id : Nat
  request : Request
  deriving DecidableEq

/-- What has to happen outside of a store. -/
inductive Effect (κ ε : Type) where
  /-- Tell whoever listens. -/
  | emit (event : StoreEvent κ ε)
  /-- Send a request and complete it with the answer. -/
  | send (fetch : Fetch)
  /-- Evict the entry after the grace period, unless its generation has advanced. -/
  | evictLater (key : CacheKey) (generation : Nat)
  deriving DecidableEq

end TagCache
