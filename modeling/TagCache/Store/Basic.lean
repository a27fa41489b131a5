import TagCache.Store.Effect
import TagCache.Store.Entry
import TagCache.Table

/-!
# The store

A store caches results of queries under their keys and keeps, for every tag, the keys of the
entries that provide it. Subscribing to an entry that has no trustworthy data requests it;
invalidating a tag marks every entry that provides it as stale, and requests those again that have
subscribers. An entry has one outstanding request at most: an invalidation that meets one is
remembered and requests the entry once more after it has been answered.

Every operation is a function of the store. It returns the new store together with the effects
it has outside.
-/

namespace TagCache

/-- Parameters of a store. -/
structure StoreConfig where
  /-- For how many milliseconds an entry without subscribers is kept. -/
  keepUnused : Nat := 60000
  /-- How many events may be unread before the oldest are lost. -/
  eventCapacity : Nat := 256
  deriving DecidableEq, Repr

/-- A cache of query results. -/
structure Store (κ ε : Type) where
  config : StoreConfig
  entries : Table CacheKey (Entry κ ε)
  /-- The keys of the entries that provide a tag, each once; no tag has none. -/
  index : Table (Tag κ) (List CacheKey)
  /-- The id of the next request. -/
  nextRequest : Nat
  /-- How many entries have been created. -/
  created : Nat

/-- A patch of one entry and the patch that undoes it. -/
structure PatchPair where
  key : CacheKey
  forward : Patch
  inverse : Patch
  deriving DecidableEq

namespace Store

variable {κ ε : Type}

/-- The store without entries. -/
def new (config : StoreConfig) : Store κ ε := ⟨config, .empty, .empty, 0, 0⟩

/-- The store with an entry replaced. -/
def setEntry (s : Store κ ε) (key : CacheKey) (e : Entry κ ε) : Store κ ε :=
  { s with entries := s.entries.insert key e }

/-! ## Reading -/

/-- The entry under a key. -/
def find? (s : Store κ ε) (key : CacheKey) : Option (Entry κ ε) := s.entries.get? key

/-- The state of an entry. -/
def get? (s : Store κ ε) (key : CacheKey) : Option (Snapshot ε) :=
  (s.find? key).map (·.snapshot)

/-- Whether there is an entry under a key. -/
def contains (s : Store κ ε) (key : CacheKey) : Bool := (s.find? key).isSome

/-- The number of subscribers of an entry. -/
def subscriberCount (s : Store κ ε) (key : CacheKey) : Nat :=
  ((s.find? key).map (·.subscribers)).getD 0

/-- The tags that the data of an entry provides. -/
def providedTags (s : Store κ ε) (key : CacheKey) : List (Tag κ) :=
  ((s.find? key).map (·.tags)).getD []

/-! ## Requests -/

/-- Marks an entry as loading and asks for its request, unless one is outstanding. -/
def beginFetch (s : Store κ ε) (key : CacheKey) : Store κ ε × List (Effect κ ε) :=
  match s.find? key with
  | none => (s, [])
  | some e =>
    if e.inFlight.isSome then (s, []) else
      ({ s.setEntry key ({ e with inFlight := some s.nextRequest }.setStatus .loading) with
          nextRequest := s.nextRequest + 1 },
        [.send ⟨key, s.nextRequest, e.request⟩])

/-- Requests an entry, joining an outstanding request; `false` if there is no such entry. -/
def refetch (s : Store κ ε) (key : CacheKey) : Bool × Store κ ε × List (Effect κ ε) :=
  if s.contains key then (true, s.beginFetch key) else (false, s, [])

/-! ## The tag index -/

section Index

variable [DecidableEq κ]

/-- The keys of the entries that provide a tag. -/
def keysOf (s : Store κ ε) (tag : Tag κ) : List CacheKey := (s.index.get? tag).getD []

/-- Removes a key from a tag, and the tag with its last key. -/
def unlink (key : CacheKey) (index : Table (Tag κ) (List CacheKey)) (tag : Tag κ) :
    Table (Tag κ) (List CacheKey) :=
  match index.get? tag with
  | none => index
  | some keys =>
    let rest := keys.filter (· ≠ key)
    if rest.isEmpty then index.erase tag else index.insert tag rest

/-- Adds a key to a tag. -/
def link (key : CacheKey) (index : Table (Tag κ) (List CacheKey)) (tag : Tag κ) :
    Table (Tag κ) (List CacheKey) :=
  let keys := (index.get? tag).getD []
  if key ∈ keys then index else index.insert tag (key :: keys)

/-- Moves a key from the tags it had to the tags it has. -/
def reindex (index : Table (Tag κ) (List CacheKey)) (key : CacheKey)
    (previous next : List (Tag κ)) : Table (Tag κ) (List CacheKey) :=
  (next.filter (· ∉ previous)).foldl (link key)
    ((previous.filter (· ∉ next)).foldl (unlink key) index)

/-! ## Invalidation -/

/-- Invalidates one entry. -/
def invalidateEntry (s : Store κ ε) (key : CacheKey) : Store κ ε × List (Effect κ ε) :=
  match s.find? key with
  | none => (s, [])
  | some e =>
    if e.inFlight.isSome then (s.setEntry key { e with refetchAfter := true }, [])
    else
      let s := s.setEntry key (e.setStatus .stale)
      if 0 < e.subscribers then s.beginFetch key else (s, [])

/-- Invalidates entries one after another. -/
def invalidateEntries : List CacheKey → Store κ ε → Store κ ε × List (Effect κ ε)
  | [], s => (s, [])
  | key :: keys, s =>
    let (s, here) := s.invalidateEntry key
    let (s, later) := invalidateEntries keys s
    (s, here ++ later)

/-- The keys of the entries that provide one of the tags, in ascending order. -/
def hits (s : Store κ ε) (tags : List (Tag κ)) : List CacheKey :=
  CacheKey.sorted (tags.flatMap s.keysOf)

/-- Marks every entry that provides one of the tags as stale. Those with subscribers are
requested again, those with an outstanding request after it. -/
def invalidateTags (s : Store κ ε) (tags : List (Tag κ)) : Store κ ε × List (Effect κ ε) :=
  if tags.isEmpty then (s, []) else
    let keys := s.hits tags
    let (s, fetches) := invalidateEntries keys s
    (s, fetches ++ [.emit (.invalidated tags keys)])

/-! ## Answers -/

/-- The data and tags of an answer, or why there are none. -/
def outcome (e : Entry κ ε) (answer : Except ε Json) :
    Except (RequestError ε) (Json × List (Tag κ)) :=
  match answer with
  | .error source => .error (.transport e.endpoint source)
  | .ok value => match e.provides value with
    | .error cause => .error (.decode e.endpoint cause.message)
    | .ok tags => .ok (value, tags)

/-- The entry after an answer that nobody waits for: the next subscriber requests it again. -/
def discard (e : Entry κ ε) : Entry κ ε :=
  { e with refetchAfter := false }.setStatus
    (if e.snapshot.data.isSome then .stale else .uninitialized)

/-- Takes up an outcome. Data stays beside an error. -/
def settle (s : Store κ ε) (key : CacheKey) (e : Entry κ ε)
    (outcome : Except (RequestError ε) (Json × List (Tag κ))) :
    Store κ ε × StoreEvent κ ε :=
  match outcome with
  | .ok (value, provided) =>
    let tags := provided.eraseDups
    ({ s.setEntry key ({ e with tags := tags }.write ⟨.success, some value, none⟩) with
        index := reindex s.index key e.tags tags }, .fetched key)
  | .error error =>
    (s.setEntry key (e.write { e.snapshot with status := .error, error := some error }),
      .fetchFailed key error)

/-- Requests an entry that was invalidated while its request was outstanding. -/
def followUp (s : Store κ ε) (key : CacheKey) : Store κ ε × List (Effect κ ε) :=
  match s.find? key with
  | none => (s, [])
  | some e =>
    if e.refetchAfter then
      let s := s.setEntry key ({ e with refetchAfter := false }.setStatus .stale)
      if 0 < e.subscribers then s.beginFetch key else (s, [])
    else (s, [])

/-- Takes up the answer to a request. The answer for an entry that is gone, the answer to a
request that the entry is not waiting for, and the answer for an entry without subscribers are
discarded. -/
def completeFetch (s : Store κ ε) (key : CacheKey) (id : Nat) (answer : Except ε Json) :
    Store κ ε × List (Effect κ ε) :=
  match s.find? key with
  | none => (s, [])
  | some e =>
    if e.inFlight ≠ some id then (s, []) else
    let e := { e with inFlight := none }
    if e.subscribers = 0 then (s.setEntry key (discard e), []) else
      let (s, event) := s.settle key e (outcome e answer)
      let (s, fetches) := s.followUp key
      (s, .emit event :: fetches)

end Index

/-! ## Patches -/

/-- The data that a patch of an entry would change: that of an entry with subscribers. -/
def patchable? (s : Store κ ε) (key : CacheKey) : Option Json := do
  let e ← s.find? key
  if e.subscribers = 0 then none else e.snapshot.data

/-- The store with the data of an entry replaced. -/
def setData (s : Store κ ε) (key : CacheKey) (data : Json) : Store κ ε :=
  match s.find? key with
  | none => s
  | some e => s.setEntry key (e.setData data)

/-- Patches the data of an entry. The recipe makes the patch from the data. -/
def patch (s : Store κ ε) (key : CacheKey) (recipe : Json → Option Patch) :
    Option (PatchPair × Store κ ε) := do
  let data ← s.patchable? key
  let forward ← recipe data
  let (data, inverse) ← (forward.apply data).toOption
  return (⟨key, forward, inverse⟩, s.setData key data)

/-- Undoes a patch. If the data no longer has the places of the patch, the entry is requested
again instead. -/
def revert (s : Store κ ε) (pair : PatchPair) : Store κ ε × List (Effect κ ε) :=
  match s.get? pair.key with
  | none | some ⟨_, none, _⟩ => (s, [])
  | some ⟨_, some data, _⟩ =>
    match pair.inverse.apply data with
    | .ok (data, _) => (s.setData pair.key data, [.emit (.rolledBack pair.key)])
    | .error _ => s.beginFetch pair.key

/-- Patches entries one after another. -/
def patchAll (recipe : Json → Option Patch) :
    List CacheKey → Store κ ε → List PatchPair × Store κ ε
  | [], s => ([], s)
  | key :: keys, s =>
    match s.patch key recipe with
    | none => patchAll recipe keys s
    | some (pair, s) =>
      let (pairs, s) := patchAll recipe keys s
      (pair :: pairs, s)

/-- Undoes patches one after another. -/
def revertAll : List PatchPair → Store κ ε → Store κ ε × List (Effect κ ε)
  | [], s => (s, [])
  | pair :: pairs, s =>
    let (s, here) := s.revert pair
    let (s, later) := revertAll pairs s
    (s, here ++ later)

/-! ## Mutations -/

section Mutations

variable {α ρ : Type}

/-- The first half of a mutation: its request, and the patches it predicts. Nothing changes if
there is no request. -/
def beginMutation (s : Store κ ε) (m : Mutation κ α ρ) (arg : α) :
    Except (RequestError ε) (Request × List PatchPair × Store κ ε) :=
  match m.request arg with
  | .error reason => .error (.encode m.name reason)
  | .ok request =>
    let (pairs, s) := match m.prediction with
      | none => ([], s)
      | some p => patchAll (p.recipe arg) (CacheKey.sorted (p.targets arg)) s
    .ok (request, pairs, s)

/-- The result of a mutation from the answer to its request. -/
def mutationResult (m : Mutation κ α ρ) (answer : Except ε Json) : Except (RequestError ε) ρ :=
  match answer with
  | .error source => .error (.transport m.name source)
  | .ok value => (m.result.decode value).mapError fun cause => .decode m.name cause.message

/-- The second half of a mutation: success invalidates its tags, failure undoes its patches, the
last one first. -/
def endMutation [DecidableEq κ] (s : Store κ ε) (m : Mutation κ α ρ) (arg : α)
    (pairs : List PatchPair) (answer : Except ε Json) :
    Except (RequestError ε) ρ × Store κ ε × List (Effect κ ε) :=
  match mutationResult m answer with
  | .ok response => (.ok response, s.invalidateTags (m.invalidates response arg))
  | .error error =>
    let (s, effects) := revertAll pairs.reverse s
    (.error error, s, effects ++ [.emit (.mutationFailed error)])

end Mutations

/-! ## Eviction -/

section Eviction

variable [DecidableEq κ]

/-- Removes an entry, unless it has subscribers or was subscribed to since `generation`. -/
def evict (s : Store κ ε) (key : CacheKey) (generation : Nat) : Store κ ε × List (Effect κ ε) :=
  match s.find? key with
  | none => (s, [])
  | some e =>
    if e.subscribers = 0 && e.generation = generation then
      ({ s with
          entries := s.entries.erase key
          index := reindex s.index key e.tags [] },
        [.emit (.evicted key)])
    else (s, [])

/-- Ends a subscription. With the last one the entry is evicted after the grace period, or at
once if there is none. Without a timer to wait on, the entry stays. -/
def unsubscribe (s : Store κ ε) (key : CacheKey) (hasTimer : Bool) :
    Store κ ε × List (Effect κ ε) :=
  match s.find? key with
  | none => (s, [])
  | some e =>
    let e := { e with subscribers := e.subscribers - 1, generation := e.generation + 1 }
    let s := s.setEntry key e
    if 0 < e.subscribers then (s, [])
    else if s.config.keepUnused = 0 then s.evict key e.generation
    else (s, if hasTimer then [.evictLater key e.generation] else [])

end Eviction

end Store

end TagCache
