import TagCache.Store.Basic

/-!
# Subscriptions

A subscription is a live view of one cached query. While it lasts the entry is kept and
invalidations request it again at once. It remembers which version of the entry its owner has
seen, for waiting and, separately, for streaming.
-/

namespace TagCache

/-- A live view of a cached query with results in `ρ`. -/
structure Subscription (ρ : Type) where
  key : CacheKey
  endpoint : String
  result : Schema ρ
  /-- The birth of the entry that is viewed. -/
  birth : Nat
  /-- The version that waiting has seen. -/
  seen : Nat
  /-- The version that the stream has given out, if it has begun. -/
  streamed : Option Nat

namespace Store

variable {κ ε : Type}

/-- The tags of a raw result of a query. -/
def rawTags {α ρ : Type} (q : Query κ α ρ) (arg : α) (value : Json) :
    Except DecodeError (List (Tag κ)) :=
  (q.result.decode value).map fun result => q.provides result arg

/-- Subscribes to the result of a query. It is requested if there is no trustworthy data and no
request on its way. -/
def subscribe {α ρ : Type} (s : Store κ ε) (q : Query κ α ρ) (arg : α) :
    Except (RequestError ε) (Subscription ρ × Store κ ε × List (Effect κ ε)) :=
  match q.key arg with
  | .error reason => .error (.encode q.name reason)
  | .ok key =>
    match q.request arg with
    | .error reason => .error (.encode q.name reason)
    | .ok request =>
      let (e, s) := match s.find? key with
        | some e => (e, s)
        | none =>
          (Entry.new q.name request (rawTags q arg) s.created, { s with created := s.created + 1 })
      let e := { e with subscribers := e.subscribers + 1, generation := e.generation + 1 }
      let s := s.setEntry key e
      .ok (⟨key, q.name, q.result, e.birth, e.version, none⟩,
        if e.needsFetch then s.beginFetch key else (s, []))

/-- The entry that a subscription views. -/
def viewed? {ρ : Type} (s : Store κ ε) (v : Subscription ρ) : Option (Entry κ ε) :=
  (s.find? v.key).filter fun e => e.birth = v.birth

/-- The snapshot of the query. -/
def snapshot {ρ : Type} (s : Store κ ε) (v : Subscription ρ) : Snapshot ε :=
  match s.viewed? v with
  | some e => e.snapshot
  | none => .initial

/-- The version of the query. -/
def version {ρ : Type} (s : Store κ ε) (v : Subscription ρ) : Nat :=
  match s.viewed? v with
  | some e => e.version
  | none => v.seen

/-- The state of the query. -/
def state {ρ : Type} (s : Store κ ε) (v : Subscription ρ) : QueryState ρ ε :=
  (s.snapshot v).decode v.endpoint v.result

/-- The state, if its version has not been seen, and the subscription that has seen it. -/
def changed? {ρ : Type} (s : Store κ ε) (v : Subscription ρ) :
    Option (QueryState ρ ε) × Subscription ρ :=
  if s.version v = v.seen then (none, v)
  else (some (s.state v), { v with seen := s.version v })

/-- The state, if the last request has been answered. Its version is seen in any case. -/
def settled? {ρ : Type} (s : Store κ ε) (v : Subscription ρ) :
    Option (QueryState ρ ε) × Subscription ρ :=
  (if (s.snapshot v).status.isSettled then some (s.state v) else none,
    { v with seen := s.version v })

/-- The next state of the stream: the present one first, then every version not given out. -/
def next? {ρ : Type} (s : Store κ ε) (v : Subscription ρ) :
    Option (QueryState ρ ε) × Subscription ρ :=
  if v.streamed = some (s.version v) then (none, v)
  else (some (s.state v), { v with streamed := some (s.version v) })

/-- The result of a query that has settled. -/
def queryResult {ρ : Type} (endpoint : String) (state : QueryState ρ ε) :
    Except (RequestError ε) ρ :=
  match state.result with
  | .error e => .error e
  | .ok none => .error (.noData endpoint)
  | .ok (some data) => .ok data

end Store

end TagCache
