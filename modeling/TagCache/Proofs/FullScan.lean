import Mathlib.Data.List.Nodup
import TagCache.Proofs.Requests
import TagCache.Proofs.TagIndex

/-!
# Invalidation without an index

An invalidation never looks for the entries that it hits. It joins the lists that the index has
under the tags, puts the keys in order, and goes through them one by one. It writes entries while
it does, and starts requests.

The store without an index would look at every entry, and hit those that provide one of the tags,
all at once. `FullScan` says what that leaves behind, entry by entry and in terms of the store
before. The two agree: the index names the entries that a scan would find, and what happens to one
of them does not depend on those before it, but for the id of its request. That depends on how many
requests were started before, so the order of the keys is part of the description, and the order of
the tags is not.
-/

namespace TagCache

open Store

variable {κ ε : Type}

namespace Store

/-- What hitting every entry that provides one of the tags does to a store. -/
structure FullScan (s : Store κ ε) (tags : List (Tag κ)) (keys : List CacheKey)
    (fetches : List Fetch) (s' : Store κ ε) : Prop where
  /-- The keys are those of the entries that provide one of the tags, -/
  hit : ∀ k, k ∈ keys ↔ ∃ e, s.find? k = some e ∧ ∃ t ∈ tags, t ∈ e.tags
  /-- in order, and each once. -/
  ascending : CacheKey.Ascending keys
  /-- Every other entry is left alone. -/
  other : ∀ k, k ∉ keys → s'.find? k = s.find? k ∧ fetches.filter (·.key = k) = []
  /-- An entry that waits remembers that it was hit. -/
  waiting : ∀ k ∈ keys, ∀ e, s.find? k = some e → e.inFlight ≠ none →
    s'.find? k = some { e with refetchAfter := true } ∧ fetches.filter (·.key = k) = []
  /-- One that does not and has subscribers asks for its request, once and with an id that was not
  given out before. -/
  asking : ∀ k ∈ keys, ∀ e, s.find? k = some e → e.inFlight = none → 0 < e.subscribers →
    ∃ id, s.nextRequest ≤ id ∧ id < s'.nextRequest ∧
      s'.find? k = some { e with
        snapshot := { e.snapshot with status := .loading }
        version := e.version + 2
        inFlight := some id } ∧
      fetches.filter (·.key = k) = [⟨k, id, e.request⟩]
  /-- One that nobody subscribes to becomes stale. -/
  resting : ∀ k ∈ keys, ∀ e, s.find? k = some e → e.inFlight = none → e.subscribers = 0 →
    s'.find? k = some { e with
      snapshot := { e.snapshot with status := .stale }
      version := e.version + 1 } ∧
      fetches.filter (·.key = k) = []
  /-- Ids are given out one after another. -/
  ids : fetches.map (·.id) = List.range' s.nextRequest fetches.length
  next : s'.nextRequest = s.nextRequest + fetches.length
  index : s'.index = s.index
  created : s'.created = s.created
  config : s'.config = s.config

variable {s s' : Store κ ε} {keys : List CacheKey} {effects : List (Effect κ ε)}

/-! ## What is sent -/

theorem sends_map_send (fetches : List Fetch) :
    sends (fetches.map (Effect.send : Fetch → Effect κ ε)) = fetches := by
  induction fetches with
  | nil => rfl
  | cons fetch fetches ih => exact congrArg (fetch :: ·) ih

theorem beginFetch_silent (s : Store κ ε) (key : CacheKey) :
    ∃ fetches : List Fetch, (s.beginFetch key).2 = fetches.map .send := by
  rcases beginFetch_cases s key with ⟨h, _⟩ | ⟨e, _, _, h⟩
  · exact ⟨[], by rw [h]; rfl⟩
  · exact ⟨[⟨key, s.nextRequest, e.request⟩], by rw [h]; rfl⟩

/-- Hitting an entry sends at most its request, and tells nobody. -/
theorem invalidateEntry_silent (s : Store κ ε) (key : CacheKey) :
    ∃ fetches : List Fetch, (s.invalidateEntry key).2 = fetches.map .send := by
  unfold invalidateEntry
  split
  · exact ⟨[], rfl⟩
  · split
    · exact ⟨[], rfl⟩
    · dsimp only
      split
      · exact beginFetch_silent _ key
      · exact ⟨[], rfl⟩

theorem invalidateEntries_silent (keys : List CacheKey) (s : Store κ ε) :
    ∃ fetches : List Fetch, (invalidateEntries keys s).2 = fetches.map .send := by
  induction keys generalizing s with
  | nil => exact ⟨[], rfl⟩
  | cons key keys ih =>
      obtain ⟨here, hhere⟩ := invalidateEntry_silent s key
      obtain ⟨later, hlater⟩ := ih (s.invalidateEntry key).1
      refine ⟨here ++ later, ?_⟩
      rw [List.map_append, ← hhere, ← hlater]
      rfl

/-! ## One entry -/

/-- Who did not start to wait has sent nothing. -/
theorem Dispatches.filter_eq_nil (h : s.Dispatches effects s') {k : CacheKey}
    (hsame : s'.flight k = s.flight k) : (sends effects).filter (·.key = k) = [] := by
  refine List.filter_eq_nil_iff.mpr fun f hf hk => ?_
  obtain ⟨birth, hidle, hwaits⟩ := h.sent f hf
  rw [of_decide_eq_true hk, hsame] at hwaits
  rw [of_decide_eq_true hk, hwaits] at hidle
  exact absurd hidle (by simp)

/-- Who waits now has sent one request. -/
theorem Dispatches.filter_eq_singleton (h : s.Dispatches effects s') {f : Fetch}
    (hf : f ∈ sends effects) : (sends effects).filter (·.key = f.key) = [f] := by
  have hnd : ((sends effects).map (·.id)).Nodup := h.ids ▸ List.nodup_range'
  refine List.perm_singleton.mp ((List.perm_ext_iff_of_nodup
    ((List.Nodup.of_map _ hnd).filter _) (List.nodup_singleton f)).mpr fun g => ?_)
  rw [List.mem_filter, decide_eq_true_eq, List.mem_singleton]
  constructor
  · -- the entry waits for the id of either request
    rintro ⟨hg, hkey⟩
    obtain ⟨_, _, hwaits⟩ := h.sent f hf
    obtain ⟨_, _, hwaits'⟩ := h.sent g hg
    rw [hkey, hwaits] at hwaits'
    injection Option.some.inj hwaits' with _ hid
    exact List.inj_on_of_nodup_map hnd hg hf (Option.some.inj hid).symm
  · rintro rfl
    exact ⟨hf, rfl⟩

variable [DecidableEq κ]

/-- Which keys are hit depends on the set of the tags. -/
theorem hits_congr {tags tags' : List (Tag κ)} (h : ∀ t, t ∈ tags' ↔ t ∈ tags) :
    s.hits tags' = s.hits tags := by
  refine CacheKey.sorted_congr fun k => ?_
  simp only [List.mem_flatMap, h]

/-- Going through the keys of the index one by one is a full scan. -/
theorem fullScan_invalidateEntries (h : s.IndexExact) (tags : List (Tag κ)) {fetches : List Fetch}
    (hsilent : (invalidateEntries (s.hits tags) s).2 = fetches.map .send) :
    s.FullScan tags (s.hits tags) fetches (invalidateEntries (s.hits tags) s).1 := by
  have hasc : CacheKey.Ascending (s.hits tags) := CacheKey.ascending_sorted _
  have hi := s.invalidates_invalidateEntries hasc.nodup
  have hd := (proceeds_invalidateEntries (s.hits tags) s).dispatches
  rw [hsilent] at hi hd
  have hnone := @hd.filter_eq_nil
  have hone := @hd.filter_eq_singleton
  have hids := hd.ids
  have hnext := hd.next
  rw [sends_map_send] at hnone hone hids hnext
  constructor
  case hit => exact h.mem_hits tags
  case ascending => exact hasc
  case other =>
    intro k hk
    have hfind := hi.other k hk
    refine ⟨hfind, hnone ?_⟩
    unfold flight
    rw [hfind]
  case waiting =>
    intro k hk e he hf
    obtain ⟨id, _, hfind, _⟩ := hi.hit k e hk he
    rw [Entry.invalidated, if_pos (Option.isSome_iff_ne_none.mpr hf)] at hfind
    refine ⟨hfind, hnone ?_⟩
    rw [flight_of_find? he, flight_of_find? hfind]
  case asking =>
    intro k hk e he hf hsubs
    obtain ⟨id, hid, hfind, hsend⟩ := hi.hit k e hk he
    obtain ⟨hlt, hmem⟩ := hsend hf hsubs
    rw [Entry.invalidated, if_neg (by rw [hf]; simp), if_pos hsubs] at hfind
    obtain ⟨f, hf, heq⟩ := List.mem_map.mp hmem
    obtain rfl := Effect.send.inj heq
    exact ⟨id, hid, hlt, hfind, hone hf⟩
  case resting =>
    intro k hk e he hf hsubs
    obtain ⟨id, _, hfind, _⟩ := hi.hit k e hk he
    rw [Entry.invalidated, if_neg (by rw [hf]; simp), if_neg (by omega)] at hfind
    refine ⟨hfind, hnone ?_⟩
    rw [flight_of_find? he, flight_of_find? hfind]
    rfl
  case ids => exact hids
  case next => exact hnext
  case index => exact hi.index
  case created => exact hi.created
  case config => exact hi.config

end Store

/-! ## The whole invalidation -/

variable [DecidableEq κ] {past : List (Moment κ ε)} {s : Store κ ε}

/-- **The index gives what a full scan would.** In every state of every run, invalidating tags hits
the entries that provide one of them. What is hit remembers it, asks for its request or becomes
stale, and nothing else changes. After the requests have been started, one event tells the keys. The
store that is left depends on the set of the tags only. -/
theorem fullScan_invalidateTags {config : StoreConfig} (h : Run config past s)
    {tags : List (Tag κ)} (htags : tags ≠ []) :
    ∃ keys fetches, (s.invalidateTags tags).2 =
        fetches.map .send ++ [.emit (.invalidated tags keys)] ∧
      s.FullScan tags keys fetches (s.invalidateTags tags).1 ∧
      ∀ tags', (∀ t, t ∈ tags' ↔ t ∈ tags) →
        (s.invalidateTags tags').1 = (s.invalidateTags tags).1 := by
  have hstore : ∀ tags : List (Tag κ), tags ≠ [] → s.invalidateTags tags =
      ((invalidateEntries (s.hits tags) s).1,
        (invalidateEntries (s.hits tags) s).2 ++ [.emit (.invalidated tags (s.hits tags))]) := by
    intro tags hne
    unfold invalidateTags
    rw [if_neg (by rwa [List.isEmpty_iff])]
  obtain ⟨fetches, hsilent⟩ := invalidateEntries_silent (s.hits tags) s
  rw [hstore tags htags, hsilent]
  refine ⟨s.hits tags, fetches, rfl, fullScan_invalidateEntries (indexExact_run h) tags hsilent, ?_⟩
  intro tags' hsame
  have hne : tags' ≠ [] := by
    rintro rfl
    obtain ⟨t, ht⟩ := List.exists_mem_of_ne_nil tags htags
    exact absurd ((hsame t).mpr ht) (by simp)
  rw [hstore tags' hne, hits_congr hsame]

/-- One entry waits, one has subscribers, nobody subscribes to a third, and a fourth provides none
of the tags. The tags come in another order, and one of them twice. -/
theorem fullScan_invalidateTags_mixed :
    let key := fun arg => CacheKey.ofArg "customQuery" (.str arg)
    let s := (play {} [Sample.ask, Sample.answer 0 ["a"],
      .subscribe Simulation.customQuery (.str "b"),
      .complete (key "b") 1 (.ok (Sample.result ["a", "b"])), .refetch (key "b"),
      .subscribe Simulation.customQuery (.str "c"),
      .complete (key "c") 3 (.ok (Sample.result ["b"])), .unsubscribe (key "c") true,
      .subscribe Simulation.customQuery (.str "d"),
      .complete (key "d") 4 (.ok (Sample.result ["d"]))]).2
    let tags := [Sample.tag "b", Sample.tag "a", Sample.tag "b"]
    (∃ keys fetches, (s.invalidateTags tags).2 =
        fetches.map .send ++ [.emit (.invalidated tags keys)] ∧
      s.FullScan tags keys fetches (s.invalidateTags tags).1 ∧
      ∀ tags', (∀ t, t ∈ tags' ↔ t ∈ tags) →
        (s.invalidateTags tags').1 = (s.invalidateTags tags).1) ∧
      s.hits tags = [key "b", key "c", Sample.key] ∧
      (sends (s.invalidateTags tags).2).map (fun f => (f.key, f.id)) = [(Sample.key, 5)] ∧
      [key "b", key "c", Sample.key, key "d"].map (fun k =>
        ((s.invalidateTags tags).1.get? k).map (·.status)) =
          [some .loading, some .stale, some .loading, some .success] := by
  intro key s tags
  refine ⟨fullScan_invalidateTags (run_play _ _) (by decide), ?_, ?_, ?_⟩
  · decide
  · decide
  · decide

end TagCache
