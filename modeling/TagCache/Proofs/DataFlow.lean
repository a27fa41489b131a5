import TagCache.Proofs.Operations
import TagCache.Proofs.Undo

/-!
# Where data comes from

Of an entry its subscribers care about the data, and the data is touched by few: an answer that is
taken up brings it, a patch and its undoing change it, an eviction takes it away. The lemmas below
say for every operation what it does to the data under every key, and leave out everything else.

The birth of the entry stands beside its data, because under one key one entry may follow another.
-/

namespace TagCache

open Patch

variable {κ ε : Type}

/-- What has to be applied to the data under a key to undo patches, in the order of the list. -/
def undosOf (key : CacheKey) (pairs : List PatchPair) : List Patch :=
  (pairs.filter fun pair => pair.key = key).map fun pair => pair.inverse

theorem undosOf_cons (key : CacheKey) (pair : PatchPair) (pairs : List PatchPair) :
    undosOf key (pair :: pairs) =
      if pair.key = key then pair.inverse :: undosOf key pairs else undosOf key pairs := by
  unfold undosOf
  by_cases h : pair.key = key
  · simp only [List.filter_cons, h, decide_true, if_true, List.map_cons]
  · simp only [List.filter_cons, h, decide_false, if_false, Bool.false_eq_true]

theorem undosOf_append (key : CacheKey) (pairs pairs' : List PatchPair) :
    undosOf key (pairs ++ pairs') = undosOf key pairs ++ undosOf key pairs' := by
  unfold undosOf
  rw [List.filter_append, List.map_append]

theorem mem_undosOf_reverse {key : CacheKey} {pairs : List PatchPair} {p : Patch} :
    p ∈ undosOf key pairs.reverse ↔ p ∈ undosOf key pairs := by
  unfold undosOf
  rw [List.filter_reverse, List.map_reverse, List.mem_reverse]

/-- Patches of other keys leave nothing to undo. -/
theorem undosOf_eq_nil {key : CacheKey} {pairs : List PatchPair}
    (h : ∀ pair ∈ pairs, pair.key ≠ key) : undosOf key pairs = [] := by
  unfold undosOf
  rw [List.filter_eq_nil_iff.mpr fun pair hpair => by simpa using h pair hpair]
  rfl

namespace Store

/-- The birth and the data of the entry under a key. -/
def shown (s : Store κ ε) (key : CacheKey) : Option (Nat × Option Json) :=
  (s.find? key).map fun e => (e.birth, e.snapshot.data)

/-- The data of an entry after patches, each applied if it can be. -/
def patched (ps : List Patch) : Nat × Option Json → Nat × Option Json :=
  fun (birth, data) => (birth, data.map (applyAll ps))

theorem patched_mk (ps : List Patch) (birth : Nat) (data : Option Json) :
    patched ps (birth, data) = (birth, data.map (applyAll ps)) := rfl

theorem patched_nil : patched [] = id := by
  funext ⟨birth, data⟩
  cases data with
  | none => rfl
  | some d => rfl

theorem patched_append (ps qs : List Patch) :
    patched (ps ++ qs) = patched qs ∘ patched ps := by
  funext ⟨birth, data⟩
  cases data with
  | none => rfl
  | some d => simp only [Function.comp_apply, patched_mk, Option.map_some, applyAll_append]

variable {s s' : Store κ ε} {key : CacheKey} {effects : List (Effect κ ε)}

theorem shown_of_find? {e : Entry κ ε} (h : s.find? key = some e) :
    s.shown key = some (e.birth, e.snapshot.data) := by
  unfold shown
  rw [h, Option.map_some]

theorem shown_eq_none : s.shown key = none ↔ s.find? key = none := by
  unfold shown
  rw [Option.map_eq_none_iff]

/-- What two stores hold under a key is shown alike. -/
theorem shown_congr {k : CacheKey} (h : s'.find? k = s.find? k) : s'.shown k = s.shown k := by
  unfold shown
  rw [h]

theorem shown_setEntry (s : Store κ ε) (key k : CacheKey) (e : Entry κ ε) :
    (s.setEntry key e).shown k =
      if k = key then some (e.birth, e.snapshot.data) else s.shown k := by
  unfold shown
  rw [find?_setEntry]
  split
  · rfl
  · rfl

/-- A write that leaves birth and data alone is not seen. -/
theorem shown_setEntry_same {e : Entry κ ε} (he : s.find? key = some e) (e' : Entry κ ε)
    (hbirth : e'.birth = e.birth) (hdata : e'.snapshot.data = e.snapshot.data) (k : CacheKey) :
    (s.setEntry key e').shown k = s.shown k := by
  rw [shown_setEntry]
  split
  · rename_i hk
    rw [hk, shown_of_find? he, hbirth, hdata]
  · rfl

/-! ## Requests and invalidations -/

theorem shown_beginFetch (s : Store κ ε) (key k : CacheKey) :
    (s.beginFetch key).1.shown k = s.shown k := by
  rcases beginFetch_cases s key with ⟨h, _⟩ | ⟨e, he, _, h⟩
  · rw [h]
  · rw [h]
    exact shown_setEntry_same he (e.awaiting s.nextRequest) rfl rfl k

theorem shown_refetch (s : Store κ ε) (key k : CacheKey) :
    (s.refetch key).2.1.shown k = s.shown k := by
  unfold refetch
  split
  · exact shown_beginFetch s key k
  · rfl

theorem Invalidates.shown {keys : List CacheKey} (h : s.Invalidates keys effects s')
    (k : CacheKey) : s'.shown k = s.shown k := by
  by_cases hk : k ∈ keys
  · cases he : s.find? k with
    | none => rw [shown_eq_none.mpr he, shown_eq_none.mpr (h.absent k he)]
    | some e =>
        obtain ⟨id, _, hfind, _⟩ := h.hit k e hk he
        obtain ⟨hbirth, _, hdata⟩ := e.invalidated_frame id
        rw [shown_of_find? he, shown_of_find? hfind, hbirth, hdata]
  · exact shown_congr (h.other k hk)

/-! ## Patches -/

theorem shown_setData {e : Entry κ ε} (he : s.find? key = some e) (data : Json) (k : CacheKey) :
    (s.setData key data).shown k = if k = key then some (e.birth, some data) else s.shown k := by
  unfold setData
  rw [he]
  exact shown_setEntry s key k (e.setData data)

/-- Undoing a patch shows the data before it, whatever else it did to the entry. -/
theorem shown_patch {recipe : Json → Option Patch} {pair : PatchPair}
    (h : s.patch key recipe = some (pair, s')) (k : CacheKey) :
    s.shown k = (s'.shown k).map (patched (undosOf k [pair])) := by
  obtain ⟨e, old, new, he, _, hold, _, happly, rfl, rfl⟩ := patch_eq_some h
  rw [shown_setData he]
  by_cases hk : k = pair.key
  · have hundo : undosOf k [pair] = [pair.inverse] := by
      rw [undosOf_cons, if_pos hk.symm]; rfl
    rw [if_pos hk, hundo, hk, shown_of_find? he, hold, Option.map_some]
    rw [patched_mk, Option.map_some, applyAll_cons, applyOr_undo happly, applyAll_nil]
  · have hundo : undosOf k [pair] = [] := undosOf_eq_nil (by simpa using Ne.symm hk)
    rw [if_neg hk, hundo, patched_nil, Option.map_id_fun, id_eq]

/-- Undoing patches, the last one first, shows the data before them. -/
theorem shown_patchAll (recipe : Json → Option Patch) (keys : List CacheKey) (s : Store κ ε)
    (k : CacheKey) :
    s.shown k = ((patchAll recipe keys s).2.shown k).map
      (patched (undosOf k (patchAll recipe keys s).1.reverse)) := by
  induction keys generalizing s with
  | nil =>
      change s.shown k = (s.shown k).map (patched [])
      rw [patched_nil, Option.map_id_fun, id_eq]
  | cons key keys ih =>
      unfold patchAll
      split
      · exact ih s
      · -- the patch of the first key is undone last
        rename_i pair s' h
        rw [shown_patch h k, ih s', Option.map_map, List.reverse_cons, undosOf_append,
          patched_append]

theorem shown_revert (s : Store κ ε) (pair : PatchPair) (k : CacheKey) :
    (s.revert pair).1.shown k = (s.shown k).map (patched (undosOf k [pair])) := by
  have hother : k ≠ pair.key → undosOf k [pair] = [] := fun hk =>
    undosOf_eq_nil (by simpa using Ne.symm hk)
  have hthis : undosOf pair.key [pair] = [pair.inverse] := by
    rw [undosOf_cons, if_pos rfl]; rfl
  rcases revert_cases s pair with
    ⟨h, hnone⟩ | ⟨e, old, new, inverse, he, hold, happly, h⟩ | ⟨e, old, error, he, hold, happly, h⟩
  · -- there is no data, and nothing to undo in it
    rw [h]
    by_cases hk : k = pair.key
    · subst hk
      cases he : s.find? pair.key with
      | none => rw [shown_eq_none.mpr he]; rfl
      | some e => rw [shown_of_find? he, hnone e he]; rfl
    · rw [hother hk, patched_nil, Option.map_id_fun, id_eq]
  · rw [h, shown_setData he]
    by_cases hk : k = pair.key
    · rw [if_pos hk, hk, hthis, shown_of_find? he, hold, Option.map_some]
      rw [patched_mk, Option.map_some, applyAll_cons, applyOr_of_ok happly, applyAll_nil]
    · rw [if_neg hk, hother hk, patched_nil, Option.map_id_fun, id_eq]
  · -- the places are gone: the data stays as it is
    rw [h, shown_beginFetch]
    by_cases hk : k = pair.key
    · rw [hk, hthis, shown_of_find? he, hold, Option.map_some]
      rw [patched_mk, Option.map_some, applyAll_cons, applyOr_of_error happly, applyAll_nil]
    · rw [hother hk, patched_nil, Option.map_id_fun, id_eq]

theorem shown_revertAll (pairs : List PatchPair) (s : Store κ ε) (k : CacheKey) :
    (revertAll pairs s).1.shown k = (s.shown k).map (patched (undosOf k pairs)) := by
  induction pairs generalizing s with
  | nil =>
      change s.shown k = (s.shown k).map (patched [])
      rw [patched_nil, Option.map_id_fun, id_eq]
  | cons pair pairs ih =>
      have hsplit : undosOf k (pair :: pairs) = undosOf k [pair] ++ undosOf k pairs :=
        undosOf_append k [pair] pairs
      rw [hsplit, patched_append, ← Option.map_map, ← shown_revert]
      exact ih _

/-- The predictions of a mutation can be undone. -/
theorem shown_beginMutation {α ρ : Type} {m : Mutation κ α ρ} {arg : α} {request : Request}
    {pairs : List PatchPair} (h : s.beginMutation m arg = .ok (request, pairs, s'))
    (k : CacheKey) : s.shown k = (s'.shown k).map (patched (undosOf k pairs.reverse)) := by
  rcases beginMutation_cases h with ⟨rfl, rfl⟩ | ⟨p, _, hpatched⟩
  · change s'.shown k = (s'.shown k).map (patched [])
    rw [patched_nil, Option.map_id_fun, id_eq]
  · have hshown := shown_patchAll (p.recipe arg) (CacheKey.sorted (p.targets arg)) s k
    rw [hpatched] at hshown
    exact hshown

section

variable [DecidableEq κ]

/-! ## Answers -/

/-- An answer brings its data, or leaves the data as it was. -/
theorem Answers.shown {e : Entry κ ε} {answer : Except ε Json}
    (h : s.Answers key e answer effects s') (k : CacheKey) :
    s'.shown k = if k = key then some (e.birth, e.dataAfter (outcome e answer)) else s.shown k := by
  by_cases hk : k = key
  · have hfind : s'.find? k = some (e.answered answer s.nextRequest) := by
      rw [h.find, if_pos hk]
    obtain ⟨hbirth, _, hdata⟩ := e.answered_frame answer s.nextRequest
    rw [if_pos hk, shown_of_find? hfind, hbirth, hdata]
  · rw [if_neg hk]
    exact shown_congr (by rw [h.find, if_neg hk])

/-! ## Subscribers -/

theorem shown_evict (s : Store κ ε) (key : CacheKey) (generation : Nat) (k : CacheKey) :
    (s.evict key generation).1.shown k = s.shown k ∨
      (s.evict key generation).1.shown k = none := by
  rcases evict_cases s key generation with h | ⟨e, _, _, _, h⟩
  · rw [h]; exact Or.inl rfl
  · rw [h]
    by_cases hk : k = key
    · exact Or.inr (shown_eq_none.mpr (by rw [find?_without, if_pos hk]))
    · exact Or.inl (shown_congr (by rw [find?_without, if_neg hk]))

theorem shown_unsubscribe (s : Store κ ε) (key : CacheKey) (hasTimer : Bool) (k : CacheKey) :
    (s.unsubscribe key hasTimer).1.shown k = s.shown k ∨
      (s.unsubscribe key hasTimer).1.shown k = none := by
  unfold unsubscribe
  cases he : s.find? key with
  | none => exact Or.inl rfl
  | some e =>
      have hcounts := shown_setEntry_same he { e with
        subscribers := e.subscribers - 1, generation := e.generation + 1 } rfl rfl k
      dsimp only
      split
      · exact Or.inl hcounts
      · split
        · rw [← hcounts]
          exact shown_evict _ key (e.generation + 1) k
        · exact Or.inl hcounts

end

theorem shown_join {e : Entry κ ε} (he : s.find? key = some e) (k : CacheKey) :
    (s.join key e).1.shown k = s.shown k := by
  have hcounts := shown_setEntry_same he { e with
    subscribers := e.subscribers + 1, generation := e.generation + 1 } rfl rfl k
  unfold join
  dsimp only
  split
  · exact (shown_beginFetch _ key k).trans hcounts
  · exact hcounts

/-- A subscriber finds an entry, or a new one that has no data yet. -/
theorem shown_subscribe {α ρ : Type} {q : Query κ α ρ} {arg : α} {view : Subscription ρ}
    (h : s.subscribe q arg = .ok (view, s', effects)) (k : CacheKey) :
    s'.shown k = s.shown k ∨ s.shown k = none ∧ s'.shown k = some (s.created, none) := by
  rcases subscribe_join h with ⟨e, he, hjoin⟩ | ⟨habsent, request, _, hjoin⟩
  · have hshown := shown_join he k
    rw [hjoin] at hshown
    exact Or.inl hshown
  · have hadd : ∀ k, (s.add view.key q.name request (rawTags q arg)).shown k =
        if k = view.key then some (s.created, none) else s.shown k :=
      fun k => shown_setEntry _ view.key k _
    have hshown := shown_join (s := s.add view.key q.name request (rawTags q arg))
      (by rw [find?_add, if_pos rfl]) k
    rw [hjoin, hadd k] at hshown
    by_cases hk : k = view.key
    · rw [if_pos hk] at hshown
      exact Or.inr ⟨by rw [hk, shown_eq_none.mpr habsent], hshown⟩
    · rw [if_neg hk] at hshown
      exact Or.inl hshown

end Store

end TagCache
