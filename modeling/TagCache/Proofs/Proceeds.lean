import TagCache.Proofs.Operations

/-!
# Small writes

Whatever a store does between a subscriber who comes and one who leaves, it does by small writes,
one after another: the data of an entry is written over, an entry that waits is flagged, one that
does not is marked stale, one that does not asks for its request, something is told.
`Store.Proceeds` is any number of them. The lemmas below say which operations proceed, so that what
a small write preserves is preserved by all of these operations.

Taking up an answer is one write more, `Store.taken`, and proceeds from there.
-/

namespace TagCache

variable {κ ε : Type}

/-- The effect is the end of an entry, or will be. -/
def Effect.ends : Effect κ ε → Bool
  | .emit (.evicted _) | .evictLater _ _ => true
  | .emit _ | .send _ => false

/-- The action is not about those who subscribe, and brings no answer. -/
def Action.isPlain : Action κ ε → Bool
  | .subscribe .. | .unsubscribe .. | .evict .. | .complete .. => false
  | .invalidate .. | .refetch .. | .patch .. | .revert .. | .beginMutation .. | .endMutation .. =>
    true

namespace Store

variable {s s' : Store κ ε} {key : CacheKey} {effects : List (Effect κ ε)}

/-- The store goes on without anybody coming or leaving: data is written over, entries are marked,
requests are started. No entry comes or goes. -/
inductive Proceeds : Store κ ε → List (Effect κ ε) → Store κ ε → Prop where
  | refl (s : Store κ ε) : Proceeds s [] s
  /-- Data is written over. -/
  | data {s : Store κ ε} {key : CacheKey} {e : Entry κ ε} (he : s.find? key = some e)
      (data : Json) : Proceeds s [] (s.setEntry key (e.setData data))
  /-- An entry that waits is flagged. -/
  | flag {s : Store κ ε} {key : CacheKey} {e : Entry κ ε} (he : s.find? key = some e)
      (hf : e.inFlight.isSome) : Proceeds s [] (s.setEntry key { e with refetchAfter := true })
  /-- An entry that does not wait becomes stale, and is not flagged any more. -/
  | stale {s : Store κ ε} {key : CacheKey} {e : Entry κ ε} (he : s.find? key = some e)
      (hf : e.inFlight = none) (flag : Bool) :
      Proceeds s [] (s.setEntry key ({ e with refetchAfter := flag }.setStatus .stale))
  /-- An entry that does not wait asks for its request. -/
  | fetch {s : Store κ ε} {key : CacheKey} {e : Entry κ ε} (he : s.find? key = some e)
      (hf : e.inFlight = none) :
      Proceeds s [.send ⟨key, s.nextRequest, e.request⟩]
        { s.setEntry key (e.awaiting s.nextRequest) with nextRequest := s.nextRequest + 1 }
  /-- Something is told. -/
  | emit (s : Store κ ε) {event : StoreEvent κ ε} (h : (Effect.emit event).ends = false) :
      Proceeds s [.emit event] s
  | trans {s s' s'' : Store κ ε} {effects effects' : List (Effect κ ε)}
      (h : Proceeds s effects s') (h' : Proceeds s' effects' s'') :
      Proceeds s (effects ++ effects') s''

namespace Proceeds

theorem quiet (h : s.Proceeds effects s') : ∀ x ∈ effects, x.ends = false := by
  induction h with
  | refl => simp
  | data => simp
  | flag => simp
  | stale => simp
  | fetch => simp [Effect.ends]
  | emit _ hquiet => simpa using hquiet
  | trans _ _ ih ih' =>
      intro x hx
      rcases List.mem_append.mp hx with hx | hx
      · exact ih x hx
      · exact ih' x hx

theorem config (h : s.Proceeds effects s') : s'.config = s.config := by
  induction h with
  | trans _ _ ih ih' => exact ih'.trans ih
  | _ => rfl

end Proceeds

/-! ## Operations that proceed -/

theorem proceeds_beginFetch (s : Store κ ε) (key : CacheKey) :
    s.Proceeds (s.beginFetch key).2 (s.beginFetch key).1 := by
  rcases beginFetch_cases s key with ⟨h, _⟩ | ⟨e, he, hf, h⟩
  · rw [h]; exact .refl s
  · rw [h]; exact .fetch he hf

theorem proceeds_refetch (s : Store κ ε) (key : CacheKey) :
    s.Proceeds (s.refetch key).2.2 (s.refetch key).2.1 := by
  unfold refetch
  split
  · exact proceeds_beginFetch s key
  · exact .refl s

theorem proceeds_setData {e : Entry κ ε} (he : s.find? key = some e) (data : Json) :
    s.Proceeds [] (s.setData key data) := by
  unfold setData
  rw [he]
  exact .data he data

theorem proceeds_patch {recipe : Json → Option Patch} {pair : PatchPair}
    (h : s.patch key recipe = some (pair, s')) : s.Proceeds [] s' := by
  obtain ⟨e, _, new, he, _, _, _, _, _, rfl⟩ := patch_eq_some h
  exact proceeds_setData he new

theorem proceeds_patchAll (recipe : Json → Option Patch) (keys : List CacheKey) (s : Store κ ε) :
    s.Proceeds [] (patchAll recipe keys s).2 := by
  induction keys generalizing s with
  | nil => exact .refl s
  | cons key keys ih =>
      unfold patchAll
      split
      · exact ih s
      · rename_i pair s' h
        exact (proceeds_patch h).trans (ih s')

theorem proceeds_revert (s : Store κ ε) (pair : PatchPair) :
    s.Proceeds (s.revert pair).2 (s.revert pair).1 := by
  rcases revert_cases s pair with ⟨h, _⟩ | ⟨e, _, new, _, he, _, _, h⟩ | ⟨_, _, _, _, _, _, h⟩
  · rw [h]; exact .refl s
  · rw [h]
    exact (proceeds_setData he new).trans (.emit _ rfl)
  · rw [h]; exact proceeds_beginFetch s pair.key

theorem proceeds_revertAll (pairs : List PatchPair) (s : Store κ ε) :
    s.Proceeds (revertAll pairs s).2 (revertAll pairs s).1 := by
  induction pairs generalizing s with
  | nil => exact .refl s
  | cons pair pairs ih =>
      unfold revertAll
      exact (proceeds_revert s pair).trans (ih _)

theorem proceeds_beginMutation {α ρ : Type} {m : Mutation κ α ρ} {arg : α} {request : Request}
    {pairs : List PatchPair} (h : s.beginMutation m arg = .ok (request, pairs, s')) :
    s.Proceeds [] s' := by
  rcases beginMutation_cases h with ⟨_, rfl⟩ | ⟨p, _, hpatched⟩
  · exact .refl _
  · have hp := proceeds_patchAll (p.recipe arg) (CacheKey.sorted (p.targets arg)) s
    rw [hpatched] at hp
    exact hp

/-- An entry becomes stale, and asks for its request at once if somebody subscribes to it. -/
theorem proceeds_renew {e : Entry κ ε} (he : s.find? key = some e) (hf : e.inFlight = none)
    (flag : Bool) :
    let stale := s.setEntry key ({ e with refetchAfter := flag }.setStatus .stale)
    let renewed := if 0 < e.subscribers then stale.beginFetch key else (stale, [])
    s.Proceeds renewed.2 renewed.1 := by
  dsimp only
  split
  · exact (Proceeds.stale he hf flag).trans (proceeds_beginFetch _ key)
  · exact .stale he hf flag

theorem proceeds_invalidateEntry (s : Store κ ε) (key : CacheKey) :
    s.Proceeds (s.invalidateEntry key).2 (s.invalidateEntry key).1 := by
  unfold invalidateEntry
  cases he : s.find? key with
  | none => exact .refl s
  | some e =>
      dsimp only
      split
      · rename_i hf
        exact .flag he hf
      · rename_i hidle
        have hf : e.inFlight = none := by simpa using hidle
        exact proceeds_renew he hf e.refetchAfter

theorem proceeds_invalidateEntries (keys : List CacheKey) (s : Store κ ε) :
    s.Proceeds (invalidateEntries keys s).2 (invalidateEntries keys s).1 := by
  induction keys generalizing s with
  | nil => exact .refl s
  | cons key keys ih =>
      unfold invalidateEntries
      exact (proceeds_invalidateEntry s key).trans (ih _)

theorem proceeds_followUp {e : Entry κ ε} (he : s.find? key = some e) (hf : e.inFlight = none) :
    s.Proceeds (s.followUp key).2 (s.followUp key).1 := by
  unfold followUp
  rw [he]
  dsimp only
  split
  · exact proceeds_renew he hf false
  · exact .refl s

section

variable [DecidableEq κ]

theorem proceeds_invalidateTags (s : Store κ ε) (tags : List (Tag κ)) :
    s.Proceeds (s.invalidateTags tags).2 (s.invalidateTags tags).1 := by
  unfold invalidateTags
  split
  · exact .refl s
  · exact (proceeds_invalidateEntries _ s).trans (.emit _ rfl)

theorem proceeds_endMutation {α ρ : Type} (s : Store κ ε) (m : Mutation κ α ρ) (arg : α)
    (pairs : List PatchPair) (answer : Except ε Json) :
    s.Proceeds (s.endMutation m arg pairs answer).2.2 (s.endMutation m arg pairs answer).2.1 := by
  unfold endMutation
  split
  · exact proceeds_invalidateTags s _
  · exact (proceeds_revertAll _ s).trans (.emit _ rfl)

/-- **What is neither about subscribers nor an answer proceeds.** -/
theorem proceeds_act (s : Store κ ε) {a : Action κ ε} (ha : a.isPlain = true) :
    s.Proceeds (s.act a).2 (s.act a).1 := by
  cases a with
  | invalidate tags => exact proceeds_invalidateTags s tags
  | refetch key => exact proceeds_refetch s key
  | patch key recipe =>
      simp only [act]
      cases hs : s.patch key recipe with
      | none => exact .refl s
      | some r => exact proceeds_patch hs
  | revert pair => exact proceeds_revert s pair
  | beginMutation m arg =>
      simp only [act]
      cases hs : s.beginMutation m arg with
      | error _ => exact .refl s
      | ok r => exact proceeds_beginMutation hs
  | endMutation start m arg pairs answer => exact proceeds_endMutation s m arg pairs answer
  | _ => exact absurd ha (by simp [Action.isPlain])

/-! ## Answers -/

/-- The store with the outcome of the request that an entry has waited for. -/
def taken (s : Store κ ε) (key : CacheKey) (e : Entry κ ε)
    (o : Except (RequestError ε) (Json × List (Tag κ))) : Store κ ε :=
  { s.setEntry key (e.settled o) with index := s.indexAfter key e o }

theorem find?_taken (s : Store κ ε) (key k : CacheKey) (e : Entry κ ε)
    (o : Except (RequestError ε) (Json × List (Tag κ))) :
    (s.taken key e o).find? k = if k = key then some (e.settled o) else s.find? k :=
  find?_setEntry s key k (e.settled o)

/-- An answer that is taken up is told, and followed up. -/
theorem completeFetch_taken {e : Entry κ ε} {id : Nat} (he : s.find? key = some e)
    (hf : e.inFlight = some id) (hsubs : 0 < e.subscribers) (answer : Except ε Json) :
    ∃ event : StoreEvent κ ε, (Effect.emit event).ends = false ∧
      s.completeFetch key id answer = (((s.taken key e (outcome e answer)).followUp key).1,
        .emit event :: ((s.taken key e (outcome e answer)).followUp key).2) := by
  unfold completeFetch
  rw [he]
  dsimp only
  -- it is the answer that is waited for, and somebody is there to see it
  rw [if_neg (not_not_intro hf), if_neg (Nat.ne_of_gt hsubs)]
  refine ⟨(s.settle key { e with inFlight := none } (outcome e answer)).2, ?_, ?_⟩
  · cases outcome e answer with
    | ok r => rfl
    | error error => rfl
  · have hsettle := settle_eq s key e (outcome e answer)
    unfold taken
    rw [← hsettle]
    rfl

theorem proceeds_taken (s : Store κ ε) (key : CacheKey) (e : Entry κ ε)
    (o : Except (RequestError ε) (Json × List (Tag κ))) :
    (s.taken key e o).Proceeds ((s.taken key e o).followUp key).2
      ((s.taken key e o).followUp key).1 :=
  proceeds_followUp (by rw [find?_taken, if_pos rfl]) (settled_frame e o).2.2.1

end

end Store

end TagCache
