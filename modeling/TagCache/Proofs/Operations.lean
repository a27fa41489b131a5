import TagCache.Proofs.KeyOrder
import TagCache.Proofs.Run

/-!
# What the operations do to one entry

Most operations leave most of an entry alone. Subscribing, patching, undoing a patch, asking for
an entry again: none of them answers a request or meets a tag. Whatever they do together is one
relation, `Entry.Drifts`: the data may change, and a request may be started where none was on its
way. Two operations do more, and each gets its own description of the entry it leaves behind:
`Entry.invalidated` for one that an invalidation hits, `Entry.answered` for one that takes up an
answer.

The lemmas below give every operation its place. Later modules do not unfold operations.
-/

namespace TagCache

variable {κ ε : Type}

theorem ok_of_toOption {ε α : Type} {x : Except ε α} {a : α} (h : x.toOption = some a) :
    x = .ok a := by
  cases x with
  | error _ => exact absurd h (by simp [Except.toOption])
  | ok _ => exact congrArg Except.ok (Option.some.inj h)

/-! ## Fields -/

namespace Store

@[simp] theorem find?_setEntry (s : Store κ ε) (key k : CacheKey) (e : Entry κ ε) :
    (s.setEntry key e).find? k = if k = key then some e else s.find? k := by
  unfold find? setEntry
  exact Table.get?_insert s.entries key k e

theorem setEntry_setEntry (s : Store κ ε) (key : CacheKey) (e e' : Entry κ ε) :
    (s.setEntry key e).setEntry key e' = s.setEntry key e' := by
  have insert_insert : ∀ bs : List (CacheKey × Entry κ ε),
      Table.insertBinding key e' (Table.insertBinding key e bs) =
        Table.insertBinding key e' bs := by
    intro bs
    induction bs with
    | nil => simp [Table.insertBinding]
    | cons b bs ih =>
        by_cases hb : key = b.1
        · simp [Table.insertBinding, hb]
        · simp [Table.insertBinding, hb, ih]
  unfold setEntry Table.insert
  rw [insert_insert]

@[simp] theorem index_setEntry (s : Store κ ε) (key : CacheKey) (e : Entry κ ε) :
    (s.setEntry key e).index = s.index := rfl

@[simp] theorem nextRequest_setEntry (s : Store κ ε) (key : CacheKey) (e : Entry κ ε) :
    (s.setEntry key e).nextRequest = s.nextRequest := rfl

@[simp] theorem created_setEntry (s : Store κ ε) (key : CacheKey) (e : Entry κ ε) :
    (s.setEntry key e).created = s.created := rfl

@[simp] theorem find?_new (config : StoreConfig) (k : CacheKey) :
    (new config : Store κ ε).find? k = none := rfl

end Store

namespace Entry

/-- The entry with a request on its way. -/
def awaiting (e : Entry κ ε) (id : Nat) : Entry κ ε :=
  { e with inFlight := some id }.setStatus .loading

/-- The entry after an invalidation has hit it. If it asks for its request, it does so with `id`. -/
def invalidated (e : Entry κ ε) (id : Nat) : Entry κ ε :=
  if e.inFlight.isSome then { e with refetchAfter := true }
  else if 0 < e.subscribers then (e.setStatus .stale).awaiting id
  else e.setStatus .stale

/-- The entry with the outcome of its request. -/
def settled [DecidableEq κ] (e : Entry κ ε) :
    Except (RequestError ε) (Json × List (Tag κ)) → Entry κ ε
  | .ok (value, provided) =>
    { e with inFlight := none, tags := provided.eraseDups }.write ⟨.success, some value, none⟩
  | .error error =>
    { e with inFlight := none }.write { e.snapshot with status := .error, error := some error }

/-- The entry after it has taken up an answer. If it was hit meanwhile, it asks for its request
once more, with `id`. -/
def answered [DecidableEq κ] (e : Entry κ ε) (answer : Except ε Json) (id : Nat) : Entry κ ε :=
  if e.refetchAfter then
    ({ e.settled (Store.outcome e answer) with refetchAfter := false }.setStatus .stale).awaiting id
  else e.settled (Store.outcome e answer)

/-- A hit leaves what the entry holds. -/
theorem invalidated_frame (e : Entry κ ε) (id : Nat) : (e.invalidated id).birth = e.birth ∧
    (e.invalidated id).tags = e.tags ∧ (e.invalidated id).snapshot.data = e.snapshot.data := by
  unfold invalidated
  split
  · exact ⟨rfl, rfl, rfl⟩
  · split
    · exact ⟨rfl, rfl, rfl⟩
    · exact ⟨rfl, rfl, rfl⟩

/-- The data after an outcome: a result is the data, and an error leaves it. -/
def dataAfter (e : Entry κ ε) : Except (RequestError ε) (Json × List (Tag κ)) → Option Json
  | .ok (value, _) => some value
  | .error _ => e.snapshot.data

section

variable [DecidableEq κ]

theorem birth_settled (e : Entry κ ε) (o : Except (RequestError ε) (Json × List (Tag κ))) :
    (e.settled o).birth = e.birth := by
  cases o with
  | ok _ => rfl
  | error _ => rfl

theorem data_settled (e : Entry κ ε) (o : Except (RequestError ε) (Json × List (Tag κ))) :
    (e.settled o).snapshot.data = e.dataAfter o := by
  cases o with
  | ok _ => rfl
  | error _ => rfl

/-- The request that follows up an answer leaves what the answer has brought. -/
theorem answered_frame (e : Entry κ ε) (answer : Except ε Json) (id : Nat) :
    (e.answered answer id).birth = e.birth ∧
      (e.answered answer id).tags = (e.settled (Store.outcome e answer)).tags ∧
      (e.answered answer id).snapshot.data = e.dataAfter (Store.outcome e answer) := by
  unfold answered
  split
  · exact ⟨e.birth_settled _, rfl, e.data_settled _⟩
  · exact ⟨e.birth_settled _, rfl, e.data_settled _⟩

end

/-! ## Drifting -/

/-- What an entry goes through when it is neither hit nor answered. Its data and its subscribers
may change; a request may be started, with an id from `lo` up to `hi`, if none was on its way. -/
structure Drifts (key : CacheKey) (effects : List (Effect κ ε)) (lo hi : Nat)
    (e e' : Entry κ ε) : Prop where
  endpoint : e'.endpoint = e.endpoint
  request : e'.request = e.request
  provides : e'.provides = e.provides
  tags : e'.tags = e.tags
  birth : e'.birth = e.birth
  /-- Whether it was hit while it waits. -/
  flag : e'.refetchAfter = e.refetchAfter
  error : e'.snapshot.error = e.snapshot.error
  /-- Data is changed, never brought or taken away. -/
  data : e'.snapshot.data.isSome = e.snapshot.data.isSome
  flight : (e'.inFlight = e.inFlight ∧ e'.snapshot.status = e.snapshot.status) ∨
    (e.inFlight = none ∧ e'.snapshot.status = .loading ∧
      ∃ id, lo ≤ id ∧ id < hi ∧ e'.inFlight = some id ∧
        Effect.send ⟨key, id, e.request⟩ ∈ effects)

variable {key : CacheKey} {effects effects' : List (Effect κ ε)} {lo mid hi : Nat}
variable {e e' e'' : Entry κ ε}

theorem Drifts.refl (e : Entry κ ε) : e.Drifts key effects lo hi e :=
  ⟨rfl, rfl, rfl, rfl, rfl, rfl, rfl, rfl, Or.inl ⟨rfl, rfl⟩⟩

theorem Drifts.mono (h : e.Drifts key effects lo hi e') (hsub : ∀ x ∈ effects, x ∈ effects') :
    e.Drifts key effects' lo hi e' := by
  refine { h with flight := ?_ }
  rcases h.flight with hkept | ⟨hidle, hload, id, h1, h2, h3, h4⟩
  · exact Or.inl hkept
  · exact Or.inr ⟨hidle, hload, id, h1, h2, h3, hsub _ h4⟩

/-- Subscribers come and go. -/
theorem drifts_counts (e : Entry κ ε) (subscribers generation : Nat) :
    e.Drifts key effects lo hi { e with subscribers := subscribers, generation := generation } :=
  ⟨rfl, rfl, rfl, rfl, rfl, rfl, rfl, rfl, Or.inl ⟨rfl, rfl⟩⟩

/-- One drift after another is a drift: only one of the two can start a request. -/
theorem Drifts.trans (h : e.Drifts key effects lo mid e') (h' : e'.Drifts key effects' mid hi e'')
    (hlo : lo ≤ mid) (hhi : mid ≤ hi) : e.Drifts key (effects ++ effects') lo hi e'' where
  endpoint := h'.endpoint.trans h.endpoint
  request := h'.request.trans h.request
  provides := h'.provides.trans h.provides
  tags := h'.tags.trans h.tags
  birth := h'.birth.trans h.birth
  flag := h'.flag.trans h.flag
  error := h'.error.trans h.error
  data := h'.data.trans h.data
  flight := by
    rcases h.flight with ⟨hf, hs⟩ | ⟨hidle, hload, id, h1, h2, h3, h4⟩ <;>
      rcases h'.flight with ⟨hf', hs'⟩ | ⟨hidle', hload', id', h1', h2', h3', h4'⟩
    · exact Or.inl ⟨hf'.trans hf, hs'.trans hs⟩
    · refine Or.inr ⟨hf ▸ hidle', hload', id', by omega, h2', h3', ?_⟩
      rw [← h.request]
      exact List.mem_append_right _ h4'
    · exact Or.inr ⟨hidle, hs'.trans hload, id, h1, by omega, hf'.trans h3,
        List.mem_append_left _ h4⟩
    · -- the first request is on its way, so there is no second
      rw [h3] at hidle'
      exact absurd hidle' (by simp)

end Entry

namespace Store

/-- No entry comes or goes between the two stores, and none is hit or answered. -/
structure Drifts (s : Store κ ε) (effects : List (Effect κ ε)) (s' : Store κ ε) : Prop where
  index : s'.index = s.index
  created : s'.created = s.created
  config : s'.config = s.config
  next : s.nextRequest ≤ s'.nextRequest
  absent : ∀ k, s.find? k = none → s'.find? k = none
  present : ∀ k e, s.find? k = some e →
    ∃ e', s'.find? k = some e' ∧ e.Drifts k effects s.nextRequest s'.nextRequest e'

variable {s s' s'' : Store κ ε} {effects effects' : List (Effect κ ε)} {key : CacheKey}

theorem Drifts.refl (s : Store κ ε) : s.Drifts [] s where
  index := rfl
  created := rfl
  config := rfl
  next := Nat.le_refl _
  absent := fun _ h => h
  present := fun _ e h => ⟨e, h, .refl e⟩

theorem Drifts.trans (h : s.Drifts effects s') (h' : s'.Drifts effects' s'') :
    s.Drifts (effects ++ effects') s'' where
  index := h'.index.trans h.index
  created := h'.created.trans h.created
  config := h'.config.trans h.config
  next := Nat.le_trans h.next h'.next
  absent := fun k hk => h'.absent k (h.absent k hk)
  present := by
    intro k e hk
    obtain ⟨e', he', hd⟩ := h.present k e hk
    obtain ⟨e'', he'', hd'⟩ := h'.present k e' he'
    exact ⟨e'', he'', hd.trans hd' h.next h'.next⟩

theorem Drifts.mono (h : s.Drifts effects s') (hsub : ∀ x ∈ effects, x ∈ effects') :
    s.Drifts effects' s' := by
  refine { h with present := ?_ }
  intro k e hk
  obtain ⟨e', he', hd⟩ := h.present k e hk
  exact ⟨e', he', hd.mono hsub⟩

/-- Writing an entry that has drifted. -/
theorem drifts_setEntry {e e' : Entry κ ε} (he : s.find? key = some e)
    (hd : e.Drifts key [] s.nextRequest s.nextRequest e') : s.Drifts [] (s.setEntry key e') where
  index := rfl
  created := rfl
  config := rfl
  next := Nat.le_refl _
  absent := by
    intro k hk
    rw [find?_setEntry]
    split
    · rename_i heq
      rw [heq, he] at hk
      exact absurd hk (by simp)
    · exact hk
  present := by
    intro k x hk
    rw [find?_setEntry]
    split
    · rename_i heq
      rw [heq, he] at hk
      obtain rfl := Option.some.inj hk
      exact ⟨e', rfl, heq ▸ hd⟩
    · exact ⟨x, hk, .refl x⟩

/-! ## Requests -/

/-- An entry asks for its request, or there is nothing to ask for. -/
theorem beginFetch_cases (s : Store κ ε) (key : CacheKey) :
    (s.beginFetch key = (s, []) ∧ ∀ e, s.find? key = some e → e.inFlight.isSome) ∨
    ∃ e, s.find? key = some e ∧ e.inFlight = none ∧
      s.beginFetch key = ({ s.setEntry key (e.awaiting s.nextRequest) with
        nextRequest := s.nextRequest + 1 }, [.send ⟨key, s.nextRequest, e.request⟩]) := by
  unfold beginFetch
  cases he : s.find? key with
  | none => exact Or.inl ⟨rfl, fun e h => absurd h (by simp)⟩
  | some e =>
      dsimp only
      cases hf : e.inFlight with
      | none => exact Or.inr ⟨e, rfl, hf, rfl⟩
      | some id =>
          refine Or.inl ⟨rfl, fun e' h => ?_⟩
          obtain rfl := Option.some.inj h
          rw [hf]; rfl

theorem beginFetch_of_idle {e : Entry κ ε} (he : s.find? key = some e) (hf : e.inFlight = none) :
    s.beginFetch key = ({ s.setEntry key (e.awaiting s.nextRequest) with
      nextRequest := s.nextRequest + 1 }, [.send ⟨key, s.nextRequest, e.request⟩]) := by
  rcases beginFetch_cases s key with ⟨_, h⟩ | ⟨e', he', _, h⟩
  · have := h e he
    rw [hf] at this
    exact Bool.noConfusion this
  · rw [he] at he'
    obtain rfl := Option.some.inj he'
    exact h

theorem drifts_beginFetch (s : Store κ ε) (key : CacheKey) :
    s.Drifts (s.beginFetch key).2 (s.beginFetch key).1 := by
  rcases beginFetch_cases s key with ⟨h, _⟩ | ⟨e, he, hf, h⟩
  · rw [h]; exact .refl s
  · rw [h]
    refine ⟨rfl, rfl, rfl, Nat.le_succ _, fun k hk => ?_, fun k x hk => ?_⟩
    · change (s.setEntry key _).find? k = none
      rw [find?_setEntry]
      split
      · rename_i heq
        rw [heq, he] at hk
        exact absurd hk (by simp)
      · exact hk
    · change ∃ e', (s.setEntry key _).find? k = some e' ∧ _
      rw [find?_setEntry]
      split
      · rename_i heq
        subst heq
        rw [he] at hk
        obtain rfl := Option.some.inj hk
        refine ⟨_, rfl, rfl, rfl, rfl, rfl, rfl, rfl, rfl, rfl, Or.inr ⟨hf, rfl, ?_⟩⟩
        exact ⟨s.nextRequest, Nat.le_refl _, Nat.lt_succ_self _, rfl, List.mem_singleton.mpr rfl⟩
      · exact ⟨x, hk, .refl x⟩

theorem drifts_refetch (s : Store κ ε) (key : CacheKey) :
    s.Drifts (s.refetch key).2.2 (s.refetch key).2.1 := by
  unfold refetch
  split
  · exact drifts_beginFetch s key
  · exact .refl s

/-! ## Patches -/

theorem drifts_setData {e : Entry κ ε} (he : s.find? key = some e)
    (hdata : e.snapshot.data.isSome) (data : Json) : s.Drifts [] (s.setData key data) := by
  unfold setData
  rw [he]
  exact drifts_setEntry he ⟨rfl, rfl, rfl, rfl, rfl, rfl, rfl, hdata.symm, Or.inl ⟨rfl, rfl⟩⟩

/-- What a patch has done, if it has done something. -/
theorem patch_eq_some {recipe : Json → Option Patch} {pair : PatchPair}
    (h : s.patch key recipe = some (pair, s')) :
    ∃ e old new, s.find? key = some e ∧ e.subscribers ≠ 0 ∧ e.snapshot.data = some old ∧
      recipe old = some pair.forward ∧ pair.forward.apply old = .ok (new, pair.inverse) ∧
      pair.key = key ∧ s' = s.setData key new := by
  unfold patch patchable? at h
  obtain ⟨old, hold, h⟩ := Option.bind_eq_some_iff.mp h
  obtain ⟨forward, hrecipe, h⟩ := Option.bind_eq_some_iff.mp h
  obtain ⟨⟨new, inverse⟩, happly, h⟩ := Option.bind_eq_some_iff.mp h
  obtain ⟨e, he, hold⟩ := Option.bind_eq_some_iff.mp hold
  simp only [Option.pure_def, Option.some.injEq, Prod.mk.injEq] at h
  obtain ⟨rfl, rfl⟩ := h
  split at hold
  · exact absurd hold (by simp)
  · rename_i hsubs
    exact ⟨e, old, new, he, hsubs, hold, hrecipe, ok_of_toOption happly, rfl, rfl⟩

theorem drifts_patch {recipe : Json → Option Patch} {pair : PatchPair}
    (h : s.patch key recipe = some (pair, s')) : s.Drifts [] s' := by
  obtain ⟨e, old, new, he, _, hold, _, _, _, rfl⟩ := patch_eq_some h
  exact drifts_setData he (by rw [hold]; rfl) new

theorem drifts_patchAll (recipe : Json → Option Patch) (keys : List CacheKey) (s : Store κ ε) :
    s.Drifts [] (patchAll recipe keys s).2 := by
  induction keys generalizing s with
  | nil => exact .refl s
  | cons key keys ih =>
      unfold patchAll
      split
      · exact ih s
      · rename_i pair s' h
        exact (drifts_patch h).trans (ih s')

/-- Undoing a patch writes the old values, starts a request, or does nothing. -/
theorem revert_cases (s : Store κ ε) (pair : PatchPair) :
    (s.revert pair = (s, []) ∧ ∀ e, s.find? pair.key = some e → e.snapshot.data = none) ∨
    (∃ e old new inverse, s.find? pair.key = some e ∧ e.snapshot.data = some old ∧
      pair.inverse.apply old = .ok (new, inverse) ∧
      s.revert pair = (s.setData pair.key new, [.emit (.rolledBack pair.key)])) ∨
    ∃ e old error, s.find? pair.key = some e ∧ e.snapshot.data = some old ∧
      pair.inverse.apply old = .error error ∧ s.revert pair = s.beginFetch pair.key := by
  unfold revert get?
  cases he : s.find? pair.key with
  | none => exact Or.inl ⟨rfl, fun e h => absurd h (by simp)⟩
  | some e =>
      rcases hsnap : e.snapshot with ⟨status, data, err⟩
      have hdata : e.snapshot.data = data := by rw [hsnap]
      simp only [Option.map_some, hsnap]
      cases data with
      | none =>
          refine Or.inl ⟨rfl, fun e' h => ?_⟩
          obtain rfl := Option.some.inj h
          exact hdata
      | some old =>
          dsimp only
          cases hq : pair.inverse.apply old with
          | error error => exact Or.inr (Or.inr ⟨e, old, error, rfl, hdata, hq, rfl⟩)
          | ok r =>
              obtain ⟨new, inverse⟩ := r
              exact Or.inr (Or.inl ⟨e, old, new, inverse, rfl, hdata, hq, rfl⟩)

theorem drifts_revert (s : Store κ ε) (pair : PatchPair) :
    s.Drifts (s.revert pair).2 (s.revert pair).1 := by
  rcases revert_cases s pair with ⟨h, _⟩ | ⟨e, old, new, _, he, hold, _, h⟩ | ⟨_, _, _, _, _, _, h⟩
  · rw [h]; exact .refl s
  · rw [h]
    exact (drifts_setData he (by rw [hold]; rfl) new).mono (by simp)
  · rw [h]; exact drifts_beginFetch s pair.key

theorem drifts_revertAll (pairs : List PatchPair) (s : Store κ ε) :
    s.Drifts (revertAll pairs s).2 (revertAll pairs s).1 := by
  induction pairs generalizing s with
  | nil => exact .refl s
  | cons pair pairs ih =>
      unfold revertAll
      exact (drifts_revert s pair).trans (ih _)

/-- A mutation that begins predicts nothing, or patches its targets. -/
theorem beginMutation_cases {α ρ : Type} {m : Mutation κ α ρ} {arg : α} {request : Request}
    {pairs : List PatchPair} (h : s.beginMutation m arg = .ok (request, pairs, s')) :
    (pairs = [] ∧ s' = s) ∨
    ∃ p, m.prediction = some p ∧
      patchAll (p.recipe arg) (CacheKey.sorted (p.targets arg)) s = (pairs, s') := by
  unfold beginMutation at h
  cases hreq : m.request arg with
  | error reason => rw [hreq] at h; exact absurd h (by simp)
  | ok r =>
      rw [hreq] at h
      dsimp only at h
      cases hp : m.prediction with
      | none =>
          rw [hp] at h
          simp only [Except.ok.injEq, Prod.mk.injEq] at h
          exact Or.inl ⟨h.2.1.symm, h.2.2.symm⟩
      | some p =>
          rw [hp] at h
          simp only [Except.ok.injEq, Prod.mk.injEq] at h
          exact Or.inr ⟨p, rfl, Prod.ext h.2.1 h.2.2⟩

theorem drifts_beginMutation {α ρ : Type} {m : Mutation κ α ρ} {arg : α} {request : Request}
    {pairs : List PatchPair} (h : s.beginMutation m arg = .ok (request, pairs, s')) :
    s.Drifts [] s' := by
  rcases beginMutation_cases h with ⟨_, rfl⟩ | ⟨p, _, hpatched⟩
  · exact .refl _
  · have hd := drifts_patchAll (p.recipe arg) (CacheKey.sorted (p.targets arg)) s
    rw [hpatched] at hd
    exact hd

/-! ## Invalidation -/

/-- What is under a key after an entry has been invalidated. -/
theorem find?_invalidateEntry (s : Store κ ε) (key k : CacheKey) :
    (s.invalidateEntry key).1.find? k =
      if k = key then (s.find? key).map (·.invalidated s.nextRequest) else s.find? k := by
  unfold invalidateEntry
  cases he : s.find? key with
  | none =>
      dsimp only
      split
      · rename_i heq
        rw [heq, he]; rfl
      · rfl
  | some e =>
      dsimp only
      simp only [Option.map_some]
      unfold Entry.invalidated
      split
      · exact find?_setEntry s key k _
      · rename_i hidle
        split
        · -- the entry is idle and observed: it is written stale, then asks for its request
          have hstale : (s.setEntry key (e.setStatus .stale)).find? key
              = some (e.setStatus .stale) := by
            rw [find?_setEntry, if_pos rfl]
          have hflight : e.inFlight = none := by
            simpa using hidle
          rw [beginFetch_of_idle hstale (e := e.setStatus .stale) hflight]
          change ((s.setEntry key _).setEntry key _).find? k = _
          rw [find?_setEntry, find?_setEntry]
          split
          · rfl
          · rfl
        · exact find?_setEntry s key k _

theorem invalidateEntry_frame (s : Store κ ε) (key : CacheKey) :
    (s.invalidateEntry key).1.index = s.index ∧ (s.invalidateEntry key).1.created = s.created ∧
      (s.invalidateEntry key).1.config = s.config ∧
      s.nextRequest ≤ (s.invalidateEntry key).1.nextRequest := by
  unfold invalidateEntry
  split
  · exact ⟨rfl, rfl, rfl, Nat.le_refl _⟩
  · split
    · exact ⟨rfl, rfl, rfl, Nat.le_refl _⟩
    · dsimp only
      split
      · rename_i e _ _ _
        have h := drifts_beginFetch (s.setEntry key (e.setStatus .stale)) key
        exact ⟨h.index, h.created, h.config, h.next⟩
      · exact ⟨rfl, rfl, rfl, Nat.le_refl _⟩

/-- An idle entry with subscribers asks for its request. -/
theorem invalidateEntry_sends {e : Entry κ ε} (he : s.find? key = some e) (hf : e.inFlight = none)
    (hsubs : 0 < e.subscribers) :
    (s.invalidateEntry key).1.nextRequest = s.nextRequest + 1 ∧
      (s.invalidateEntry key).2 = [.send ⟨key, s.nextRequest, e.request⟩] := by
  have hstale : (s.setEntry key (e.setStatus .stale)).find? key = some (e.setStatus .stale) := by
    rw [find?_setEntry, if_pos rfl]
  have hidle : (e.setStatus .stale).inFlight = none := hf
  unfold invalidateEntry
  rw [he]
  dsimp only
  rw [if_neg (by rw [hf]; simp), if_pos hsubs, beginFetch_of_idle hstale hidle]
  exact ⟨rfl, rfl⟩

/-- Between the two stores the entries of `keys` have been hit, and nothing else has happened. -/
structure Invalidates (s : Store κ ε) (keys : List CacheKey) (effects : List (Effect κ ε))
    (s' : Store κ ε) : Prop where
  index : s'.index = s.index
  created : s'.created = s.created
  config : s'.config = s.config
  next : s.nextRequest ≤ s'.nextRequest
  absent : ∀ k, s.find? k = none → s'.find? k = none
  other : ∀ k, k ∉ keys → s'.find? k = s.find? k
  hit : ∀ k e, k ∈ keys → s.find? k = some e →
    ∃ id, s.nextRequest ≤ id ∧ s'.find? k = some (e.invalidated id) ∧
      (e.inFlight = none → 0 < e.subscribers →
        id < s'.nextRequest ∧ Effect.send ⟨k, id, e.request⟩ ∈ effects)

theorem invalidates_invalidateEntries (s : Store κ ε) {keys : List CacheKey} (hnd : keys.Nodup) :
    s.Invalidates keys (invalidateEntries keys s).2 (invalidateEntries keys s).1 := by
  induction keys generalizing s with
  | nil =>
      exact ⟨rfl, rfl, rfl, Nat.le_refl _, fun _ h => h, fun _ _ => rfl,
        fun _ _ h => absurd h (by simp)⟩
  | cons key keys ih =>
      obtain ⟨hkey, hnd⟩ := List.nodup_cons.mp hnd
      unfold invalidateEntries
      dsimp only
      have hrest := ih (s.invalidateEntry key).1 hnd
      obtain ⟨hindex, hcreated, hconfig, hnext⟩ := invalidateEntry_frame s key
      refine ⟨hrest.index.trans hindex, hrest.created.trans hcreated, hrest.config.trans hconfig,
        Nat.le_trans hnext hrest.next, ?_, ?_, ?_⟩
      · intro k hk
        refine hrest.absent k ?_
        rw [find?_invalidateEntry]
        split
        · rename_i heq
          rw [← heq, hk]; rfl
        · exact hk
      · intro k hk
        rw [List.mem_cons, not_or] at hk
        rw [hrest.other k hk.2, find?_invalidateEntry, if_neg hk.1]
      · intro k e hk he
        rcases List.mem_cons.mp hk with heq | hk
        · -- the entry in front: the rest of the keys passes it by
          subst heq
          refine ⟨s.nextRequest, Nat.le_refl _, ?_, ?_⟩
          · rw [hrest.other k hkey, find?_invalidateEntry, if_pos rfl, he]; rfl
          · intro hf hsubs
            obtain ⟨hn, hfx⟩ := invalidateEntry_sends he hf hsubs
            have := hrest.next
            rw [hn] at this
            refine ⟨by omega, List.mem_append_left _ ?_⟩
            rw [hfx]; exact List.mem_singleton.mpr rfl
        · have hne : k ≠ key := fun heq => hkey (heq ▸ hk)
          have he' : (s.invalidateEntry key).1.find? k = some e := by
            rw [find?_invalidateEntry, if_neg hne]; exact he
          obtain ⟨id, hid, hfind, hsend⟩ := hrest.hit k e hk he'
          refine ⟨id, Nat.le_trans hnext hid, hfind, fun hf hsubs => ?_⟩
          obtain ⟨hlt, hmem⟩ := hsend hf hsubs
          exact ⟨hlt, List.mem_append_right _ hmem⟩

section Tags

variable [DecidableEq κ]

/-- No tags, no invalidation: then `hits` has no keys either. -/
theorem invalidates_invalidateTags (s : Store κ ε) (tags : List (Tag κ)) :
    s.Invalidates (s.hits tags) (s.invalidateTags tags).2 (s.invalidateTags tags).1 := by
  have h := s.invalidates_invalidateEntries
    (CacheKey.ascending_sorted (tags.flatMap s.keysOf)).nodup
  unfold invalidateTags
  split
  · rename_i hnil
    rw [List.isEmpty_iff] at hnil
    rw [hnil]
    exact ⟨rfl, rfl, rfl, Nat.le_refl _, fun _ h => h, fun _ _ => rfl,
      fun _ _ h => absurd h (by simp [hits, CacheKey.sorted])⟩
  · dsimp only
    refine { h with hit := ?_ }
    intro k e hk he
    obtain ⟨id, hid, hfind, hsend⟩ := h.hit k e hk he
    refine ⟨id, hid, hfind, fun hf hsubs => ?_⟩
    exact ⟨(hsend hf hsubs).1, List.mem_append_left _ (hsend hf hsubs).2⟩

/-! ## Answers -/

/-- The index after an outcome: a result moves the key from the tags it had to those it has. -/
def indexAfter (s : Store κ ε) (key : CacheKey) (e : Entry κ ε) :
    Except (RequestError ε) (Json × List (Tag κ)) → Table (Tag κ) (List CacheKey)
  | .ok (_, provided) => reindex s.index key e.tags provided.eraseDups
  | .error _ => s.index

/-- An answer that is taken up. -/
structure Answers (s : Store κ ε) (key : CacheKey) (e : Entry κ ε) (answer : Except ε Json)
    (effects : List (Effect κ ε)) (s' : Store κ ε) : Prop where
  index : s'.index = s.indexAfter key e (outcome e answer)
  created : s'.created = s.created
  config : s'.config = s.config
  next : s'.nextRequest = if e.refetchAfter then s.nextRequest + 1 else s.nextRequest
  find : ∀ k, s'.find? k = if k = key then some (e.answered answer s.nextRequest) else s.find? k
  sends : e.refetchAfter = true → Effect.send ⟨key, s.nextRequest, e.request⟩ ∈ effects

/-- The store between an outcome and the request that may follow it up. -/
theorem settle_eq (s : Store κ ε) (key : CacheKey) (e : Entry κ ε)
    (o : Except (RequestError ε) (Json × List (Tag κ))) :
    (s.settle key { e with inFlight := none } o).1 =
      { s.setEntry key (e.settled o) with index := s.indexAfter key e o } := by
  cases o with
  | error _ => rfl
  | ok r => rfl

/-- An outcome leaves the flag, the subscribers and the request of the entry. -/
theorem settled_frame (e : Entry κ ε) (o : Except (RequestError ε) (Json × List (Tag κ))) :
    (e.settled o).refetchAfter = e.refetchAfter ∧ (e.settled o).subscribers = e.subscribers ∧
      (e.settled o).inFlight = none ∧ (e.settled o).request = e.request := by
  cases o with
  | error _ => exact ⟨rfl, rfl, rfl, rfl⟩
  | ok r => exact ⟨rfl, rfl, rfl, rfl⟩

/-- The request that follows up an answer. -/
theorem answers_followUp {e : Entry κ ε} (hsubs : 0 < e.subscribers) (answer : Except ε Json)
    (event : StoreEvent κ ε) {s₁ : Store κ ε}
    (hs₁ : s₁ = { s.setEntry key (e.settled (outcome e answer)) with
      index := s.indexAfter key e (outcome e answer) }) :
    s.Answers key e answer (.emit event :: (s₁.followUp key).2) (s₁.followUp key).1 := by
  obtain ⟨hflag, hsubs', hflight, hrequest⟩ := settled_frame e (outcome e answer)
  have hfind : ∀ k, s₁.find? k
      = if k = key then some (e.settled (outcome e answer)) else s.find? k := by
    intro k
    rw [hs₁]
    exact find?_setEntry s key k _
  unfold followUp
  rw [hfind key, if_pos rfl]
  dsimp only
  rw [hflag]
  cases hr : e.refetchAfter with
  | false =>
      -- nothing to follow up
      rw [if_neg (by simp)]
      refine ⟨by rw [hs₁], by rw [hs₁]; rfl, by rw [hs₁]; rfl, by rw [hs₁, hr]; rfl, ?_, ?_⟩
      · intro k
        rw [hfind k, Entry.answered, hr]
        rfl
      · intro h; exact absurd h (by rw [hr]; simp)
  | true =>
      -- it was hit while it waited: it is written stale, and asks again at once
      have hpos : 0 < (e.settled (outcome e answer)).subscribers := by rw [hsubs']; exact hsubs
      rw [if_pos rfl, if_pos hpos]
      have hstale : ∀ x, (s₁.setEntry key x).find? key = some x := by
        intro x; rw [find?_setEntry, if_pos rfl]
      rw [beginFetch_of_idle (hstale _) (e := ({ e.settled (outcome e answer) with
        refetchAfter := false } : Entry κ ε).setStatus .stale) hflight]
      refine ⟨by rw [hs₁]; rfl, by rw [hs₁]; rfl, by rw [hs₁]; rfl, by rw [hs₁, hr]; rfl, ?_, ?_⟩
      · intro k
        change ((s₁.setEntry key _).setEntry key _).find? k = _
        rw [find?_setEntry, find?_setEntry, hfind k, Entry.answered, hr, if_pos rfl]
        split
        · rw [hs₁]; rfl
        · rfl
      · intro _
        refine List.mem_cons_of_mem _ (List.mem_singleton.mpr ?_)
        rw [hs₁, ← hrequest]; rfl

/-- An answer for nobody, an answer that is thrown away, or an answer that is taken up. -/
theorem completeFetch_cases (s : Store κ ε) (key : CacheKey) (id : Nat) (answer : Except ε Json) :
    (s.completeFetch key id answer = (s, []) ∧
      ∀ e, s.find? key = some e → e.inFlight ≠ some id) ∨
    (∃ e, s.find? key = some e ∧ e.inFlight = some id ∧ e.subscribers = 0 ∧
      s.completeFetch key id answer = (s.setEntry key (discard { e with inFlight := none }), [])) ∨
    ∃ e, s.find? key = some e ∧ e.inFlight = some id ∧ 0 < e.subscribers ∧
      s.Answers key e answer (s.completeFetch key id answer).2
        (s.completeFetch key id answer).1 := by
  unfold completeFetch
  cases he : s.find? key with
  | none => exact Or.inl ⟨rfl, fun e h => absurd h (by simp)⟩
  | some e =>
      dsimp only
      by_cases hf : e.inFlight = some id
      · rw [if_neg (not_not_intro hf)]
        by_cases hsubs : e.subscribers = 0
        · rw [if_pos hsubs]
          exact Or.inr (Or.inl ⟨e, rfl, hf, hsubs, rfl⟩)
        · rw [if_neg hsubs]
          refine Or.inr (Or.inr ⟨e, rfl, hf, Nat.pos_of_ne_zero hsubs, ?_⟩)
          exact answers_followUp (Nat.pos_of_ne_zero hsubs) answer _ (settle_eq s key e _)
      · rw [if_pos hf]
        refine Or.inl ⟨rfl, fun e' h => ?_⟩
        obtain rfl := Option.some.inj h
        exact hf

/-! ## Eviction -/

/-- The store without an entry. -/
def without (s : Store κ ε) (key : CacheKey) (e : Entry κ ε) : Store κ ε :=
  { s with entries := s.entries.erase key, index := reindex s.index key e.tags [] }

@[simp] theorem find?_without (s : Store κ ε) (key k : CacheKey) (e : Entry κ ε) :
    (s.without key e).find? k = if k = key then none else s.find? k :=
  Table.get?_erase s.entries key k

/-- Only an entry without subscribers is evicted, and only if its generation is the one asked
for. -/
theorem evict_cases (s : Store κ ε) (key : CacheKey) (generation : Nat) :
    s.evict key generation = (s, []) ∨
    ∃ e, s.find? key = some e ∧ e.subscribers = 0 ∧ e.generation = generation ∧
      s.evict key generation = (s.without key e, [.emit (.evicted key)]) := by
  unfold evict
  split
  · exact Or.inl rfl
  · rename_i e he
    split
    · rename_i hcond
      simp only [Bool.and_eq_true, decide_eq_true_eq] at hcond
      exact Or.inr ⟨e, he, hcond.1, hcond.2, rfl⟩
    · exact Or.inl rfl

/-- The end of a subscription changes the counts of the entry, and may evict it after that. -/
theorem unsubscribe_cases (s : Store κ ε) (key : CacheKey) (hasTimer : Bool) :
    s.unsubscribe key hasTimer = (s, []) ∨
    ∃ s₁, s.Drifts [] s₁ ∧ ((s.unsubscribe key hasTimer).1 = s₁ ∨
      ∃ generation, s.unsubscribe key hasTimer = s₁.evict key generation) := by
  unfold unsubscribe
  cases he : s.find? key with
  | none => exact Or.inl rfl
  | some e =>
      dsimp only
      refine Or.inr ⟨_, drifts_setEntry he
        (e.drifts_counts (e.subscribers - 1) (e.generation + 1)), ?_⟩
      split
      · exact Or.inl rfl
      · split
        · exact Or.inr ⟨_, rfl⟩
        · exact Or.inl rfl

end Tags

/-! ## Subscribing -/

/-- The store with a new entry, before anybody has subscribed to it. -/
def add (s : Store κ ε) (key : CacheKey) (endpoint : String) (request : Request)
    (provides : Json → Except DecodeError (List (Tag κ))) : Store κ ε :=
  { s with created := s.created + 1 }.setEntry key (.new endpoint request provides s.created)

@[simp] theorem find?_add (s : Store κ ε) (key k : CacheKey) (endpoint : String)
    (request : Request) (provides : Json → Except DecodeError (List (Tag κ))) :
    (s.add key endpoint request provides).find? k =
      if k = key then some (.new endpoint request provides s.created) else s.find? k :=
  find?_setEntry _ key k _

/-- One more subscriber of an entry, which asks for its request if it has to. -/
def join (s : Store κ ε) (key : CacheKey) (e : Entry κ ε) : Store κ ε × List (Effect κ ε) :=
  let e := { e with subscribers := e.subscribers + 1, generation := e.generation + 1 }
  if e.needsFetch then (s.setEntry key e).beginFetch key else (s.setEntry key e, [])

theorem drifts_join {e : Entry κ ε} (he : s.find? key = some e) :
    s.Drifts (s.join key e).2 (s.join key e).1 := by
  have hset := drifts_setEntry he (e.drifts_counts (e.subscribers + 1) (e.generation + 1))
  unfold join
  dsimp only
  split
  · exact hset.trans (drifts_beginFetch _ key)
  · exact hset

/-- Joining an entry that has just been added leaves no trace of the addition. -/
theorem join_add (s : Store κ ε) (key : CacheKey) (endpoint : String) (request : Request)
    (provides : Json → Except DecodeError (List (Tag κ))) (e : Entry κ ε) :
    (s.add key endpoint request provides).join key e =
      { s with created := s.created + 1 }.join key e := by
  unfold join add
  dsimp only
  rw [setEntry_setEntry]

/-- A subscriber joins the entry that is there, or one that is added for it. -/
theorem subscribe_join {α ρ : Type} {q : Query κ α ρ} {arg : α} {view : Subscription ρ}
    (h : s.subscribe q arg = .ok (view, s', effects)) :
    (∃ e, s.find? view.key = some e ∧ s.join view.key e = (s', effects)) ∨
    (s.find? view.key = none ∧
      ∃ request, q.request arg = .ok request ∧
        (s.add view.key q.name request (rawTags q arg)).join view.key
          (.new q.name request (rawTags q arg) s.created) = (s', effects)) := by
  unfold subscribe at h
  cases hkey : q.key arg with
  | error _ => rw [hkey] at h; exact absurd h (by simp)
  | ok key =>
      cases hreq : q.request arg with
      | error _ => rw [hkey, hreq] at h; exact absurd h (by simp)
      | ok request =>
          rw [hkey, hreq] at h
          cases he : s.find? key with
          | some e =>
              simp only [he, Except.ok.injEq, Prod.mk.injEq] at h
              obtain ⟨rfl, h⟩ := h
              exact Or.inl ⟨e, he, h⟩
          | none =>
              -- the entry is written together with its subscriber, not before it
              simp only [he, Except.ok.injEq, Prod.mk.injEq] at h
              obtain ⟨rfl, h⟩ := h
              refine Or.inr ⟨he, request, rfl, ?_⟩
              rw [join_add]
              exact h

theorem subscribe_ok {α ρ : Type} {q : Query κ α ρ} {arg : α} {view : Subscription ρ}
    (h : s.subscribe q arg = .ok (view, s', effects)) :
    (∃ e, s.find? view.key = some e ∧ s.Drifts effects s') ∨
    (s.find? view.key = none ∧
      ∃ request, q.request arg = .ok request ∧
        (s.add view.key q.name request (rawTags q arg)).Drifts effects s') := by
  rcases subscribe_join h with ⟨e, he, hjoin⟩ | ⟨habsent, request, hrequest, hjoin⟩
  · have hd := drifts_join he
    rw [hjoin] at hd
    exact Or.inl ⟨e, he, hd⟩
  · have hd := drifts_join (s := s.add view.key q.name request (rawTags q arg))
      (by rw [find?_add, if_pos rfl])
    rw [hjoin] at hd
    exact Or.inr ⟨habsent, request, hrequest, hd⟩

/-! ## Actions -/

section Actions

variable [DecidableEq κ]

/-- All that an action can do to a store, in six ways. -/
inductive Step (s : Store κ ε) : Action κ ε → List (Effect κ ε) → Store κ ε → Prop where
  /-- Entries drift. An answer that nobody waits for is no exception. -/
  | drift {a : Action κ ε} {effects : List (Effect κ ε)} {s' : Store κ ε}
      (hquiet : a.invalidated = [])
      (hidle : ∀ key id answer, a = .complete key id answer →
        ∀ e, s.find? key = some e → e.inFlight ≠ some id)
      (h : s.Drifts effects s') : Step s a effects s'
  /-- An entry is added, with its first subscriber. -/
  | add {α ρ : Type} {q : Query κ α ρ} {arg : α} {key : CacheKey} {request : Request}
      {effects : List (Effect κ ε)} {s' : Store κ ε} (habsent : s.find? key = none)
      (h : (s.add key q.name request (rawTags q arg)).Drifts effects s') :
      Step s (.subscribe q arg) effects s'
  /-- An entry without subscribers is evicted, perhaps by the subscriber that left last. -/
  | evict {a : Action κ ε} {s₁ : Store κ ε} {key : CacheKey} {e : Entry κ ε}
      (hquiet : a.invalidated = []) (hcomplete : ∀ key id answer, a ≠ .complete key id answer)
      (h : s.Drifts [] s₁) (he : s₁.find? key = some e) (hsubs : e.subscribers = 0) :
      Step s a [.emit (.evicted key)] (s₁.without key e)
  /-- Tags are invalidated, and hit the entries that the index names. -/
  | invalidate {a : Action κ ε} {effects : List (Effect κ ε)} {s' : Store κ ε}
      (hcomplete : ∀ key id answer, a ≠ .complete key id answer)
      (h : s.Invalidates (s.hits a.invalidated) effects s') : Step s a effects s'
  /-- An answer is thrown away, because nobody is there to see it. -/
  | discard {key : CacheKey} {id : Nat} {answer : Except ε Json} {e : Entry κ ε}
      (he : s.find? key = some e) (hf : e.inFlight = some id) (hsubs : e.subscribers = 0) :
      Step s (.complete key id answer) []
        (s.setEntry key (Store.discard { e with inFlight := none }))
  /-- An answer is taken up. -/
  | answer {key : CacheKey} {id : Nat} {answer : Except ε Json} {e : Entry κ ε}
      {effects : List (Effect κ ε)} {s' : Store κ ε}
      (he : s.find? key = some e) (hf : e.inFlight = some id) (hsubs : 0 < e.subscribers)
      (h : s.Answers key e answer effects s') : Step s (.complete key id answer) effects s'

/-- An action that is no answer and invalidates nothing drifts. -/
theorem Step.quiet {a : Action κ ε} (hquiet : a.invalidated = [])
    (hcomplete : ∀ key id answer, a ≠ .complete key id answer) (h : s.Drifts effects s') :
    s.Step a effects s' :=
  .drift hquiet (fun key id answer heq => absurd heq (hcomplete key id answer)) h

/-- An eviction, after the entries have drifted. -/
theorem step_evict {a : Action κ ε} {s₁ : Store κ ε} (hquiet : a.invalidated = [])
    (hcomplete : ∀ key id answer, a ≠ .complete key id answer) (h : s.Drifts [] s₁)
    (key : CacheKey) (generation : Nat) :
    s.Step a (s₁.evict key generation).2 (s₁.evict key generation).1 := by
  rcases evict_cases s₁ key generation with heq | ⟨e, he, hsubs, _, heq⟩
  · rw [heq]; exact .quiet hquiet hcomplete h
  · rw [heq]; exact .evict hquiet hcomplete h he hsubs

/-- **Every action is one of the six.** -/
theorem step_act (s : Store κ ε) (a : Action κ ε) : s.Step a (s.act a).2 (s.act a).1 := by
  cases a with
  | subscribe q arg =>
      simp only [act]
      cases hs : s.subscribe q arg with
      | error _ => exact .quiet rfl (by simp) (.refl s)
      | ok r =>
          obtain ⟨view, s', effects⟩ := r
          rcases subscribe_ok hs with ⟨_, _, hd⟩ | ⟨habsent, request, _, hd⟩
          · exact .quiet rfl (by simp) hd
          · exact .add habsent hd
  | unsubscribe key hasTimer =>
      rcases unsubscribe_cases s key hasTimer with heq | ⟨s₁, hd, heq | ⟨generation, heq⟩⟩
      · exact .quiet rfl (by simp) (by rw [act, heq]; exact .refl s)
      · exact .quiet rfl (by simp) (by rw [act, heq]; exact hd.mono (by simp))
      · rw [act, heq]
        exact step_evict rfl (by simp) hd key generation
  | invalidate tags => exact .invalidate (by simp) (invalidates_invalidateTags s tags)
  | refetch key => exact .quiet rfl (by simp) (drifts_refetch s key)
  | patch key recipe =>
      simp only [act]
      cases hs : s.patch key recipe with
      | none => exact .quiet rfl (by simp) (.refl s)
      | some r =>
          obtain ⟨pair, s'⟩ := r
          exact .quiet rfl (by simp) (drifts_patch hs)
  | revert pair => exact .quiet rfl (by simp) (drifts_revert s pair)
  | beginMutation m arg =>
      simp only [act]
      cases hs : s.beginMutation m arg with
      | error _ => exact .quiet rfl (by simp) (.refl s)
      | ok r =>
          obtain ⟨request, pairs, s'⟩ := r
          exact .quiet rfl (by simp) (drifts_beginMutation hs)
  | endMutation start m arg pairs answer =>
      simp only [act, endMutation]
      cases hr : mutationResult m answer with
      | ok response =>
          have hinv : (Action.endMutation start m arg pairs answer).invalidated
              = m.invalidates response arg := by
            rw [Action.invalidated, hr]
          refine .invalidate (by simp) ?_
          rw [hinv]
          exact invalidates_invalidateTags s _
      | error error =>
          -- a failure invalidates nothing
          refine .quiet (by rw [Action.invalidated, hr]) (by simp) ?_
          exact (drifts_revertAll pairs.reverse s).mono fun x hx => List.mem_append_left _ hx
  | evict key generation => exact step_evict rfl (by simp) (.refl s) key generation
  | complete key id answer =>
      rw [act]
      rcases completeFetch_cases s key id answer with
        ⟨heq, hidle⟩ | ⟨e, he, hf, hsubs, heq⟩ | ⟨e, he, hf, hsubs, ha⟩
      · rw [heq]
        refine .drift rfl (fun key' id' answer' h => ?_) (.refl s)
        injection h with hkey hid _
        rw [← hkey, ← hid]
        exact hidle
      · rw [heq]; exact .discard he hf hsubs
      · exact .answer he hf hsubs ha

end Actions

end Store

end TagCache
