import TagCache.Proofs.Provenance
import TagCache.Proofs.Rollback
import TagCache.Proofs.WellFormed

/-!
# Tags describe the data

An entry computes its tags when it accepts a result. Patches change the data afterwards and leave
the tags, and what undoes a patch may meet data that was fetched since. The tags still describe the
data if the endpoints are careful: neither what a mutation predicts nor what undoes it changes the
tags of any data that decodes.

The endpoints are a parameter. An entry was made for a query among them, and a key belongs to
whichever queries have it, so carefulness is asked for keys and survives that an entry is evicted
and made again. What is carried along a run: every entry is described, and every patch that is still
to be undone is harmless for its key.
-/

namespace TagCache

open Store Patch

variable {κ ε : Type}

/-! ## Endpoints and what they serve -/

/-- The endpoints that the action calls are among these. -/
def Action.Calls (endpoints : List (Endpoint κ)) : Action κ ε → Prop
  | .subscribe q _ => .query q ∈ endpoints
  | .beginMutation m _ => .mutation m ∈ endpoints
  | .endMutation _ m _ _ _ => .mutation m ∈ endpoints
  | _ => True

/-- A query with this key reads the tags of raw data so. -/
def Serves (endpoints : List (Endpoint κ)) (key : CacheKey)
    (provides : Json → Except DecodeError (List (Tag κ))) : Prop :=
  ∃ (α ρ : Type) (q : Query κ α ρ) (arg : α),
    .query q ∈ endpoints ∧ q.key arg = .ok key ∧ provides = rawTags q arg

/-- The entry was made for a query with its key, and its tags are those of the data it shows. -/
structure Entry.Described (endpoints : List (Endpoint κ)) (key : CacheKey) (e : Entry κ ε) :
    Prop where
  endpoint : e.endpoint = key.endpoint
  provides : Serves endpoints key e.provides
  /-- The data decodes, and provides these tags. -/
  tags : ∀ data, e.snapshot.data = some data →
    ∃ tags, e.provides data = .ok tags ∧ ∀ t, t ∈ e.tags ↔ t ∈ tags

/-- Every entry is described. -/
def Store.Described (endpoints : List (Endpoint κ)) (s : Store κ ε) : Prop :=
  ∀ key e, s.find? key = some e → e.Described endpoints key

/-! ## Harmless patches -/

/-- The patch leaves the tags of data that decodes. -/
def Patch.Keeps (provides : Json → Except DecodeError (List (Tag κ))) (p : Patch) : Prop :=
  ∀ d d' inverse tags, provides d = .ok tags → p.apply d = .ok (d', inverse) →
    provides d' = .ok tags

/-- Undoing the patch is harmless, whichever query with its key it meets. -/
def PatchPair.Harmless (endpoints : List (Endpoint κ)) (pair : PatchPair) : Prop :=
  ∀ provides, Serves endpoints pair.key provides → pair.inverse.Keeps provides

/-- Patches that a recipe makes from data under a key leave the tags, and so does undoing them at
any time. -/
def CarefulAt (endpoints : List (Endpoint κ)) (recipe : Json → Option Patch) (key : CacheKey) :
    Prop :=
  ∀ provides, Serves endpoints key provides → ∀ d d' tags forward inverse,
    provides d = .ok tags → recipe d = some forward → forward.apply d = .ok (d', inverse) →
    provides d' = .ok tags ∧ PatchPair.Harmless endpoints ⟨key, forward, inverse⟩

/-- The predictions of an endpoint are careful. -/
def Endpoint.Careful (endpoints : List (Endpoint κ)) : Endpoint κ → Prop
  | .query _ => True
  | .mutation m => ∀ p ∈ m.prediction, ∀ arg, ∀ key ∈ p.targets arg,
      CarefulAt endpoints (p.recipe arg) key

section

variable {s s' : Store κ ε} {effects : List (Effect κ ε)} {key : CacheKey}
  {e : Entry κ ε} {endpoints : List (Endpoint κ)}

theorem rawTags_eq_ok {α ρ : Type} {q : Query κ α ρ} {arg : α} {value : Json}
    {tags : List (Tag κ)} : rawTags q arg value = .ok tags ↔
      ∃ result, q.result.decode value = .ok result ∧ q.provides result arg = tags := by
  unfold rawTags
  cases q.result.decode value with
  | error _ => simp [Except.map]
  | ok _ => simp [Except.map]

/-- Description depends on what an entry was made for, its tags and its data. -/
theorem Entry.Described.congr {e' : Entry κ ε} (h : e.Described endpoints key)
    (hendpoint : e'.endpoint = e.endpoint) (hprovides : e'.provides = e.provides)
    (htags : e'.tags = e.tags) (hdata : e'.snapshot.data = e.snapshot.data) :
    e'.Described endpoints key where
  endpoint := hendpoint.trans h.endpoint
  provides := hprovides ▸ h.provides
  tags := by
    rw [hdata, hprovides, htags]
    exact h.tags

/-! ## Patching described entries -/

/-- The data of an entry may be exchanged for data with the same tags. -/
theorem Store.Described.setData (h : s.Described endpoints) {old new : Json}
    (he : s.find? key = some e) (hold : e.snapshot.data = some old)
    (hnew : ∀ tags, e.provides old = .ok tags → e.provides new = .ok tags) :
    (s.setData key new).Described endpoints := by
  have hdescribed := h key e he
  intro k e' he'
  unfold Store.setData at he'
  rw [he] at he'
  dsimp only at he'
  rw [find?_setEntry] at he'
  split at he'
  · rename_i hk
    obtain rfl := Option.some.inj he'
    rw [hk]
    refine ⟨hdescribed.endpoint, hdescribed.provides, fun data hdata => ?_⟩
    obtain rfl := Option.some.inj hdata
    obtain ⟨tags, htags, hmem⟩ := hdescribed.tags old hold
    exact ⟨tags, hnew tags htags, hmem⟩
  · exact h k e' he'

/-- Requesting an entry leaves its data and its tags. -/
theorem Store.Described.beginFetch (h : s.Described endpoints) (key : CacheKey) :
    (s.beginFetch key).1.Described endpoints := by
  rcases beginFetch_cases s key with ⟨heq, _⟩ | ⟨e, he, _, heq⟩
  · rw [heq]; exact h
  · intro k e' he'
    rw [heq] at he'
    change (s.setEntry key (e.awaiting s.nextRequest)).find? k = some e' at he'
    rw [find?_setEntry] at he'
    split at he'
    · rename_i hk
      obtain rfl := Option.some.inj he'
      rw [hk]
      exact (h key e he).congr rfl rfl rfl rfl
    · exact h k e' he'

theorem described_patch {recipe : Json → Option Patch} {pair : PatchPair}
    (h : s.Described endpoints) (hcare : CarefulAt endpoints recipe key)
    (hpatch : s.patch key recipe = some (pair, s')) :
    s'.Described endpoints ∧ pair.Harmless endpoints := by
  obtain ⟨e, old, new, he, _, hold, hrecipe, happly, rfl, rfl⟩ := patch_eq_some hpatch
  have hdescribed := h _ e he
  have hkeeps := fun tags (ht : e.provides old = .ok tags) =>
    hcare _ hdescribed.provides old new tags _ _ ht hrecipe happly
  refine ⟨h.setData he hold fun tags ht => (hkeeps tags ht).1, ?_⟩
  obtain ⟨tags, ht, _⟩ := hdescribed.tags old hold
  exact (hkeeps tags ht).2

theorem described_patchAll {recipe : Json → Option Patch} {keys : List CacheKey}
    (h : s.Described endpoints) (hcare : ∀ key ∈ keys, CarefulAt endpoints recipe key) :
    (patchAll recipe keys s).2.Described endpoints ∧
      ∀ pair ∈ (patchAll recipe keys s).1, pair.Harmless endpoints := by
  induction keys generalizing s with
  | nil => exact ⟨h, fun _ hpair => absurd hpair (by simp [patchAll])⟩
  | cons key keys ih =>
      obtain ⟨hkey, hkeys⟩ := List.forall_mem_cons.mp hcare
      unfold patchAll
      split
      · exact ih h hkeys
      · rename_i pair s' hpatch
        obtain ⟨hs', hpair⟩ := described_patch h hkey hpatch
        obtain ⟨hrest, hpairs⟩ := ih hs' hkeys
        exact ⟨hrest, List.forall_mem_cons.mpr ⟨hpair, hpairs⟩⟩

theorem described_revertAll {pairs : List PatchPair} (h : s.Described endpoints)
    (hpairs : ∀ pair ∈ pairs, pair.Harmless endpoints) :
    (revertAll pairs s).1.Described endpoints := by
  induction pairs generalizing s with
  | nil => exact h
  | cons pair pairs ih =>
      obtain ⟨hpair, hrest⟩ := List.forall_mem_cons.mp hpairs
      unfold revertAll
      refine ih ?_ hrest
      rcases revert_cases s pair with
        ⟨heq, _⟩ | ⟨e, old, new, inverse, he, hold, happly, heq⟩ | ⟨_, _, _, _, _, _, heq⟩
      · rw [heq]; exact h
      · rw [heq]
        exact h.setData he hold fun tags ht =>
          hpair _ (h _ e he).provides old new inverse tags ht happly
      · rw [heq]; exact h.beginFetch pair.key

theorem described_beginMutation {α ρ : Type} {m : Mutation κ α ρ} {arg : α} {request : Request}
    {pairs : List PatchPair} (h : s.Described endpoints)
    (hcare : (Endpoint.mutation m).Careful endpoints)
    (hm : s.beginMutation m arg = .ok (request, pairs, s')) :
    s'.Described endpoints ∧ ∀ pair ∈ pairs, pair.Harmless endpoints := by
  rcases beginMutation_cases hm with ⟨rfl, rfl⟩ | ⟨p, hp, hpatched⟩
  · exact ⟨h, fun _ hpair => absurd hpair (by simp)⟩
  · have hall := described_patchAll h fun key hkey =>
      hcare p hp arg key (CacheKey.mem_sorted.mp hkey)
    rw [hpatched] at hall
    exact hall

/-- The patches that are still to be undone are harmless. -/
def HarmlessPast (endpoints : List (Endpoint κ)) (past : List (Moment κ ε)) : Prop :=
  ∀ a ∈ outstanding past, ∀ pair ∈ a.2, pair.Harmless endpoints

/-- What a mutation predicts is harmless to undo. -/
theorem harmless_step {m : Moment κ ε} {past : List (Moment κ ε)}
    (h : m.before.Described endpoints)
    (hpast : HarmlessPast endpoints past)
    (hcare : ∀ endpoint ∈ endpoints, endpoint.Careful endpoints)
    (hcalls : m.action.Calls endpoints) : HarmlessPast endpoints (m :: past) := by
  intro a ha
  rcases List.mem_append.mp ha with ha | ha
  · obtain ⟨_, _, _, _, _, _, haction, hbegin⟩ :=
      Moment.begun?_eq_some (Option.mem_toList.mp ha)
    rw [haction] at hcalls
    exact (described_beginMutation h (hcare _ hcalls) hbegin).2
  · exact hpast a (List.mem_filter.mp ha).1

/-! ## Hits and answers -/

theorem outcome_eq_ok {answer : Except ε Json} {value : Json} {provided : List (Tag κ)} :
    outcome e answer = .ok (value, provided) ↔
      answer = .ok value ∧ e.provides value = .ok provided := by
  unfold outcome
  cases answer with
  | error _ => simp
  | ok v =>
      dsimp only
      cases hprovides : e.provides v with
      | error _ =>
          simp only [reduceCtorEq, Except.ok.injEq, false_iff, not_and]
          rintro rfl
          rw [hprovides]
          simp
      | ok tags =>
          simp only [Except.ok.injEq, Prod.mk.injEq, and_congr_right_iff]
          rintro rfl
          rw [hprovides, Except.ok.injEq]

theorem Entry.Described.invalidated (h : e.Described endpoints key) (id : Nat) :
    (e.invalidated id).Described endpoints key := by
  unfold Entry.invalidated
  split
  · exact h.congr rfl rfl rfl rfl
  · split
    · exact h.congr rfl rfl rfl rfl
    · exact h.congr rfl rfl rfl rfl

end

/-! ## Every moment -/

section

variable [DecidableEq κ] {m : Moment κ ε} {past : List (Moment κ ε)} {key : CacheKey}
variable {e e' : Entry κ ε} {endpoints : List (Endpoint κ)}

/-- A result brings its tags with it; an error leaves data and tags. -/
theorem Entry.Described.settled (h : e.Described endpoints key) (answer : Except ε Json) :
    (e.settled (outcome e answer)).Described endpoints key := by
  cases ho : outcome e answer with
  | error _ => exact h.congr rfl rfl rfl rfl
  | ok r =>
      obtain ⟨value, provided⟩ := r
      refine ⟨h.endpoint, h.provides, fun data hdata => ?_⟩
      obtain rfl := Option.some.inj hdata
      exact ⟨provided, (outcome_eq_ok.mp ho).2, fun t => List.mem_eraseDups⟩

theorem Entry.Described.answered (h : e.Described endpoints key) (answer : Except ε Json)
    (id : Nat) : (e.answered answer id).Described endpoints key := by
  unfold Entry.answered
  split
  · exact (h.settled answer).congr rfl rfl rfl rfl
  · exact h.settled answer

/-- A new entry is described. -/
theorem described_new (hcalls : m.action.Calls endpoints) (habsent : m.before.find? key = none)
    (he' : m.after.find? key = some e') : e'.Described endpoints key := by
  obtain ⟨⟨_, _, α, ρ, q, arg, haction, hmade⟩, hdata⟩ := makes_of_absent habsent he'
  rw [haction] at hcalls
  refine ⟨hmade.endpoint.trans (endpoint_of_key hmade.key).symm,
    ⟨α, ρ, q, arg, hcalls, hmade.key, hmade.provides⟩, fun data hsome => ?_⟩
  rw [hdata] at hsome
  exact absurd hsome (by simp)

/-- An entry is described wherever it comes from, if it shows what it showed unless it was
answered. -/
theorem Origin.described (ho : Origin m key e') (h : m.before.Described endpoints)
    (hcalls : m.action.Calls endpoints) (he' : m.after.find? key = some e')
    (hkept : ∀ e, m.before.find? key = some e →
      (∀ id answer, ¬ m.TakesUp key e.birth id answer) → e'.snapshot.data = e.snapshot.data) :
    e'.Described endpoints key := by
  cases ho with
  | new habsent _ _ => exact described_new hcalls habsent he'
  | drift he _ hidle hd =>
      exact (h _ _ he).congr hd.endpoint hd.provides hd.tags (hkept _ he hidle)
  | hit he _ _ heq _ => rw [heq]; exact (h _ _ he).invalidated _
  | discard he _ _ _ heq => rw [heq]; exact (h _ _ he).congr rfl rfl rfl rfl
  | answer he _ _ heq _ => rw [heq]; exact (h _ _ he).answered _ _

/-- The action neither patches data nor undoes a patch. -/
def Action.SparesData : Action κ ε → Prop
  | .patch .. | .revert .. | .beginMutation .. => False
  | .endMutation _ m _ _ answer => ∃ response, mutationResult m answer = .ok response
  | _ => True

/-- Unless it is patched or answered, an entry that stays shows what it showed. -/
theorem data_of_spared (hspares : m.action.SparesData) (he : m.before.find? key = some e)
    (he' : m.after.find? key = some e') (hidle : ∀ id answer, ¬ m.TakesUp key e.birth id answer) :
    e'.snapshot.data = e.snapshot.data := by
  have htouched : m.touched = [] := by
    obtain ⟨time, s, a⟩ := m
    cases a with
    | patch k recipe => exact hspares.elim
    | revert pair => exact hspares.elim
    | beginMutation mutation arg => exact hspares.elim
    | endMutation start mutation arg pairs answer =>
        obtain ⟨response, hr⟩ := hspares
        simp only [Moment.touched, Action.succeeds, hr, if_true]
    | _ => rfl
  have haccepts : m.accepts? key = none := by
    cases ha : m.accepts? key with
    | none => rfl
    | some r =>
        obtain ⟨id, answer, _, _, htake, _⟩ := accepts?_eq_some ha
        have hborn : r.1 = e.birth := by
          obtain ⟨_, x, hx, hborn, _⟩ := htake
          rw [← hborn, Option.some.inj (hx.symm.trans he)]
        exact absurd (hborn ▸ htake) (hidle id answer)
  have hshown := shown_of_untouched haccepts (by rw [htouched]; simp)
  rw [shown_of_find? he, shown_of_find? he'] at hshown
  rcases hshown with hsame | hgone | ⟨hgone, _⟩
  · exact (Prod.mk.inj (Option.some.inj hsame)).2
  · exact absurd hgone (by simp)
  · exact absurd hgone (by simp)

/-- **Every moment leaves described entries**, if the endpoints it calls are careful and the patches
it undoes harmless. -/
theorem described_step (hx : m.before.IndexExact) (h : m.before.Described endpoints)
    (hcare : ∀ endpoint ∈ endpoints, endpoint.Careful endpoints)
    (hcalls : m.action.Calls endpoints) (halone : m.action.patchesAlone = false)
    (hpairs : ∀ a ∈ m.action.ended?, ∀ pair ∈ a.2, pair.Harmless endpoints) :
    m.after.Described endpoints := by
  have hspared : m.action.SparesData → m.after.Described endpoints := fun hspares k e' he' =>
    (origin hx he').described h hcalls he' fun e he hidle => data_of_spared hspares he he' hidle
  obtain ⟨time, s, a⟩ := m
  cases a with
  | patch k recipe => exact Bool.noConfusion halone
  | revert pair => exact Bool.noConfusion halone
  | beginMutation mutation arg =>
      cases hs : s.beginMutation mutation arg with
      | error _ => simpa only [Moment.after, act, hs] using h
      | ok r =>
          obtain ⟨request, pairs, s'⟩ := r
          simp only [Moment.after, act, hs]
          exact (described_beginMutation h (hcare _ hcalls) hs).1
  | endMutation start mutation arg pairs answer =>
      cases hr : mutationResult mutation answer with
      | ok response => exact hspared ⟨response, hr⟩
      | error error =>
          simp only [Moment.after, act, endMutation, hr]
          refine described_revertAll h fun pair hpair => ?_
          exact hpairs _ rfl pair (List.mem_reverse.mp hpair)
  | _ => exact hspared trivial

/-- Tags describe the data all along a run. -/
theorem described_run {config : StoreConfig} {s : Store κ ε} (hr : Run config past s)
    (hcare : ∀ endpoint ∈ endpoints, endpoint.Careful endpoints)
    (hcalls : ∀ m ∈ past, m.action.Calls endpoints) (hmut : ByMutations past) :
    s.Described endpoints ∧ HarmlessPast endpoints past := by
  induction hr with
  | init => exact ⟨fun k e he => absurd he (by simp), fun a ha => absurd ha (by simp [outstanding])⟩
  | tail hr a ih =>
      obtain ⟨hcalls, hpast⟩ := List.forall_mem_cons.mp hcalls
      obtain ⟨hdescribed, hharmless⟩ := ih hpast hmut.2
      refine ⟨described_step (m := ⟨_, _, a⟩) (indexExact_run hr) hdescribed hcare hcalls hmut.1.1
        fun b hb => hharmless b (hmut.1.2 b hb), ?_⟩
      exact harmless_step hdescribed hharmless hcare hcalls

end

end TagCache
