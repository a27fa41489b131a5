import TagCache.Proofs.Rollback
import TagCache.Proofs.WellFormed

/-!
# A mutation that fails leaves nothing behind

`rolled_back` is about what a store shows when all mutations have failed. This module is about one
mutation that fails, and about everything it does.

It patches those of its targets that it can, and it comes back with the patches when the answer to
its request is an error. In the meantime the store goes on. Subscribers come and go, entries are
invalidated and requested again, other mutations patch other entries. As long as nobody brings other
data to a target, patches its data or evicts it, undoing finds what the mutation has left. Then
every patch can be undone, every target shows what it showed before, and one event for each patch
tells so, the last patch first. Of anything but data the two halves of the mutation change nothing.
-/

namespace TagCache

open Store

variable {κ ε : Type}

/-! ## What a mutation predicts -/

/-- The entries that a mutation is expected to change. -/
def Mutation.targets {α ρ : Type} (m : Mutation κ α ρ) (arg : α) : List CacheKey :=
  (m.prediction.map fun p => p.targets arg).getD []

/-- The change that a mutation makes in the data of a target. -/
def Mutation.recipe {α ρ : Type} (m : Mutation κ α ρ) (arg : α) : Json → Option Patch :=
  (m.prediction.map fun p => p.recipe arg).getD fun _ => none

/-- The entry without its data, and without how often it was written. -/
def Entry.outline (e : Entry κ ε) : Entry κ ε :=
  { e with snapshot := { e.snapshot with data := none }, version := 0 }

namespace Store

/-- The data under a key, if there is any. -/
def dataOf (s : Store κ ε) (key : CacheKey) : Option Json := (s.get? key).bind (·.data)

/-- The two stores differ in data only. -/
structure SameButData (s s' : Store κ ε) : Prop where
  entries : ∀ k, (s'.find? k).map (·.outline) = (s.find? k).map (·.outline)
  index : s'.index = s.index
  next : s'.nextRequest = s.nextRequest
  created : s'.created = s.created
  config : s'.config = s.config

end Store

/-- The patch leads from the data in one store to the data in the other. -/
def PatchPair.Leads (pair : PatchPair) (s s' : Store κ ε) : Prop :=
  ∃ old new, s.dataOf pair.key = some old ∧ s'.dataOf pair.key = some new ∧
    pair.forward.apply old = .ok (new, pair.inverse)

namespace Store

variable {s s' s'' : Store κ ε} {key : CacheKey} {recipe : Json → Option Patch}

theorem SameButData.refl (s : Store κ ε) : s.SameButData s :=
  ⟨fun _ => rfl, rfl, rfl, rfl, rfl⟩

theorem SameButData.trans (h : s.SameButData s') (h' : s'.SameButData s'') : s.SameButData s'' where
  entries := fun k => (h'.entries k).trans (h.entries k)
  index := h'.index.trans h.index
  next := h'.next.trans h.next
  created := h'.created.trans h.created
  config := h'.config.trans h.config

/-! ## Data -/

theorem dataOf_of_find? {e : Entry κ ε} (he : s.find? key = some e) :
    s.dataOf key = e.snapshot.data := by
  unfold dataOf get?
  rw [he]
  rfl

theorem dataOf_eq_shown (s : Store κ ε) (key : CacheKey) :
    s.dataOf key = (s.shown key).bind fun r => r.2 := by
  unfold dataOf get? shown
  cases s.find? key with
  | none => rfl
  | some e => rfl

theorem dataOf_congr (h : s'.find? key = s.find? key) : s'.dataOf key = s.dataOf key := by
  unfold dataOf get?
  rw [h]

theorem find?_setData_ne {k : CacheKey} (hne : k ≠ key) (data : Json) :
    (s.setData key data).find? k = s.find? k := by
  unfold setData
  split
  · rfl
  · rw [find?_setEntry, if_neg hne]

theorem dataOf_setData {e : Entry κ ε} (he : s.find? key = some e) (data : Json) :
    (s.setData key data).dataOf key = some data := by
  unfold setData
  rw [he]
  have hfind : (s.setEntry key (e.setData data)).find? key = some (e.setData data) := by
    rw [find?_setEntry, if_pos rfl]
  exact dataOf_of_find? hfind

theorem sameButData_setData (s : Store κ ε) (key : CacheKey) (data : Json) :
    s.SameButData (s.setData key data) := by
  unfold setData
  cases he : s.find? key with
  | none => exact .refl s
  | some e =>
      refine ⟨fun k => ?_, rfl, rfl, rfl, rfl⟩
      rw [find?_setEntry]
      split
      · rename_i hk
        rw [hk, he]
        rfl
      · rfl

theorem exists_of_dataOf {data : Json} (h : s.dataOf key = some data) :
    ∃ e, s.find? key = some e ∧ e.snapshot.data = some data := by
  cases he : s.find? key with
  | none =>
      rw [dataOf, get?, he] at h
      exact absurd h (by simp)
  | some e => exact ⟨e, rfl, (dataOf_of_find? he).symm.trans h⟩

/-! ## Patching the targets -/

/-- Whether an entry is patched depends on that entry. -/
theorem patch_congr (h : s'.find? key = s.find? key) (recipe : Json → Option Patch) :
    (s'.patch key recipe).isSome = (s.patch key recipe).isSome := by
  have hdata : s'.patchable? key = s.patchable? key := by
    unfold patchable?
    rw [h]
  unfold patch
  rw [hdata]
  cases s.patchable? key with
  | none => rfl
  | some data =>
      cases hr : recipe data with
      | none => simp [hr]
      | some forward =>
          cases ha : forward.apply data with
          | error _ => simp [hr, ha, Except.toOption]
          | ok r => simp [hr, ha, Except.toOption]

/-- Those entries under `keys` that can be patched have been patched, and nothing else has
happened. -/
structure PatchesAll (s : Store κ ε) (recipe : Json → Option Patch) (keys : List CacheKey)
    (pairs : List PatchPair) (s' : Store κ ε) : Prop where
  keys : pairs.map (·.key) = keys.filter fun k => (s.patch k recipe).isSome
  leads : ∀ pair ∈ pairs, pair.Leads s s'
  other : ∀ k, (∀ pair ∈ pairs, pair.key ≠ k) → s'.find? k = s.find? k
  same : s.SameButData s'

theorem PatchesAll.mem_keys {keys : List CacheKey} {pairs : List PatchPair} {pair : PatchPair}
    (h : s.PatchesAll recipe keys pairs s') (hpair : pair ∈ pairs) : pair.key ∈ keys := by
  have hmem : pair.key ∈ keys.filter fun k => (s.patch k recipe).isSome :=
    h.keys ▸ List.mem_map.mpr ⟨pair, hpair, rfl⟩
  exact (List.mem_filter.mp hmem).1

theorem patchesAll_patchAll {keys : List CacheKey} (hnd : keys.Nodup) (s : Store κ ε) :
    s.PatchesAll recipe keys (patchAll recipe keys s).1 (patchAll recipe keys s).2 := by
  induction keys generalizing s with
  | nil => exact ⟨rfl, fun _ h => absurd h (by simp [patchAll]), fun _ _ => rfl, .refl s⟩
  | cons key keys ih =>
      obtain ⟨hkey, hnd⟩ := List.nodup_cons.mp hnd
      unfold patchAll
      split
      · rename_i hnone
        have hrest := ih hnd s
        refine ⟨?_, hrest.leads, hrest.other, hrest.same⟩
        rw [List.filter_cons_of_neg (by rw [hnone]; simp)]
        exact hrest.keys
      · rename_i pair s₁ hsome
        obtain ⟨e, old, new, he, _, hold, _, happly, hpair, rfl⟩ := patch_eq_some hsome
        have hrest := ih hnd (s.setData key new)
        have hfind : ∀ k, k ≠ key → (s.setData key new).find? k = s.find? k :=
          fun k hk => find?_setData_ne hk new
        -- the entry in front is not among those that follow
        have hlater : ∀ q ∈ (patchAll recipe keys (s.setData key new)).1, q.key ≠ key :=
          fun q hq heq => hkey (heq ▸ hrest.mem_keys hq)
        refine ⟨?_, ?_, ?_, (sameButData_setData s key new).trans hrest.same⟩
        · rw [List.filter_cons_of_pos (by rw [hsome]; rfl)]
          refine congrArg₂ List.cons hpair (hrest.keys.trans (List.filter_congr fun k hk => ?_))
          exact patch_congr (hfind k fun heq => hkey (heq ▸ hk)) recipe
        · refine List.forall_mem_cons.mpr ⟨⟨old, new, ?_, ?_, happly⟩, fun q hq => ?_⟩
          · rw [hpair, dataOf_of_find? he, hold]
          · rw [hpair, dataOf_congr (hrest.other key hlater), dataOf_setData he]
          · obtain ⟨old', new', hold', hnew', happly'⟩ := hrest.leads q hq
            rw [dataOf_congr (hfind _ (hlater q hq))] at hold'
            exact ⟨old', new', hold', hnew', happly'⟩
        · intro k hk
          obtain ⟨hne, hk⟩ := List.forall_mem_cons.mp hk
          exact (hrest.other k hk).trans (hfind k fun heq => hne (hpair.trans heq.symm))

/-- A mutation that has a request patches its targets, in order and each once. -/
theorem beginMutation_of_request {α ρ : Type} {m : Mutation κ α ρ} {arg : α} {request : Request}
    (h : m.request arg = .ok request) (s : Store κ ε) :
    ∃ pairs s', s.beginMutation m arg = .ok (request, pairs, s') ∧
      s.PatchesAll (m.recipe arg) (CacheKey.sorted (m.targets arg)) pairs s' := by
  refine ⟨_, _, ?_, patchesAll_patchAll (CacheKey.ascending_sorted _).nodup s⟩
  unfold beginMutation Mutation.targets Mutation.recipe
  rw [h]
  cases m.prediction with
  | none => rfl
  | some p => rfl

/-! ## Undoing the patches -/

/-- A patch is undone where the data is still what it has led to. -/
theorem revert_of_leads {pair : PatchPair} (h : pair.Leads s s') :
    ∃ old, s.dataOf pair.key = some old ∧
      (s'.setData pair.key old).dataOf pair.key = some old ∧
      s'.revert pair = (s'.setData pair.key old, [.emit (.rolledBack pair.key)]) := by
  obtain ⟨old, new, hold, hnew, happly⟩ := h
  obtain ⟨e, he, hdata⟩ := exists_of_dataOf hnew
  refine ⟨old, hold, dataOf_setData he old, ?_⟩
  have hundo := Patch.apply_undo happly
  rcases revert_cases s' pair with
    ⟨_, hnone⟩ | ⟨e', new', back, _, he', hdata', happly', hrevert⟩ |
      ⟨e', new', error, he', hdata', herror, _⟩
  · rw [hnone e he] at hdata
    exact absurd hdata (by simp)
  · obtain rfl := Option.some.inj (he.symm.trans he')
    obtain rfl := Option.some.inj (hdata.symm.trans hdata')
    obtain ⟨rfl, _⟩ := Prod.mk.inj (Except.ok.inj (hundo.symm.trans happly'))
    exact hrevert
  · obtain rfl := Option.some.inj (he.symm.trans he')
    obtain rfl := Option.some.inj (hdata.symm.trans hdata')
    rw [hundo] at herror
    exact absurd herror (by simp)

/-- Patches of different entries are all undone. -/
theorem revertAll_of_leads {pairs : List PatchPair} (hnd : (pairs.map (·.key)).Nodup)
    (h : ∀ pair ∈ pairs, pair.Leads s s') :
    (revertAll pairs s').2 = pairs.map (fun pair => .emit (.rolledBack pair.key)) ∧
      s'.SameButData (revertAll pairs s').1 ∧
      (∀ pair ∈ pairs, (revertAll pairs s').1.dataOf pair.key = s.dataOf pair.key) ∧
      ∀ k, (∀ pair ∈ pairs, pair.key ≠ k) → (revertAll pairs s').1.find? k = s'.find? k := by
  induction pairs generalizing s' with
  | nil => exact ⟨rfl, .refl s', fun _ hpair => absurd hpair (by simp), fun _ _ => rfl⟩
  | cons pair pairs ih =>
      obtain ⟨hkey, hnd⟩ := List.nodup_cons.mp hnd
      obtain ⟨hpair, hpairs⟩ := List.forall_mem_cons.mp h
      have hlater : ∀ q ∈ pairs, q.key ≠ pair.key := fun q hq heq =>
        hkey (List.mem_map.mpr ⟨q, hq, heq⟩)
      obtain ⟨old, hold, hback, hrevert⟩ := revert_of_leads hpair
      have hfind : ∀ k, k ≠ pair.key → (s'.setData pair.key old).find? k = s'.find? k :=
        fun k hk => find?_setData_ne hk old
      have hrest : ∀ q ∈ pairs, q.Leads s (s'.setData pair.key old) := by
        intro q hq
        obtain ⟨old', new', hold', hnew', happly'⟩ := hpairs q hq
        exact ⟨old', new', hold', (dataOf_congr (hfind _ (hlater q hq))).trans hnew', happly'⟩
      obtain ⟨heffects, hsame, hdata, hother⟩ := ih hnd hrest
      unfold revertAll
      rw [hrevert]
      refine ⟨?_, (sameButData_setData s' pair.key old).trans hsame, ?_, fun k hk => ?_⟩
      · rw [List.map_cons, ← heffects]
        rfl
      · refine List.forall_mem_cons.mpr ⟨?_, hdata⟩
        rw [hold, ← hback]
        exact dataOf_congr (hother _ hlater)
      · obtain ⟨hne, hk⟩ := List.forall_mem_cons.mp hk
        exact (hother k hk).trans (hfind k (Ne.symm hne))

/-- What patching has changed, undoing the patches brings back, the last one first, if the data
under the keys is still what the patches have led to. -/
theorem PatchesAll.undone {keys : List CacheKey} {pairs : List PatchPair}
    (h : s.PatchesAll recipe keys pairs s') (hnd : keys.Nodup)
    (hdata : ∀ k ∈ keys, s''.dataOf k = s'.dataOf k) :
    (revertAll pairs.reverse s'').2 =
        pairs.reverse.map (fun pair => .emit (.rolledBack pair.key)) ∧
      s''.SameButData (revertAll pairs.reverse s'').1 ∧
      (∀ k ∈ keys, (revertAll pairs.reverse s'').1.dataOf k = s.dataOf k) ∧
      ∀ k, k ∉ keys → (revertAll pairs.reverse s'').1.find? k = s''.find? k := by
  have hkeys : ∀ pair ∈ pairs.reverse, pair.key ∈ keys := fun pair hpair =>
    h.mem_keys (List.mem_reverse.mp hpair)
  have hnd : (pairs.reverse.map (·.key)).Nodup := by
    rw [List.map_reverse, h.keys]
    exact (List.reverse_perm _).nodup_iff.mpr (hnd.filter _)
  obtain ⟨heffects, hsame, hback, hother⟩ := revertAll_of_leads hnd fun pair hpair => by
    obtain ⟨old, new, hold, hnew, happly⟩ := h.leads pair (List.mem_reverse.mp hpair)
    exact ⟨old, new, hold, (hdata _ (hkeys pair hpair)).trans hnew, happly⟩
  refine ⟨heffects, hsame, fun k hk => ?_, fun k hk => hother k fun pair hpair heq =>
    hk (heq ▸ hkeys pair hpair)⟩
  by_cases hpatched : ∃ pair ∈ pairs.reverse, pair.key = k
  · obtain ⟨pair, hpair, rfl⟩ := hpatched
    exact hback pair hpair
  · -- the entry was not patched, and has not changed at all
    have hnone : ∀ pair ∈ pairs.reverse, pair.key ≠ k := fun pair hpair heq =>
      hpatched ⟨pair, hpair, heq⟩
    calc (revertAll pairs.reverse s'').1.dataOf k
        = s''.dataOf k := dataOf_congr (hother k hnone)
      _ = s'.dataOf k := hdata k hk
      _ = s.dataOf k := dataOf_congr (h.other k fun pair hpair =>
          hnone pair (List.mem_reverse.mpr hpair))

end Store

/-! ## In the meantime -/

variable [DecidableEq κ]

/-- The moment neither brings other data to an entry, nor patches its data or undoes a patch of it,
nor evicts it. -/
def Moment.LeavesAlone (m : Moment κ ε) (key : CacheKey) : Prop :=
  m.accepts? key = none ∧ key ∉ m.touched ∧ .emit (.evicted key) ∉ m.effects

instance [DecidableEq ε] (m : Moment κ ε) (key : CacheKey) : Decidable (m.LeavesAlone key) :=
  inferInstanceAs (Decidable (_ ∧ _ ∧ _))

variable {past : List (Moment κ ε)} {s s' : Store κ ε} {key : CacheKey} {config : StoreConfig}

/-- The data of an entry that is left alone stays. An entry that was not there may come, but without
data. -/
theorem Moment.LeavesAlone.dataOf {m : Moment κ ε} (h : m.LeavesAlone key) :
    m.after.dataOf key = m.before.dataOf key := by
  obtain ⟨haccepts, htouched, hevicted⟩ := h
  rw [dataOf_eq_shown, dataOf_eq_shown]
  rcases shown_of_untouched haccepts htouched with hsame | hgone | ⟨habsent, hnew⟩
  · rw [hsame]
  · cases hbefore : m.before.shown key with
    | none => rw [hgone]
    | some r =>
        obtain ⟨e, he, rfl⟩ := Option.map_eq_some_iff.mp hbefore
        cases hdata : e.snapshot.data with
        | none => rw [hgone]; rfl
        | some data =>
            -- an entry with data goes by eviction only
            rcases data_kept m.before m.action he (by rw [hdata]; rfl) with ⟨e', he', _⟩ | ⟨_, hmem⟩
            · exact absurd (he'.symm.trans (shown_eq_none.mp hgone)) (by simp)
            · exact absurd hmem hevicted
  · rw [habsent, hnew]
    rfl

theorem dataOf_between {m : Moment κ ε} {between : List (Moment κ ε)}
    (h : Run config (between ++ m :: past) s') (halone : ∀ r ∈ between, r.LeavesAlone key) :
    s'.dataOf key = m.after.dataOf key := by
  induction between generalizing s' with
  | nil =>
      cases h with
      | tail _ a => rfl
  | cons r between ih =>
      obtain ⟨hr, hrest⟩ := List.forall_mem_cons.mp halone
      cases h with
      | tail h a => exact hr.dataOf.trans (ih h hrest)

/-- **A mutation that fails is undone, and was nothing else.** Whatever a mutation predicts for its
targets: if it has no request, nothing happens. If it has one, it patches those targets that can be
patched, in order and each once. It may be under way for any time, in which other data is neither
brought nor patched into a target and no target is evicted. When its answer then is an error, or no
result, it undoes its patches, the last one first, tells of each, and tells that it has failed.
Every target shows what it showed before the mutation, and neither half of the mutation has changed
anything but the data of targets. -/
theorem failed_mutation_undone (s : Store κ ε) {α ρ : Type} (m : Mutation κ α ρ) (arg : α) :
    (∀ reason, m.request arg = .error reason →
      s.beginMutation m arg = .error (.encode m.name reason) ∧
        s.act (.beginMutation m arg) = (s, [])) ∧
    ∀ request, m.request arg = .ok request → ∃ pairs s₁,
      s.beginMutation m arg = .ok (request, pairs, s₁) ∧
      s.act (.beginMutation m arg) = (s₁, []) ∧
      CacheKey.Ascending (pairs.map (·.key)) ∧
      (∀ k, k ∈ pairs.map (·.key) ↔ k ∈ m.targets arg ∧ (s.patch k (m.recipe arg)).isSome) ∧
      s.SameButData s₁ ∧ (∀ k, k ∉ m.targets arg → s₁.find? k = s.find? k) ∧
      ∀ config past between s₂,
        Run config (between ++ ⟨past.length, s, .beginMutation m arg⟩ :: past) s₂ →
        (∀ r ∈ between, ∀ k ∈ m.targets arg, r.LeavesAlone k) →
        ∀ answer error, mutationResult m answer = .error error → ∃ s₃,
          s₂.endMutation m arg pairs answer = (.error error, s₃,
            (pairs.reverse.map fun pair => .emit (.rolledBack pair.key)) ++
              [.emit (.mutationFailed error)]) ∧
          (∀ k ∈ m.targets arg, s₃.dataOf k = s.dataOf k) ∧
          s₂.SameButData s₃ ∧ ∀ k, k ∉ m.targets arg → s₃.find? k = s₂.find? k := by
  constructor
  · intro reason hreason
    have hbegin : s.beginMutation m arg = .error (.encode m.name reason) := by
      rw [beginMutation, hreason]
    refine ⟨hbegin, ?_⟩
    simp only [act, hbegin]
  intro request hrequest
  obtain ⟨pairs, s₁, hbegin, hpatches⟩ := beginMutation_of_request hrequest s
  have hact : s.act (.beginMutation m arg) = (s₁, []) := by simp only [act, hbegin]
  have hsorted := CacheKey.ascending_sorted (m.targets arg)
  have hmem : ∀ k, k ∈ CacheKey.sorted (m.targets arg) ↔ k ∈ m.targets arg :=
    fun k => CacheKey.mem_sorted
  refine ⟨pairs, s₁, hbegin, hact, ?_, fun k => ?_, hpatches.same, fun k hk => ?_, ?_⟩
  · rw [hpatches.keys]
    exact hsorted.filter _
  · rw [hpatches.keys, List.mem_filter, hmem]
  · refine hpatches.other k fun pair hpair heq => hk ?_
    exact (hmem k).mp (heq ▸ hpatches.mem_keys hpair)
  · intro config past between s₂ hrun halone answer error herror
    -- the targets still show what the patches have led to
    have hdata : ∀ k ∈ CacheKey.sorted (m.targets arg), s₂.dataOf k = s₁.dataOf k := by
      intro k hk
      have hkept := dataOf_between hrun fun r hr => halone r hr k ((hmem k).mp hk)
      rw [Moment.after, hact] at hkept
      exact hkept
    obtain ⟨heffects, hsame, hback, hother⟩ := hpatches.undone hsorted.nodup hdata
    refine ⟨(revertAll pairs.reverse s₂).1, ?_, fun k hk => hback k ((hmem k).mpr hk), hsame,
      fun k hk => hother k fun hk' => hk ((hmem k).mp hk')⟩
    rw [endMutation, herror]
    dsimp only
    rw [heffects]

/-- A mutation writes into a result, replaces it, and writes into what came instead. It names the
entry twice, and one that is not there yet. A subscriber leaves and another one comes, the entry is
invalidated, and its request fails before the mutation does. -/
theorem failed_mutation_undone_overlapping :
    let script : Json := .obj [
      ("targets", .arr [.arr [.str "customQuery", .null], .arr [.str "customQuery", .str "b"],
        .arr [.str "customQuery", .null]]),
      ("patch", .arr [.arr [.str "/tags/0/1", .str "z"],
        .arr [.str "", .obj [("tags", .arr [.null])]], .arr [.str "/tags/0", .bool true]])]
    let m := Simulation.customMutation
    let before := [Sample.ask, Sample.ask, Sample.answer 0 ["a"]]
    let p := play {} before
    let q := play {} (before ++ [.beginMutation m script,
      .unsubscribe Sample.key true, .subscribe Simulation.customQuery (.str "b"),
      .invalidate [Sample.tag "a"], .complete Sample.key 2 (.error ())])
    p.2.dataOf Sample.key = some (Sample.result ["a"]) ∧
      q.2.dataOf Sample.key = some (.obj [("tags", .arr [.bool true])]) ∧
      ∃ request pairs s₁ s₃, p.2.beginMutation m script = .ok (request, pairs, s₁) ∧
        q.2.endMutation m script pairs (.error ()) =
          (.error (.transport "customMutation" ()), s₃, [.emit (.rolledBack Sample.key),
            .emit (.mutationFailed (.transport "customMutation" ()))]) ∧
        s₃.dataOf Sample.key = some (Sample.result ["a"]) ∧ q.2.SameButData s₃ := by
  intro script m before p q
  have hbefore : p.2.dataOf Sample.key = some (Sample.result ["a"]) := by decide
  have hkeys : (p.2.beginMutation m script).toOption.map
      (fun r => r.2.1.map (·.key)) = some [Sample.key] := by decide
  obtain ⟨_, hsome⟩ := failed_mutation_undone p.2 m script
  obtain ⟨pairs, s₁, hbegin, _, _, _, _, _, hlater⟩ := hsome _ rfl
  rw [hbegin] at hkeys
  obtain ⟨pair, rfl, hpair⟩ := List.map_eq_singleton_iff.mp (Option.some.inj hkeys)
  have hrun : Run {} q.1 q.2 := run_play _ _
  obtain ⟨s₃, hend, hdata, hsame, _⟩ :=
    hlater {} p.1 (q.1.take 4) q.2 hrun (by decide) (.error ()) _ rfl
  refine ⟨hbefore, by decide, _, [pair], s₁, s₃, hbegin, ?_, ?_, hsame⟩
  · rw [hend, ← hpair]
    rfl
  · exact (hdata Sample.key (by decide)).trans hbefore

end TagCache
