import TagCache.Proofs.DataFlow
import TagCache.Proofs.Freshness

/-!
# What is left when every mutation has failed

A mutation predicts its effect. It patches the data of entries when it begins and undoes its patches
when it fails, with the values that it found when it began, and whatever has happened since. When
all mutations have failed, the data should be what the server said last.

It is, with two exceptions. A mutation that fails before a later one at the same place puts back
its value first, and the later one then puts back the prediction of the first. And a result that
arrives while a patch is outstanding is overwritten by the undoing as if it were the patch. A patch
is undone no matter what, and knows nothing but its places; `not_rolled_back` has a run of each.

`rolled_back` says that there is no third. What carries it is a debt: undoing the outstanding
patches, the latest first, would show the result that the entry has accepted last. A mutation that
begins adds to the debt what it changes. One that fails pays its own part, out of turn but at places
apart from all that should have gone before.
-/

namespace TagCache

open Store Patch

variable {κ ε : Type}

/-! ## Outstanding mutations -/

/-- The action patches or undoes a patch without a mutation. -/
def Action.patchesAlone : Action κ ε → Bool
  | .patch .. | .revert .. => true
  | _ => false

/-- The mutation that is over with the action: when it began, and its patches. -/
def Action.ended? : Action κ ε → Option (Nat × List PatchPair)
  | .endMutation start _ _ pairs _ => some (start, pairs)
  | _ => none

/-- A mutation succeeds. -/
def Action.succeeds : Action κ ε → Bool
  | .endMutation _ m _ _ answer =>
    match mutationResult m answer with
    | .ok _ => true
    | .error _ => false
  | _ => false

/-- The mutation that begins at the moment: when it does, and its patches. -/
def Moment.begun? (m : Moment κ ε) : Option (Nat × List PatchPair) :=
  match m.action with
  | .beginMutation mutation arg =>
    match m.before.beginMutation mutation arg with
    | .ok (_, pairs, _) => some (m.time, pairs)
    | .error _ => none
  | _ => none

/-- The keys under which effects tell of a patch that was undone. -/
def undone (effects : List (Effect κ ε)) : List CacheKey :=
  effects.filterMap fun
    | .emit (.rolledBack key) => some key
    | _ => none

/-- The keys under which the moment patches data, or undoes a patch. -/
def Moment.touched (m : Moment κ ε) : List CacheKey :=
  match m.action with
  | .patch key recipe => if (m.before.patch key recipe).isSome then [key] else []
  | .revert pair => undone (m.before.revert pair).2
  | .beginMutation .. => m.begun?.toList.flatMap fun a => a.2.map fun pair => pair.key
  | .endMutation _ _ _ pairs _ =>
    if m.action.succeeds then [] else undone (revertAll pairs.reverse m.before).2
  | _ => []

/-- The mutations that have begun and are not over, the latest first. -/
def outstanding : List (Moment κ ε) → List (Nat × List PatchPair)
  | [] => []
  | m :: past =>
    m.begun?.toList ++
      (outstanding past).filter fun a => m.action.ended?.map (fun b => b.1) ≠ some a.1

/-- What undoes the outstanding patches of an entry, the latest patch first. -/
def undos (past : List (Moment κ ε)) (key : CacheKey) : List Patch :=
  (outstanding past).flatMap fun a => undosOf key a.2.reverse

/-- The result that an entry accepts at the moment, with the birth of the entry. -/
def Moment.accepts? (m : Moment κ ε) (key : CacheKey) : Option (Nat × Json) :=
  match m.action with
  | .complete k id answer =>
    match m.before.find? k with
    | none => none
    | some e =>
      if k = key ∧ e.inFlight = some id ∧ 0 < e.subscribers then
        match outcome e answer with
        | .ok (value, _) => some (e.birth, value)
        | .error _ => none
      else none
  | _ => none

/-- The result that an entry has accepted last. -/
def accepted (past : List (Moment κ ε)) (key : CacheKey) (birth : Nat) : Option Json :=
  past.findSome? fun m => (m.accepts? key).bind fun r => if r.1 = birth then some r.2 else none

/-! ## Well-behaved pasts -/

/-- Patches are made and undone by mutations only. A mutation that is over was outstanding, and
undoes the patches that it made. -/
def ByMutations (past : List (Moment κ ε)) : Prop :=
  Throughout (fun m earlier =>
    m.action.patchesAlone = false ∧ ∀ a ∈ m.action.ended?, a ∈ outstanding earlier) past

/-- No mutation has succeeded. -/
def NoneSucceeds (past : List (Moment κ ε)) : Prop := ∀ m ∈ past, m.action.succeeds = false

/-- Whenever a mutation was over, every outstanding one that began later had patched the entry at
places apart. -/
def EndsApart (key : CacheKey) (past : List (Moment κ ε)) : Prop :=
  Throughout (fun m earlier => ∀ a ∈ m.action.ended?, ∀ b ∈ outstanding earlier, a.1 < b.1 →
    ∀ p ∈ undosOf key a.2, ∀ q ∈ undosOf key b.2, p.Apart q) past

/-- Whenever the entry accepted a result, undoing the outstanding patches would have left it as it
was. -/
def AcceptsClean (key : CacheKey) (past : List (Moment κ ε)) : Prop :=
  Throughout (fun m earlier => ∀ r ∈ m.accepts? key, applyAll (undos earlier key) r.2 = r.2) past

instance (past : List (Moment κ ε)) : Decidable (ByMutations past) :=
  inferInstanceAs (Decidable (Throughout _ _))

instance (past : List (Moment κ ε)) : Decidable (NoneSucceeds past) :=
  inferInstanceAs (Decidable (∀ _ ∈ _, _))

instance (key : CacheKey) (past : List (Moment κ ε)) : Decidable (EndsApart key past) :=
  inferInstanceAs (Decidable (Throughout _ _))

instance (key : CacheKey) (past : List (Moment κ ε)) : Decidable (AcceptsClean key past) :=
  inferInstanceAs (Decidable (Throughout _ _))

section

variable {past : List (Moment κ ε)} {m : Moment κ ε} {key : CacheKey}

/-! ### Times -/

theorem Moment.begun?_time {a : Nat × List PatchPair} (h : m.begun? = some a) : a.1 = m.time := by
  unfold Moment.begun? at h
  split at h
  · split at h
    · rw [← Option.some.inj h]
    · exact absurd h (by simp)
  · exact absurd h (by simp)

/-- A mutation that begins has a request, and has patched what it could. -/
theorem Moment.begun?_eq_some {a : Nat × List PatchPair} (h : m.begun? = some a) :
    ∃ (α ρ : Type) (mutation : Mutation κ α ρ) (arg : α) (request : Request) (s' : Store κ ε),
      m.action = .beginMutation mutation arg ∧
        m.before.beginMutation mutation arg = .ok (request, a.2, s') := by
  unfold Moment.begun? at h
  split at h
  · rename_i mutation arg haction
    split at h
    · rename_i request pairs s' hbegin
      obtain rfl := Option.some.inj h
      exact ⟨_, _, mutation, arg, request, s', haction, hbegin⟩
    · exact absurd h (by simp)
  · exact absurd h (by simp)

/-- What is outstanding began at a moment of the past. -/
theorem mem_outstanding {a : Nat × List PatchPair} (h : a ∈ outstanding past) :
    ∃ r ∈ past, r.time = a.1 := by
  induction past with
  | nil => exact absurd h (by simp [outstanding])
  | cons m past ih =>
      rcases List.mem_append.mp h with h | h
      · exact ⟨m, List.mem_cons_self, (Moment.begun?_time (Option.mem_toList.mp h)).symm⟩
      · obtain ⟨r, hr, htime⟩ := ih (List.mem_filter.mp h).1
        exact ⟨r, List.mem_cons_of_mem _ hr, htime⟩

/-- No two mutations began at one time; the latest comes first. -/
theorem pairwise_outstanding (h : past.Pairwise fun r r' => r'.time < r.time) :
    (outstanding past).Pairwise fun a b => b.1 < a.1 := by
  induction h with
  | nil => exact .nil
  | @cons m past hlt _ ih =>
      refine List.pairwise_append.mpr ⟨?_, ih.filter _, ?_⟩
      · cases m.begun? with
        | none => exact .nil
        | some a => exact List.pairwise_singleton _ a
      · intro a ha b hb
        obtain ⟨r, hr, htime⟩ := mem_outstanding (List.mem_filter.mp hb).1
        rw [Moment.begun?_time (Option.mem_toList.mp ha), ← htime]
        exact hlt r hr

/-! ### Beginnings and ends -/

theorem outstanding_begun (h : m.action.ended? = none) :
    outstanding (m :: past) = m.begun?.toList ++ outstanding past := by
  rw [outstanding, h]
  refine congrArg _ (List.filter_eq_self.mpr fun a _ => ?_)
  simp

theorem undos_quiet (hbegun : m.begun? = none) (hended : m.action.ended? = none) :
    undos (m :: past) key = undos past key := by
  unfold undos
  rw [outstanding_begun hended, hbegun]
  rfl

/-- The mutation that is over leaves the list, and those on either side stay. -/
theorem outstanding_ended (hbegun : m.begun? = none) {a : Nat × List PatchPair}
    (hended : m.action.ended? = some a) {later earlier : List (Nat × List PatchPair)}
    (hsplit : outstanding past = later ++ a :: earlier)
    (hordered : (outstanding past).Pairwise fun a b => b.1 < a.1) :
    outstanding (m :: past) = later ++ earlier ∧ ∀ b ∈ later, a.1 < b.1 := by
  rw [hsplit] at hordered
  obtain ⟨_, htail, hlater⟩ := List.pairwise_append.mp hordered
  have hearlier := (List.pairwise_cons.mp htail).1
  refine ⟨?_, fun b hb => hlater b hb a List.mem_cons_self⟩
  rw [outstanding, hbegun, hended, hsplit, List.filter_append, List.filter_cons_of_neg (by simp),
    Option.toList_none, List.nil_append]
  refine congrArg₂ _ (List.filter_eq_self.mpr fun b hb => ?_)
    (List.filter_eq_self.mpr fun b hb => ?_)
  · have hne : a.1 ≠ b.1 := Nat.ne_of_lt (hlater b hb a List.mem_cons_self)
    exact decide_eq_true fun heq => hne (Option.some.inj heq)
  · have hne : a.1 ≠ b.1 := (Nat.ne_of_lt (hearlier b hb)).symm
    exact decide_eq_true fun heq => hne (Option.some.inj heq)

/-- A mutation that is over may undo its patches out of turn, if those that should have been undone
before are at places apart. -/
theorem undos_ended (hbegun : m.begun? = none) {a : Nat × List PatchPair}
    (hordered : (outstanding past).Pairwise fun a b => b.1 < a.1)
    (hended : m.action.ended? = some a) (ha : a ∈ outstanding past)
    (hapart : ∀ b ∈ outstanding past, a.1 < b.1 →
      ∀ p ∈ undosOf key a.2, ∀ q ∈ undosOf key b.2, p.Apart q) (d : Json) :
    applyAll (undos (m :: past) key) (applyAll (undosOf key a.2.reverse) d) =
      applyAll (undos past key) d := by
  obtain ⟨later, earlier, hsplit⟩ := List.append_of_mem ha
  obtain ⟨hrest, hlater⟩ := outstanding_ended hbegun hended hsplit hordered
  unfold undos
  rw [hrest, hsplit, List.flatMap_append, List.flatMap_append, List.flatMap_cons,
    applyAll_append, applyAll_append, applyAll_append]
  -- what is left is to exchange the patches of `a` with the later ones
  refine congrArg _ (applyAll_comm (fun q hq p hp => ?_) d)
  obtain ⟨b, hb, hq⟩ := List.mem_flatMap.mp hq
  refine (hapart b ?_ (hlater b hb) p ?_ q ?_).symm
  · rw [hsplit]; exact List.mem_append_left _ hb
  · exact mem_undosOf_reverse.mp hp
  · exact mem_undosOf_reverse.mp hq

/-! ### Accepted results -/

theorem accepted_quiet (h : m.accepts? key = none) (birth : Nat) :
    accepted (m :: past) key birth = accepted past key birth := by
  unfold accepted
  rw [List.findSome?_cons, h]
  rfl

theorem accepted_now {birth : Nat} {value : Json} (h : m.accepts? key = some (birth, value)) :
    accepted (m :: past) key birth = some value := by
  unfold accepted
  rw [List.findSome?_cons, h, Option.bind_some, if_pos rfl]

/-- What is accepted is the result in an answer that the entry takes up. -/
theorem accepts?_eq_some {birth : Nat} {value : Json} (h : m.accepts? key = some (birth, value)) :
    ∃ id answer e provided, m.TakesUp key birth id answer ∧ m.before.find? key = some e ∧
      outcome e answer = .ok (value, provided) := by
  unfold Moment.accepts? at h
  split at h
  · rename_i k id answer haction
    split at h
    · exact absurd h (by simp)
    · rename_i e he
      split at h
      · rename_i hcond
        obtain ⟨rfl, hf, hsubs⟩ := hcond
        split at h
        · rename_i v provided ho
          obtain ⟨rfl, rfl⟩ := Prod.mk.inj (Option.some.inj h)
          exact ⟨id, answer, e, provided, ⟨haction, e, he, rfl, hf, hsubs⟩, he, ho⟩
        · exact absurd h (by simp)
      · exact absurd h (by simp)
  · exact absurd h (by simp)

/-- An entry that is not there yet has accepted nothing. -/
theorem accepted_unborn {birth : Nat}
    (h : ∀ r ∈ past, ∀ e, r.before.find? key = some e → e.birth ≠ birth) :
    accepted past key birth = none := by
  unfold accepted
  rw [List.findSome?_eq_none_iff]
  intro r hr
  cases ha : r.accepts? key with
  | none => rfl
  | some v =>
      obtain ⟨_, _, _, _, ⟨_, e, he, hbirth, _⟩, _⟩ := accepts?_eq_some ha
      rw [Option.bind_some, if_neg (hbirth ▸ h r hr e he)]

end

/-! ## Undoing that is told of -/

section

variable {s : Store κ ε} {key : CacheKey}

theorem undone_append (effects effects' : List (Effect κ ε)) :
    undone (effects ++ effects') = undone effects ++ undone effects' :=
  List.filterMap_append

/-- A patch that is undone is told of; otherwise the data stays. -/
theorem shown_revert_of_not_mem {pair : PatchPair} (h : key ∉ undone (s.revert pair).2) :
    (s.revert pair).1.shown key = s.shown key := by
  rcases revert_cases s pair with ⟨heq, _⟩ | ⟨e, _, new, _, he, _, _, heq⟩ | ⟨_, _, _, _, _, _, heq⟩
  · rw [heq]
  · rw [heq] at h ⊢
    have hne : key ≠ pair.key := by simpa [undone] using h
    exact (shown_setData he new key).trans (if_neg hne)
  · rw [heq]
    exact shown_beginFetch s pair.key key

theorem shown_revertAll_of_not_mem {pairs : List PatchPair}
    (h : key ∉ undone (revertAll pairs s).2) : (revertAll pairs s).1.shown key = s.shown key := by
  induction pairs generalizing s with
  | nil => rfl
  | cons pair pairs ih =>
      unfold revertAll at h ⊢
      dsimp only at h ⊢
      rw [undone_append, List.mem_append, not_or] at h
      exact (ih h.2).trans (shown_revert_of_not_mem h.1)

end

/-! ## The debt -/

/-- Undoing the outstanding patches, the latest first, would show what the entry under the key has
accepted last. -/
def Owes (past : List (Moment κ ε)) (s : Store κ ε) (key : CacheKey) : Prop :=
  ∀ birth data, s.shown key = some (birth, data) →
    data.map (applyAll (undos past key)) = accepted past key birth

section

variable [DecidableEq κ] {past : List (Moment κ ε)} {m : Moment κ ε} {key : CacheKey}

/-- A moment that neither patches nor answers leaves the debt, unless the entry goes. -/
theorem owes_kept (h : Owes past m.before key) (hbegun : m.begun? = none)
    (hended : m.action.ended? = none) (haccepts : m.accepts? key = none)
    (hshown : m.after.shown key = m.before.shown key ∨ m.after.shown key = none) :
    Owes (m :: past) m.after key := by
  intro birth data hdata
  rw [undos_quiet hbegun hended, accepted_quiet haccepts]
  rcases hshown with hsame | hgone
  · exact h birth data (hsame ▸ hdata)
  · rw [hgone] at hdata
    exact absurd hdata (by simp)

/-- A new entry has accepted nothing and owes nothing. -/
theorem owes_new (hc : Chronicle past m.before) (hbegun : m.begun? = none)
    (hended : m.action.ended? = none) (haccepts : m.accepts? key = none)
    (hshown : m.after.shown key = some (m.before.created, none)) :
    Owes (m :: past) m.after key := by
  intro birth data hdata
  rw [hshown] at hdata
  obtain ⟨rfl, rfl⟩ := Prod.mk.inj (Option.some.inj hdata)
  rw [undos_quiet hbegun hended, accepted_quiet haccepts]
  refine (accepted_unborn fun r hr e he => ?_).symm
  exact Nat.ne_of_lt (hc.births r hr key e he)

/-- A mutation that begins owes its patches before all others. -/
theorem owes_begun (h : Owes past m.before key) {start : Nat} {pairs : List PatchPair}
    (hbegun : m.begun? = some (start, pairs)) (hended : m.action.ended? = none)
    (haccepts : m.accepts? key = none)
    (hshown : m.before.shown key = (m.after.shown key).map (patched (undosOf key pairs.reverse))) :
    Owes (m :: past) m.after key := by
  intro birth data hdata
  rw [hdata, Option.map_some, patched_mk] at hshown
  have hundos : undos (m :: past) key = undosOf key pairs.reverse ++ undos past key := by
    unfold undos
    rw [outstanding_begun hended, hbegun]
    rfl
  rw [accepted_quiet haccepts, ← h birth _ hshown, hundos, Option.map_map]
  exact congrArg (fun f => data.map f) (funext (applyAll_append _ _))

/-- A mutation that fails pays what it owes. -/
theorem owes_ended (h : Owes past m.before key) (hbegun : m.begun? = none)
    (haccepts : m.accepts? key = none) {a : Nat × List PatchPair}
    (hordered : (outstanding past).Pairwise fun a b => b.1 < a.1)
    (hended : m.action.ended? = some a) (ha : a ∈ outstanding past)
    (hapart : ∀ b ∈ outstanding past, a.1 < b.1 →
      ∀ p ∈ undosOf key a.2, ∀ q ∈ undosOf key b.2, p.Apart q)
    (hshown : m.after.shown key = (m.before.shown key).map (patched (undosOf key a.2.reverse))) :
    Owes (m :: past) m.after key := by
  intro birth data hdata
  rw [hdata] at hshown
  obtain ⟨⟨birth', before⟩, hbefore, hpatched⟩ := Option.map_eq_some_iff.mp hshown.symm
  obtain ⟨rfl, rfl⟩ := Prod.mk.inj hpatched
  rw [accepted_quiet haccepts, ← h _ before hbefore, Option.map_map]
  exact congrArg (fun f => before.map f) (funext (undos_ended hbegun hordered hended ha hapart))

/-- What the entry accepts is what it owes to show, if no patch would be undone in it. -/
theorem owes_accepted (hbegun : m.begun? = none) (hended : m.action.ended? = none) {birth : Nat}
    {value : Json} (haccepts : m.accepts? key = some (birth, value))
    (hclean : applyAll (undos past key) value = value)
    (hshown : m.after.shown key = some (birth, some value)) : Owes (m :: past) m.after key := by
  intro birth' data hdata
  rw [hshown] at hdata
  obtain ⟨rfl, rfl⟩ := Prod.mk.inj (Option.some.inj hdata)
  rw [undos_quiet hbegun hended, accepted_now haccepts, Option.map_some, hclean]

/-- An answer is accepted by the entry that waits for it, or nothing is seen of it. -/
theorem accepts?_complete (key : CacheKey) {k : CacheKey} {id : Nat} {answer : Except ε Json}
    (haction : m.action = .complete k id answer) :
    (m.accepts? key = none ∧ m.after.shown key = m.before.shown key) ∨
      ∃ birth value, m.accepts? key = some (birth, value) ∧
        m.after.shown key = some (birth, some value) := by
  have hafter : m.after = (m.before.completeFetch k id answer).1 := by
    unfold Moment.after
    rw [haction]
    rfl
  rw [hafter]
  unfold Moment.accepts?
  rw [haction]
  dsimp only
  rcases completeFetch_cases m.before k id answer with
    ⟨heq, hidle⟩ | ⟨e, he, hf, hsubs, heq⟩ | ⟨e, he, hf, hsubs, ha⟩
  · refine Or.inl ⟨?_, by rw [heq]⟩
    cases he : m.before.find? k with
    | none => rfl
    | some e => exact if_neg fun hcond => hidle e he hcond.2.1
  · refine Or.inl ⟨?_, ?_⟩
    · rw [he]
      exact if_neg fun hcond => by omega
    · rw [heq]
      exact shown_setEntry_same he (discard { e with inFlight := none }) rfl rfl key
  · rw [he, ha.shown key]
    dsimp only
    by_cases hk : key = k
    · rw [if_pos hk, if_pos ⟨hk.symm, hf, hsubs⟩]
      cases outcome e answer with
      | ok r => exact Or.inr ⟨e.birth, r.1, rfl, rfl⟩
      | error _ =>
          refine Or.inl ⟨rfl, ?_⟩
          rw [hk, shown_of_find? he]
          rfl
    · rw [if_neg hk, if_neg fun hcond => hk hcond.1.symm]
      exact Or.inl ⟨rfl, rfl⟩

/-- Unless an entry is touched or accepts a result, it shows what it showed, is gone, or is new. -/
theorem shown_of_untouched (haccepts : m.accepts? key = none) (htouched : key ∉ m.touched) :
    m.after.shown key = m.before.shown key ∨ m.after.shown key = none ∨
      m.before.shown key = none ∧ m.after.shown key = some (m.before.created, none) := by
  obtain ⟨time, s, a⟩ := m
  cases a with
  | subscribe q arg =>
      cases hs : s.subscribe q arg with
      | error _ => exact Or.inl (by simp only [Moment.after, act, hs])
      | ok r =>
          obtain ⟨view, s', effects⟩ := r
          simp only [Moment.after, act, hs]
          rcases shown_subscribe hs key with hsame | hnew
          · exact Or.inl hsame
          · exact Or.inr (Or.inr hnew)
  | unsubscribe k hasTimer =>
      rcases shown_unsubscribe s k hasTimer key with hsame | hgone
      · exact Or.inl hsame
      · exact Or.inr (Or.inl hgone)
  | invalidate tags => exact Or.inl ((invalidates_invalidateTags s tags).shown key)
  | refetch k => exact Or.inl (shown_refetch s k key)
  | patch k recipe =>
      cases hs : s.patch k recipe with
      | none => exact Or.inl (by simp only [Moment.after, act, hs])
      | some r =>
          obtain ⟨pair, s'⟩ := r
          obtain ⟨_, _, _, he, _, _, _, _, _, rfl⟩ := patch_eq_some hs
          have hne : key ≠ k := by simpa [Moment.touched, hs] using htouched
          simp only [Moment.after, act, hs]
          exact Or.inl ((shown_setData he _ key).trans (if_neg hne))
  | revert pair => exact Or.inl (shown_revert_of_not_mem htouched)
  | beginMutation mutation arg =>
      cases hs : s.beginMutation mutation arg with
      | error _ => exact Or.inl (by simp only [Moment.after, act, hs])
      | ok r =>
          obtain ⟨request, pairs, s'⟩ := r
          have hne : ∀ pair ∈ pairs.reverse, pair.key ≠ key := by
            simpa [Moment.touched, Moment.begun?, hs] using htouched
          have hshown := shown_beginMutation hs key
          rw [undosOf_eq_nil hne, patched_nil, Option.map_id_fun, id_eq] at hshown
          simp only [Moment.after, act, hs]
          exact Or.inl hshown.symm
  | endMutation start mutation arg pairs answer =>
      simp only [Moment.after, act, endMutation]
      cases hr : mutationResult mutation answer with
      | ok response => exact Or.inl ((invalidates_invalidateTags s _).shown key)
      | error error =>
          refine Or.inl (shown_revertAll_of_not_mem ?_)
          simpa [Moment.touched, Action.succeeds, hr] using htouched
  | evict k generation =>
      rcases shown_evict s k generation key with hsame | hgone
      · exact Or.inl hsame
      · exact Or.inr (Or.inl hgone)
  | complete k id answer =>
      rcases accepts?_complete key (m := ⟨time, s, .complete k id answer⟩) rfl with
        ⟨_, hsame⟩ | ⟨_, _, hnow, _⟩
      · exact Or.inl hsame
      · rw [haccepts] at hnow
        exact absurd hnow (by simp)

/-- A moment that does not touch an entry leaves the debt, whatever else it does. -/
theorem owes_untouched (h : Owes past m.before key) (hc : Chronicle past m.before)
    (hbegun : m.begun? = none) (hended : m.action.ended? = none) (haccepts : m.accepts? key = none)
    (htouched : key ∉ m.touched) : Owes (m :: past) m.after key := by
  rcases shown_of_untouched haccepts htouched with hsame | hgone | ⟨_, hnew⟩
  · exact owes_kept h hbegun hended haccepts (Or.inl hsame)
  · exact owes_kept h hbegun hended haccepts (Or.inr hgone)
  · exact owes_new hc hbegun hended haccepts hnew

/-- **Every moment keeps the debt**, if the mutations are well-behaved and none succeeds. -/
theorem owes_step (h : Owes past m.before key) (hc : Chronicle past m.before)
    (hordered : past.Pairwise fun r r' => r'.time < r.time)
    (hmut : m.action.patchesAlone = false ∧ ∀ a ∈ m.action.ended?, a ∈ outstanding past)
    (hfails : m.action.succeeds = false)
    (hapart : ∀ a ∈ m.action.ended?, ∀ b ∈ outstanding past, a.1 < b.1 →
      ∀ p ∈ undosOf key a.2, ∀ q ∈ undosOf key b.2, p.Apart q)
    (hclean : ∀ r ∈ m.accepts? key, applyAll (undos past key) r.2 = r.2) :
    Owes (m :: past) m.after key := by
  obtain ⟨time, s, a⟩ := m
  cases a with
  | patch k recipe => exact Bool.noConfusion hmut.1
  | revert pair => exact Bool.noConfusion hmut.1
  | beginMutation mutation arg =>
      cases hs : s.beginMutation mutation arg with
      | error _ =>
          have hbegun : (⟨time, s, .beginMutation mutation arg⟩ : Moment κ ε).begun? = none := by
            simp only [Moment.begun?, hs]
          exact owes_untouched h hc hbegun rfl rfl (by rw [Moment.touched, hbegun]; simp)
      | ok r =>
          obtain ⟨request, pairs, s'⟩ := r
          have hafter : (⟨time, s, .beginMutation mutation arg⟩ : Moment κ ε).after = s' := by
            simp only [Moment.after, act, hs]
          refine owes_begun h (show _ = some (time, pairs) from ?_) rfl rfl ?_
          · simp only [Moment.begun?, hs]
          · rw [hafter]
            exact shown_beginMutation hs key
  | endMutation start mutation arg pairs answer =>
      -- it has failed, so it undoes its patches
      obtain ⟨error, herror⟩ : ∃ error, mutationResult mutation answer = .error error := by
        cases hr : mutationResult mutation answer with
        | ok _ => rw [Action.succeeds, hr] at hfails; exact Bool.noConfusion hfails
        | error error => exact ⟨error, rfl⟩
      refine owes_ended h rfl rfl (pairwise_outstanding hordered) rfl (hmut.2 _ rfl)
        (hapart _ rfl) ?_
      have hafter : (⟨time, s, .endMutation start mutation arg pairs answer⟩ : Moment κ ε).after =
          (revertAll pairs.reverse s).1 := by
        simp only [Moment.after, act, endMutation, herror]
      rw [hafter]
      exact shown_revertAll pairs.reverse s key
  | complete k id answer =>
      rcases accepts?_complete key (m := ⟨time, s, .complete k id answer⟩) rfl with
        ⟨haccepts, _⟩ | ⟨birth, value, haccepts, hshown⟩
      · exact owes_untouched h hc rfl rfl haccepts (by simp [Moment.touched])
      · exact owes_accepted rfl rfl haccepts (hclean _ haccepts) hshown
  | _ => exact owes_untouched h hc rfl rfl rfl (by simp [Moment.touched])

/-- The debt of a run. -/
theorem owes_run {config : StoreConfig} {s : Store κ ε} (h : Run config past s)
    (hmut : ByMutations past) (hfails : NoneSucceeds past) (hapart : EndsApart key past)
    (hclean : AcceptsClean key past) : Owes past s key := by
  induction h with
  | init => exact fun birth data hdata => absurd hdata (by simp [shown])
  | tail hr a ih =>
      have hdebt := ih hmut.2 (fun r hr' => hfails r (List.mem_cons_of_mem _ hr')) hapart.2 hclean.2
      exact owes_step hdebt (chronicle_run hr) (pairwise_time hr) hmut.1
        (hfails _ List.mem_cons_self) hapart.1 hclean.1

/-- **When every mutation has failed, an entry shows what the server said last.** Patches are made
by mutations only, none of them has succeeded, and none is outstanding. Whenever one failed, later
ones that were still outstanding had patched the entry at places apart; whenever a result came
beside patches, it was what undoing them would leave. Then the data of the entry is the result that
it has accepted last, and there is none if it has accepted none. -/
theorem rolled_back {config : StoreConfig} {s : Store κ ε} (h : Run config past s)
    (hmut : ByMutations past) (hfails : NoneSucceeds past) (hapart : EndsApart key past)
    (hclean : AcceptsClean key past) (hover : outstanding past = []) {e : Entry κ ε}
    (he : s.find? key = some e) : e.snapshot.data = accepted past key e.birth := by
  have hdebt := owes_run h hmut hfails hapart hclean e.birth _ (shown_of_find? he)
  have hnone : undos past key = [] := by
    unfold undos
    rw [hover]
    rfl
  -- nothing is left to undo
  rw [← hdebt, hnone]
  cases e.snapshot.data with
  | none => rfl
  | some d => rfl

end

/-! ## Two mutations of one result -/

namespace Sample

open Portal Simulation

/-- A result with two numbers. -/
def row (a b : Int) : Json := .obj [("a", .int a), ("b", .int b)]

/-- The request `id` is answered with a row. -/
def answerRow (id : Nat) (a b : Int) : Action TagKind Unit := .complete key id (.ok (row a b))

/-- A mutation that predicts a number at a place of the row. -/
def prediction (path : String) (value : Int) : Json :=
  .obj [("targets", .arr [.arr [.str "customQuery", .null]]),
    ("patch", .arr [.arr [.str path, .int value]])]

def begin (path : String) (value : Int) : Action TagKind Unit :=
  .beginMutation customMutation (prediction path value)

/-- The mutation that began at `start` fails, and puts back the number that it found. -/
def fail (start : Nat) (path : String) (value found : Int) : Action TagKind Unit :=
  .endMutation start customMutation (prediction path value)
    [⟨key, .replace path (.int value), .replace path (.int found)⟩] (.error ())

/-- Two mutations of one number fail in the order in which they began. -/
def outOfOrder : List (Action TagKind Unit) :=
  [ask, answerRow 0 0 0, begin "/a" 1, begin "/a" 2, fail 2 "/a" 1 0, fail 3 "/a" 2 1]

/-- A row arrives while a mutation is outstanding. -/
def overResult : List (Action TagKind Unit) :=
  [ask, answerRow 0 0 0, begin "/a" 1, .refetch key, answerRow 1 5 0, fail 2 "/a" 1 0]

end Sample

/-- Two mutations of different numbers fail in the order in which they began. In between the row
was requested once more. -/
theorem rolled_back_row :
    let p := play {} [Sample.ask, Sample.answerRow 0 0 0, Sample.begin "/a" 1, Sample.begin "/b" 2,
      .refetch Sample.key, Sample.answerRow 1 0 0, Sample.fail 2 "/a" 1 0, Sample.fail 3 "/b" 2 0]
    ByMutations p.1 ∧ NoneSucceeds p.1 ∧ EndsApart Sample.key p.1 ∧ AcceptsClean Sample.key p.1 ∧
      outstanding p.1 = [] ∧ ∃ e, p.2.find? Sample.key = some e ∧
        accepted p.1 Sample.key e.birth = some (Sample.row 0 0) ∧
          e.snapshot.data = accepted p.1 Sample.key e.birth := by
  intro p
  have hmut : ByMutations p.1 := by decide +kernel
  have hfails : NoneSucceeds p.1 := by decide +kernel
  have hapart : EndsApart Sample.key p.1 := by decide +kernel
  have hclean : AcceptsClean Sample.key p.1 := by decide +kernel
  have hover : outstanding p.1 = [] := by decide +kernel
  exact ⟨hmut, hfails, hapart, hclean, hover, _, rfl, by decide +kernel,
    rolled_back (run_play _ _) hmut hfails hapart hclean hover rfl⟩

/-- Of two mutations the second puts back what the first has predicted. And one that was overtaken
by a result puts back what it found before. -/
theorem not_rolled_back :
    (let p := play {} Sample.outOfOrder
     ByMutations p.1 ∧ NoneSucceeds p.1 ∧ outstanding p.1 = [] ∧
      ∃ e, p.2.find? Sample.key = some e ∧ e.snapshot.data = some (Sample.row 1 0) ∧
        accepted p.1 Sample.key e.birth = some (Sample.row 0 0)) ∧
    (let p := play {} Sample.overResult
     ByMutations p.1 ∧ NoneSucceeds p.1 ∧ outstanding p.1 = [] ∧
      ∃ e, p.2.find? Sample.key = some e ∧ e.snapshot.data = some (Sample.row 0 0) ∧
        accepted p.1 Sample.key e.birth = some (Sample.row 5 0)) := by
  refine ⟨⟨?_, ?_, ?_, _, rfl, ?_, ?_⟩, ?_, ?_, ?_, _, rfl, ?_, ?_⟩
  all_goals decide +kernel

end TagCache
