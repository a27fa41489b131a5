import Mathlib.Algebra.Ring.Nat
import TagCache.Proofs.FullScan
import TagCache.Proofs.Provenance
import TagCache.Proofs.WellFormed

/-!
# No request without a trigger

A store starts requests by itself: an entry that was hit while it waited asks for its request once
more when the answer comes. So it could go round in circles, fetching, being hit and fetching again,
and what bounds it is not a number that an operation looks at.

Every request can be attributed to a trigger. A trigger for a key is a call of its query, a call to
fetch it again, or an invalidation that hits its entry. A request that no trigger starts at its own
moment follows up an answer, and is attributed to a hit that came while the answer was on its way.
The invariant is about the hits that are still to be followed up: while an entry is flagged, there
has been a hit since when nothing was started for its key. Every request is then the first one since
its trigger, and no trigger has two.
-/

namespace TagCache

open Store

variable {κ ε : Type}

/-! ## Triggers -/

/-- To undo the patch is to fetch the entry again: it has data, and the data does not take the
inverse. -/
def Store.refuses (s : Store κ ε) (pair : PatchPair) : Bool :=
  match (s.get? pair.key).bind (·.data) with
  | none => false
  | some data => match pair.inverse.apply data with
    | .ok _ => false
    | .error _ => true

/-- How many of the patches are for the key and cannot be undone, each at its turn. -/
def Store.refusals (key : CacheKey) : List PatchPair → Store κ ε → Nat
  | [], _ => 0
  | pair :: pairs, s =>
    (if pair.key = key && s.refuses pair then 1 else 0) + refusals key pairs (s.revert pair).1

/-- The entry under the key is to be requested again once it has the answer that it waits for. -/
def Store.flagged (s : Store κ ε) (key : CacheKey) : Bool :=
  (s.find? key).any fun e => e.refetchAfter

namespace Moment

/-- Calls of a query with this key. -/
def subscribes (m : Moment κ ε) (key : CacheKey) : Nat :=
  match m.action with
  | .subscribe q arg => if (q.key arg).toOption = some key then 1 else 0
  | _ => 0

/-- Calls to fetch the key again, those for patches that cannot be undone among them. -/
def refetches (m : Moment κ ε) (key : CacheKey) : Nat :=
  match m.action with
  | .refetch k => if k = key then 1 else 0
  | .revert pair => refusals key [pair] m.before
  | .endMutation _ mutation _ pairs answer =>
    match mutationResult mutation answer with
    | .ok _ => 0
    | .error _ => refusals key pairs.reverse m.before
  | _ => 0

variable [DecidableEq κ]

/-- Invalidations of a tag that the entry under the key provides. -/
def strikes (m : Moment κ ε) (key : CacheKey) : Nat :=
  match m.before.find? key with
  | none => 0
  | some e => if m.action.invalidated.any (e.tags.contains ·) then 1 else 0

/-- The triggers for a key. -/
def triggers (m : Moment κ ε) (key : CacheKey) : Nat :=
  m.subscribes key + m.refetches key + m.strikes key

end Moment

/-- The requests that have been started for a key. -/
def requestsFor [DecidableEq κ] (key : CacheKey) (past : List (Moment κ ε)) : List Errand :=
  (started past).filter fun x => x.key = key

/-! ## What operations send -/

namespace Store

variable {s s' : Store κ ε} {key : CacheKey} {effects : List (Effect κ ε)} {f : Fetch}

theorem key_of_beginFetch (h : f ∈ sends (s.beginFetch key).2) : f.key = key := by
  rcases beginFetch_cases s key with ⟨heq, _⟩ | ⟨e, _, _, heq⟩
  · rw [heq] at h
    exact absurd h (by simp [sends])
  · rw [heq] at h
    rw [List.mem_singleton.mp h]

theorem key_of_refetch (h : f ∈ sends (s.refetch key).2.2) : f.key = key := by
  unfold refetch at h
  split at h
  · exact key_of_beginFetch h
  · exact absurd h (by simp [sends])

theorem key_of_join {e : Entry κ ε} (h : f ∈ sends (s.join key e).2) : f.key = key := by
  unfold join at h
  dsimp only at h
  split at h
  · exact key_of_beginFetch h
  · exact absurd h (by simp [sends])

theorem key_of_subscribe_sends {α ρ : Type} {q : Query κ α ρ} {arg : α} {view : Subscription ρ}
    (hs : s.subscribe q arg = .ok (view, s', effects)) (h : f ∈ sends effects) :
    f.key = view.key := by
  rcases subscribe_join hs with ⟨e, _, hjoin⟩ | ⟨_, request, _, hjoin⟩
  · exact key_of_join (s := s) (e := e) (by rw [hjoin]; exact h)
  · exact key_of_join (s := s.add view.key q.name request (rawTags q arg))
      (e := .new q.name request (rawTags q arg) s.created) (by rw [hjoin]; exact h)

/-- Undoing a patch sends a request only if the patch cannot be undone. -/
theorem refused_of_revert {pair : PatchPair} (h : f ∈ sends (s.revert pair).2) :
    f.key = pair.key ∧ s.refuses pair = true := by
  rcases revert_cases s pair with
    ⟨heq, _⟩ | ⟨_, _, _, _, _, _, _, heq⟩ | ⟨e, old, error, he, hold, happly, heq⟩
  · rw [heq] at h
    exact absurd h (by simp [sends])
  · rw [heq] at h
    exact absurd h (by simp [sends])
  · rw [heq] at h
    refine ⟨key_of_beginFetch h, ?_⟩
    unfold refuses get?
    rw [he, Option.map_some, Option.bind_some, hold]
    dsimp only
    rw [happly]

theorem refused_of_revertAll {pairs : List PatchPair} (h : f ∈ sends (revertAll pairs s).2) :
    0 < refusals f.key pairs s := by
  induction pairs generalizing s with
  | nil => exact absurd h (by simp [revertAll, sends])
  | cons pair pairs ih =>
      unfold revertAll at h
      dsimp only at h
      rw [sends_append] at h
      unfold refusals
      rcases List.mem_append.mp h with h | h
      · obtain ⟨hkey, hrefuses⟩ := refused_of_revert h
        rw [if_pos (by rw [hkey, hrefuses]; simp)]
        exact Nat.lt_of_lt_of_le Nat.one_pos (Nat.le_add_right _ _)
      · exact Nat.lt_of_lt_of_le (ih h) (Nat.le_add_left _ _)

variable [DecidableEq κ]

/-- An invalidation sends requests for entries that it hits. -/
theorem hit_of_invalidateTags {tags : List (Tag κ)} (h : f ∈ sends (s.invalidateTags tags).2) :
    f.key ∈ s.hits tags := by
  by_contra hmiss
  have hsame : (s.invalidateTags tags).1.flight f.key = s.flight f.key := by
    unfold flight
    rw [(invalidates_invalidateTags s tags).other f.key hmiss]
  have hnil := (proceeds_invalidateTags s tags).dispatches.filter_eq_nil hsame
  exact absurd (List.mem_filter.mpr ⟨h, decide_eq_true rfl⟩) (hnil ▸ List.not_mem_nil)

omit [DecidableEq κ] in
theorem flagged_of_followUp (h : f ∈ sends (s.followUp key).2) :
    f.key = key ∧ ∃ e, s.find? key = some e ∧ e.refetchAfter = true := by
  unfold followUp at h
  cases he : s.find? key with
  | none =>
      rw [he] at h
      exact absurd h (by simp [sends])
  | some e =>
      rw [he] at h
      dsimp only at h
      split at h
      · rename_i hflag
        split at h
        · exact ⟨key_of_beginFetch h, e, rfl, hflag⟩
        · exact absurd h (by simp [sends])
      · exact absurd h (by simp [sends])

/-- An answer is followed up by a request only for the entry that has waited for it, and only if the
entry was hit meanwhile. The entry is not flagged any more. -/
theorem flagged_of_completeFetch {id : Nat} {answer : Except ε Json}
    (h : f ∈ sends (s.completeFetch key id answer).2) : f.key = key ∧
      ∃ e e', s.find? key = some e ∧ e.inFlight = some id ∧ e.refetchAfter = true ∧
        (s.completeFetch key id answer).1.find? key = some e' ∧ e'.refetchAfter = false := by
  rcases completeFetch_cases s key id answer with
    ⟨heq, _⟩ | ⟨e, _, _, _, heq⟩ | ⟨e, he, hf, hsubs, ha⟩
  · rw [heq] at h
    exact absurd h (by simp [sends])
  · rw [heq] at h
    exact absurd h (by simp [sends])
  · obtain ⟨event, _, heq⟩ := completeFetch_taken he hf hsubs answer
    rw [heq] at h
    obtain ⟨hkey, settled, hsettled, hflag⟩ := flagged_of_followUp h
    rw [find?_taken, if_pos rfl] at hsettled
    obtain rfl := Option.some.inj hsettled
    rw [(settled_frame e (outcome e answer)).1] at hflag
    refine ⟨hkey, e, _, he, hf, hflag, (ha.find key).trans (if_pos rfl), ?_⟩
    unfold Entry.answered
    rw [if_pos hflag]
    rfl

theorem sends_evict (s : Store κ ε) (key : CacheKey) (generation : Nat) :
    sends (s.evict key generation).2 = [] := by
  rcases evict_cases s key generation with heq | ⟨_, _, _, _, heq⟩
  · rw [heq]
    rfl
  · rw [heq]
    rfl

theorem sends_unsubscribe (s : Store κ ε) (key : CacheKey) (hasTimer : Bool) :
    sends (s.unsubscribe key hasTimer).2 = [] := by
  unfold unsubscribe
  split
  · rfl
  · dsimp only
    split
    · rfl
    · split
      · exact sends_evict _ key _
      · cases hasTimer <;> rfl

end Store

/-! ## What a moment starts -/

section

variable [DecidableEq κ] {m : Moment κ ε} {past : List (Moment κ ε)} {s : Store κ ε}
  {key : CacheKey} {x y : Errand}

theorem strikes_pos (hexact : m.before.IndexExact) :
    0 < m.strikes key ↔ key ∈ m.before.hits m.action.invalidated := by
  rw [hexact.mem_hits]
  unfold Moment.strikes
  cases he : m.before.find? key with
  | none => simp
  | some e =>
      simp only [Option.some.injEq, exists_eq_left']
      split
      · rename_i hany
        simpa using hany
      · rename_i hnone
        simpa using hnone

/-- A moment starts one request for a key at most. -/
theorem length_errands_le (m : Moment κ ε) (key : CacheKey) :
    (m.errands.filter fun x => x.key = key).length ≤ 1 := by
  obtain ⟨s₁, _, hd⟩ := frees_act m.before m.action
  have hsends : (m.errands.filter fun x => x.key = key) =
      ((sends m.effects).filter fun f => f.key = key).map m.errand := List.filter_map
  rw [hsends, List.length_map]
  cases hfilter : (sends m.effects).filter fun f => f.key = key with
  | nil => exact Nat.zero_le 1
  | cons f fs =>
      obtain ⟨hf, hkey⟩ := List.mem_filter.mp (hfilter ▸ List.mem_cons_self (a := f) (l := fs))
      have hone : (sends m.effects).filter (·.key = f.key) = [f] := hd.filter_eq_singleton hf
      rw [of_decide_eq_true hkey, hfilter] at hone
      rw [hone]
      exact Nat.le_refl 1

theorem eq_of_mem_errands (hx : x ∈ m.errands) (hy : y ∈ m.errands) (hkey : x.key = y.key) :
    x = y := by
  have hlength := length_errands_le m y.key
  have hxm : x ∈ m.errands.filter fun z => z.key = y.key :=
    List.mem_filter.mpr ⟨hx, decide_eq_true hkey⟩
  have hym : y ∈ m.errands.filter fun z => z.key = y.key :=
    List.mem_filter.mpr ⟨hy, decide_eq_true rfl⟩
  cases hfilter : m.errands.filter fun z => z.key = y.key with
  | nil => exact absurd (hfilter ▸ hym) List.not_mem_nil
  | cons z zs =>
      rw [hfilter, List.length_cons] at hlength
      have hnil : zs = [] := List.eq_nil_of_length_eq_zero (by omega)
      rw [hfilter, hnil, List.mem_singleton] at hxm hym
      rw [hxm, hym]

/-- **What starts a request.** A trigger, or the answer that a flagged entry has waited for. -/
theorem trigger_of_mem_errands (hexact : m.before.IndexExact) (hx : x ∈ m.errands) :
    ((∀ id answer, m.action ≠ .complete x.key id answer) ∧ 0 < m.triggers x.key) ∨
    ∃ id answer e e', m.action = .complete x.key id answer ∧ m.before.find? x.key = some e ∧
      e.inFlight = some id ∧ e.refetchAfter = true ∧
      m.after.find? x.key = some e' ∧ e'.refetchAfter = false := by
  obtain ⟨f, hf, rfl⟩ := List.mem_map.mp hx
  change ((∀ id answer, m.action ≠ .complete f.key id answer) ∧ 0 < m.triggers f.key) ∨
    ∃ id answer e e', m.action = .complete f.key id answer ∧ m.before.find? f.key = some e ∧
      e.inFlight = some id ∧ e.refetchAfter = true ∧
      m.after.find? f.key = some e' ∧ e'.refetchAfter = false
  have hstrikes : f.key ∈ m.before.hits m.action.invalidated → 0 < m.triggers f.key := fun hhit =>
    Nat.lt_of_lt_of_le ((strikes_pos hexact).mpr hhit) (Nat.le_add_left _ _)
  have hrefetches : 0 < m.refetches f.key → 0 < m.triggers f.key := fun hpos => by
    unfold Moment.triggers
    omega
  obtain ⟨time, s, a⟩ := m
  have hf : f ∈ sends (s.act a).2 := hf
  have hnone : sends (s.act a).2 = [] → False := fun hnil =>
    absurd (hnil ▸ hf) List.not_mem_nil
  cases a with
  | subscribe q arg =>
      refine .inl ⟨by simp, ?_⟩
      cases hs : s.subscribe q arg with
      | error _ => exact (hnone (by simp only [act, hs]; rfl)).elim
      | ok r =>
          obtain ⟨view, s', effects⟩ := r
          simp only [act, hs] at hf
          have hkey := key_of_subscribe_sends hs hf
          have hcalled : Moment.subscribes ⟨time, s, .subscribe q arg⟩ f.key = 1 := by
            unfold Moment.subscribes
            rw [hkey]
            simp only [key_of_subscribe hs]
            exact if_pos rfl
          unfold Moment.triggers
          omega
  | unsubscribe k hasTimer => exact (hnone (sends_unsubscribe s k hasTimer)).elim
  | invalidate tags => exact .inl ⟨by simp, hstrikes (hit_of_invalidateTags hf)⟩
  | refetch k =>
      refine .inl ⟨by simp, hrefetches ?_⟩
      unfold Moment.refetches
      dsimp only
      rw [if_pos (key_of_refetch hf).symm]
      exact Nat.one_pos
  | patch k recipe =>
      refine (hnone ?_).elim
      simp only [act]
      cases s.patch k recipe with
      | none => rfl
      | some r => rfl
  | revert pair =>
      refine .inl ⟨by simp, hrefetches ?_⟩
      obtain ⟨hkey, hrefuses⟩ := refused_of_revert hf
      unfold Moment.refetches
      dsimp only
      rw [refusals, if_pos (by rw [hkey, hrefuses]; simp)]
      exact Nat.one_pos
  | beginMutation mutation arg =>
      refine (hnone ?_).elim
      simp only [act]
      cases s.beginMutation mutation arg with
      | error _ => rfl
      | ok r => rfl
  | endMutation start mutation arg pairs answer =>
      refine .inl ⟨by simp, ?_⟩
      simp only [act, endMutation] at hf
      cases hr : mutationResult mutation answer with
      | ok response =>
          rw [hr] at hf
          refine hstrikes ?_
          simp only [Action.invalidated, hr]
          exact hit_of_invalidateTags hf
      | error error =>
          rw [hr] at hf
          dsimp only at hf
          rw [sends_append] at hf
          refine hrefetches ?_
          simp only [Moment.refetches, hr]
          rcases List.mem_append.mp hf with hf | hf
          · exact refused_of_revertAll hf
          · exact absurd hf (by simp [sends])
  | evict k generation => exact (hnone (sends_evict s k generation)).elim
  | complete k id answer =>
      obtain ⟨hkey, e, e', he, hflight, hflag, he', hcleared⟩ := flagged_of_completeFetch hf
      exact .inr ⟨id, answer, e, e', by rw [hkey], hkey ▸ he, hflight, hflag, hkey ▸ he', hcleared⟩

/-! ## The flag -/

/-- A request is started for an entry that does not wait, or has just had its answer. -/
theorem idle_of_mem_errands (hx : x ∈ m.errands)
    (hcomplete : ∀ id answer, m.action ≠ .complete x.key id answer) {e : Entry κ ε}
    (he : m.before.find? x.key = some e) : e.inFlight = none := by
  obtain ⟨s₁, hfrees, hd⟩ := frees_act m.before m.action
  obtain ⟨_, _, _, hidle, _⟩ := exists_of_mem_errands hd hx
  have hflight := flight_of_find? he
  cases hf : e.inFlight with
  | none => rfl
  | some id =>
      rw [hf] at hflight
      have hanswered : m.action.answered? ≠ some (x.key, id) := by
        intro heq
        cases haction : m.action with
        | complete k i answer =>
            rw [haction] at heq
            obtain ⟨rfl, rfl⟩ := Prod.mk.inj (Option.some.inj heq)
            exact hcomplete i answer haction
        | _ => rw [haction] at heq; exact absurd heq (by simp [Action.answered?])
      rcases hfrees.waits hflight hanswered with hwaits | ⟨hgone, _⟩
      · rw [hwaits] at hidle
        exact absurd hidle (by simp)
      · rw [hgone] at hidle
        exact absurd hidle (by simp)

omit [DecidableEq κ] in
/-- An entry that does not wait is not flagged by a hit. -/
theorem unflagged_invalidated {e : Entry κ ε} (hf : e.inFlight = none) (id : Nat) :
    (e.invalidated id).refetchAfter = e.refetchAfter := by
  unfold Entry.invalidated
  rw [if_neg (by rw [hf]; simp)]
  split
  · rfl
  · rfl

omit [DecidableEq κ] in
theorem flagged_eq_true : s.flagged key = true ↔
    ∃ e, s.find? key = some e ∧ e.refetchAfter = true := by
  unfold flagged
  rw [Option.any_eq_true]

/-- Only a hit flags an entry. -/
theorem flagged_before (hexact : m.before.IndexExact) (h : m.after.flagged key = true) :
    m.before.flagged key = true ∨ 0 < m.strikes key := by
  obtain ⟨e', he', hflag⟩ := flagged_eq_true.mp h
  cases origin hexact he' with
  | new _ _ hd =>
      rw [hd.flag] at hflag
      exact absurd hflag (by simp [Entry.new])
  | drift he _ _ hd => exact .inl (flagged_eq_true.mpr ⟨_, he, hd.flag ▸ hflag⟩)
  | hit he hhit _ _ _ => exact .inr ((strikes_pos hexact).mpr ((hits_iff hexact he).mp hhit))
  | discard he _ _ _ heq =>
      rw [heq] at hflag
      exact absurd hflag (by simp [Store.discard, Entry.setStatus, Entry.write])
  | @answer e _ answer he _ _ heq _ =>
      refine .inl (flagged_eq_true.mpr ⟨e, he, ?_⟩)
      cases hr : e.refetchAfter with
      | true => rfl
      | false =>
          rw [heq, Entry.answered, hr, if_neg (by simp), (settled_frame e _).1, hr] at hflag
          exact hflag

/-- An entry that has just been requested is not flagged. -/
theorem unflagged_of_mem_errands (hexact : m.before.IndexExact)
    (hformed : ∀ k e, m.before.find? k = some e → e.WellFormed) (hx : x ∈ m.errands) :
    m.after.flagged x.key = false := by
  rcases trigger_of_mem_errands hexact hx with ⟨hcomplete, _⟩ | ⟨_, _, _, e, _, _, _, _, he, hflag⟩
  · refine Bool.eq_false_iff.mpr fun h => ?_
    obtain ⟨e', he', hflag⟩ := flagged_eq_true.mp h
    have hidle : ∀ {e : Entry κ ε}, m.before.find? x.key = some e →
        e.inFlight = none ∧ e.refetchAfter = false := fun he =>
      have hf := idle_of_mem_errands hx hcomplete he
      ⟨hf, (hformed _ _ he).unflagged hf⟩
    cases origin hexact he' with
    | new _ _ hd =>
        rw [hd.flag] at hflag
        exact absurd hflag (by simp [Entry.new])
    | drift he _ _ hd =>
        rw [hd.flag, (hidle he).2] at hflag
        exact absurd hflag (by simp)
    | hit he _ _ heq _ =>
        rw [heq, unflagged_invalidated (hidle he).1, (hidle he).2] at hflag
        exact absurd hflag (by simp)
    | discard _ haction _ _ _ => exact absurd haction (hcomplete _ _)
    | answer _ htake _ _ _ => exact absurd htake.1 (hcomplete _ _)
  · unfold flagged
    rw [he, Option.any_some, hflag]

/-! ## Counting -/

/-- A request takes up a trigger of its moment, or the flag that an earlier one has left. -/
theorem requests_step (hexact : m.before.IndexExact)
    (hformed : ∀ k e, m.before.find? k = some e → e.WellFormed) (key : CacheKey) :
    (m.errands.filter fun x => x.key = key).length + (m.after.flagged key).toNat ≤
      (m.before.flagged key).toNat + m.triggers key := by
  cases hfilter : m.errands.filter fun x => x.key = key with
  | nil =>
      cases hafter : m.after.flagged key with
      | false => exact Nat.zero_le _
      | true =>
          rcases flagged_before hexact hafter with hbefore | hstrikes
          · rw [hbefore]
            exact Nat.le_add_right _ _
          · have htrigger : 0 < m.triggers key :=
              Nat.lt_of_lt_of_le hstrikes (Nat.le_add_left _ _)
            change 0 + 1 ≤ _
            omega
  | cons x xs =>
      obtain ⟨hx, hkey⟩ := List.mem_filter.mp (hfilter ▸ List.mem_cons_self (a := x) (l := xs))
      obtain rfl := of_decide_eq_true hkey
      have hone := length_errands_le m x.key
      rw [hfilter] at hone
      rw [unflagged_of_mem_errands hexact hformed hx]
      rcases trigger_of_mem_errands hexact hx with ⟨_, htrigger⟩ | ⟨_, _, e, _, _, he, _, hflag, _⟩
      · change _ + 0 ≤ _
        omega
      · rw [flagged_eq_true.mpr ⟨e, he, hflag⟩]
        exact Nat.le_trans hone (Nat.le_add_right _ _)

theorem requestsFor_cons (key : CacheKey) (m : Moment κ ε) (past : List (Moment κ ε)) :
    requestsFor key (m :: past) =
      (m.errands.filter fun x => x.key = key) ++ requestsFor key past := by
  unfold requestsFor started
  rw [List.flatMap_cons, List.filter_append]

/-- Requests take up triggers. -/
theorem requests_le {config : StoreConfig} {s' : Store κ ε} {later : List (Moment κ ε)}
    (h : Run config past s) (hlater : Run config (later ++ past) s') (key : CacheKey) :
    (requestsFor key later).length + (s'.flagged key).toNat ≤
      (s.flagged key).toNat + (later.map fun m => m.triggers key).sum := by
  induction later generalizing s' with
  | nil =>
      rw [h.store_eq hlater]
      exact Nat.le_of_eq (Nat.add_comm _ _)
  | cons m later ih =>
      obtain ⟨hbefore, rfl, _⟩ := hlater.of_cons
      have hstep := requests_step (indexExact_run hbefore) (wellFormed_run hbefore) key
      have hrest := ih hbefore
      rw [requestsFor_cons, List.length_append, List.map_cons, List.sum_cons]
      omega

/-! ## Attribution -/

/-- The request is the first one for the key since the trigger. If it was not started at once, the
trigger was a hit. -/
structure Leads (key : CacheKey) (past : List (Moment κ ε)) (m : Moment κ ε) (x : Errand) :
    Prop where
  trigger : 0 < m.triggers key
  started : m.time = x.time ∨ m.time < x.time ∧ 0 < m.strikes key
  first : ∀ y ∈ requestsFor key past, m.time ≤ y.time → y.time ≤ x.time → y = x

/-- Every request has a trigger, and so has the one that is still to come. -/
structure Attributed (key : CacheKey) (past : List (Moment κ ε)) (s : Store κ ε) : Prop where
  caused : ∀ x ∈ requestsFor key past, ∃ m ∈ past, Leads key past m x
  unspent : s.flagged key = true →
    ∃ m ∈ past, 0 < m.strikes key ∧ ∀ y ∈ requestsFor key past, y.time < m.time

theorem mem_requestsFor : x ∈ requestsFor key past ↔ (∃ m ∈ past, x ∈ m.errands) ∧ x.key = key := by
  unfold requestsFor started
  rw [List.mem_filter, List.mem_flatMap, decide_eq_true_eq]

theorem time_of_mem_errands (hx : x ∈ m.errands) : x.time = m.time := by
  obtain ⟨_, _, rfl⟩ := List.mem_map.mp hx
  rfl

/-- A trigger leads to one request at most. -/
theorem Leads.eq (hx : Leads key past m x) (hy : Leads key past m y)
    (hxm : x ∈ requestsFor key past) (hym : y ∈ requestsFor key past) : x = y := by
  have hle : m.time ≤ x.time := by rcases hx.started with h | h <;> omega
  have hle' : m.time ≤ y.time := by rcases hy.started with h | h <;> omega
  rcases Nat.le_total x.time y.time with h | h
  · exact hy.first x hxm hle h
  · exact (hx.first y hym hle' h).symm

/-- A trigger that came before goes on leading to its request. -/
theorem Leads.cons (h : Leads key past r x) (hx : x.time < m.time) : Leads key (m :: past) r x where
  trigger := h.trigger
  started := h.started
  first := by
    intro y hy hle hle'
    rw [requestsFor_cons] at hy
    rcases List.mem_append.mp hy with hy | hy
    · have := time_of_mem_errands (List.mem_filter.mp hy).1
      omega
    · exact h.first y hy hle hle'

theorem attributed_step (hexact : m.before.IndexExact)
    (hformed : ∀ k e, m.before.find? k = some e → e.WellFormed)
    (htimes : ∀ r ∈ past, r.time < m.time) (h : Attributed key past m.before) :
    Attributed key (m :: past) m.after := by
  have hearlier : ∀ y ∈ requestsFor key past, y.time < m.time := by
    intro y hy
    obtain ⟨⟨r, hr, hy⟩, _⟩ := mem_requestsFor.mp hy
    rw [time_of_mem_errands hy]
    exact htimes r hr
  -- a request that is started now is the first one since a moment if there was none since then
  have hfirst : ∀ {x : Errand} {time : Nat}, x ∈ m.errands → x.key = key →
      (∀ y ∈ requestsFor key past, y.time < time) →
      ∀ y ∈ requestsFor key (m :: past), time ≤ y.time → y.time ≤ x.time → y = x := by
    intro x time hx hkey hnone y hy hle _
    rw [requestsFor_cons] at hy
    rcases List.mem_append.mp hy with hy | hy
    · obtain ⟨hy, hkey'⟩ := List.mem_filter.mp hy
      exact eq_of_mem_errands hy hx ((of_decide_eq_true hkey').trans hkey.symm)
    · have := hnone y hy
      omega
  constructor
  case caused =>
    intro x hx
    rw [requestsFor_cons] at hx
    rcases List.mem_append.mp hx with hx | hx
    · obtain ⟨hx, hkey⟩ := List.mem_filter.mp hx
      have hkey := of_decide_eq_true hkey
      have htime := time_of_mem_errands hx
      rcases trigger_of_mem_errands hexact hx with ⟨_, htrigger⟩ | ⟨_, _, e, _, _, he, _, hflag, _⟩
      · exact ⟨m, List.mem_cons_self, hkey ▸ htrigger, .inl htime.symm, hfirst hx hkey hearlier⟩
      · -- it follows up an answer, and a hit
        obtain ⟨r, hr, hstrikes, hnone⟩ := h.unspent (flagged_eq_true.mpr ⟨e, hkey ▸ he, hflag⟩)
        refine ⟨r, List.mem_cons_of_mem _ hr, Nat.lt_of_lt_of_le hstrikes (Nat.le_add_left _ _),
          .inr ⟨?_, hstrikes⟩, hfirst hx hkey hnone⟩
        rw [htime]
        exact htimes r hr
    · obtain ⟨r, hr, hleads⟩ := h.caused x hx
      exact ⟨r, List.mem_cons_of_mem _ hr, hleads.cons (hearlier x hx)⟩
  case unspent =>
    intro hafter
    -- nothing is started now: the entry would not be flagged
    have hnow : m.errands.filter (fun x => x.key = key) = [] := by
      refine List.filter_eq_nil_iff.mpr fun x hx hkey => ?_
      have hnot := unflagged_of_mem_errands hexact hformed hx
      rw [of_decide_eq_true hkey, hafter] at hnot
      exact absurd hnot (by simp)
    rw [requestsFor_cons, hnow, List.nil_append]
    rcases flagged_before hexact hafter with hbefore | hstrikes
    · obtain ⟨r, hr, hrest⟩ := h.unspent hbefore
      exact ⟨r, List.mem_cons_of_mem _ hr, hrest⟩
    · exact ⟨m, List.mem_cons_self, hstrikes, hearlier⟩

theorem attributed_run {config : StoreConfig} (h : Run config past s) (key : CacheKey) :
    Attributed key past s := by
  induction h with
  | init => exact ⟨by simp [requestsFor, started], fun h => absurd h (by simp [flagged])⟩
  | @tail past s hr a ih =>
      exact attributed_step (m := ⟨past.length, s, a⟩) (indexExact_run hr) (wellFormed_run hr)
        (chronicle_run hr).times ih

/-! ## One outstanding request -/

theorem id_of_mem_errands (hx : x ∈ m.errands) : m.before.nextRequest ≤ x.id := by
  obtain ⟨s₁, hfrees, hd⟩ := frees_act m.before m.action
  obtain ⟨f, hf, rfl⟩ := List.mem_map.mp hx
  have hid : f.id ∈ (sends m.effects).map (fun f => f.id) := List.mem_map_of_mem hf
  have hids : (sends m.effects).map (fun f => f.id) =
      List.range' s₁.nextRequest (sends m.effects).length := hd.ids
  rw [hids, List.mem_range'_1, hfrees.counters.1] at hid
  exact hid.1

/-- While an entry goes on waiting for the same request, none is started for its key. -/
theorem requestsFor_waiting {config : StoreConfig} {s' : Store κ ε} {later : List (Moment κ ε)}
    {birth id : Nat} (h : Run config (later ++ past) s')
    (hnow : s'.flight key = some (birth, some id))
    (hwaits : ∀ m ∈ later, m.before.flight key = some (birth, some id)) :
    requestsFor key later = [] := by
  induction later generalizing s' with
  | nil => rfl
  | cons m later ih =>
      obtain ⟨hm, hlater⟩ := List.forall_mem_cons.mp hwaits
      obtain ⟨hbefore, rfl, _⟩ := h.of_cons
      rw [requestsFor_cons, ih hbefore hm hlater, List.append_nil]
      refine List.filter_eq_nil_iff.mpr fun x hx hkey => ?_
      obtain rfl := of_decide_eq_true hkey
      -- it would wait for the new request
      obtain ⟨_, _, hd⟩ := frees_act m.before m.action
      obtain ⟨_, _, _, _, hafter⟩ := exists_of_mem_errands hd hx
      rw [hnow] at hafter
      injection Option.some.inj hafter with _ hid
      have hnew := id_of_mem_errands hx
      have htracks := tracks_run hbefore
      obtain ⟨y, hy, _, hyid, _⟩ := htracks.waits _ _ _ hm
      have hold := htracks.ids y hy
      have hsame := Option.some.inj hid
      omega

theorem sum_triggers (key : CacheKey) (past : List (Moment κ ε)) :
    (past.map fun m => m.triggers key).sum = (past.map fun m => m.subscribes key).sum +
      (past.map fun m => m.refetches key).sum + (past.map fun m => m.strikes key).sum := by
  induction past with
  | nil => rfl
  | cons m past ih =>
      simp only [List.map_cons, List.sum_cons, ih]
      unfold Moment.triggers
      omega

/-- **Every request has a trigger of its own.** In every run there are at most as many requests for
a key as calls of its query, calls to fetch it again, those for patches that could not be undone among
them, and invalidations that hit its entry. Every request is the first one since some trigger, which
has started it, or was a hit while an earlier one was on its way; so a trigger leads to one at most.
However often an entry is hit while it waits for one request, until it has the answer and in the
same turn at most one is started. And when no trigger comes any more, at most one request is
started, and only if the entry waits and was hit. -/
theorem requests_attributed {config : StoreConfig} (h : Run config past s) (key : CacheKey) :
    (requestsFor key past).length ≤ (past.map fun m => m.subscribes key).sum +
      (past.map fun m => m.refetches key).sum + (past.map fun m => m.strikes key).sum ∧
    (∀ x ∈ requestsFor key past, ∃ m ∈ past, Leads key past m x) ∧
    (∀ m, ∀ x ∈ requestsFor key past, ∀ y ∈ requestsFor key past,
      Leads key past m x → Leads key past m y → x = y) ∧
    ∀ later s', Run config (later ++ past) s' →
      (∀ birth id, (∀ m ∈ later, m.before.flight key = some (birth, some id)) →
        (requestsFor key later).length ≤ 1) ∧
      ((∀ m ∈ later, m.triggers key = 0) → (requestsFor key later).length ≤ 1 ∧
        (requestsFor key later ≠ [] →
          ∃ e, s.find? key = some e ∧ e.inFlight.isSome = true ∧ e.refetchAfter = true)) := by
  refine ⟨?_, (attributed_run h key).caused, fun m x hx y hy hxm hym => hxm.eq hym hx hy,
    fun later s' hlater => ⟨fun birth id hwaits => ?_, fun hquiet => ?_⟩⟩
  · have hall : Run config (past ++ []) s := by rwa [List.append_nil]
    have hcount := requests_le .init hall key
    have hnew : (Store.new config : Store κ ε).flagged key = false := rfl
    rw [hnew, sum_triggers] at hcount
    change _ ≤ 0 + _ at hcount
    omega
  · cases later with
    | nil => exact Nat.zero_le 1
    | cons m later =>
        obtain ⟨hm, hrest⟩ := List.forall_mem_cons.mp hwaits
        rw [requestsFor_cons, requestsFor_waiting hlater.of_cons.1 hm hrest, List.append_nil]
        exact length_errands_le m key
  · have hcount := requests_le h hlater key
    have hnone : (later.map fun m => m.triggers key).sum = 0 :=
      List.sum_eq_zero_iff_forall_eq_nat.mpr fun n hn => by
        obtain ⟨m, hm, rfl⟩ := List.mem_map.mp hn
        exact hquiet m hm
    rw [hnone] at hcount
    have hflag := Bool.toNat_le (s.flagged key)
    refine ⟨by omega, fun hsome => ?_⟩
    cases hflagged : s.flagged key with
    | false =>
        rw [hflagged] at hcount
        change _ ≤ 0 at hcount
        exact absurd (List.eq_nil_of_length_eq_zero (by omega)) hsome
    | true =>
        obtain ⟨e, he, hflag⟩ := flagged_eq_true.mp hflagged
        exact ⟨e, he, ((wellFormed_run h key e he).flagged hflag).1, hflag⟩

end

/-- An entry is requested again and hit twice meanwhile. The answer is followed up once. -/
theorem requests_attributed_struck_twice :
    let p := play {} [Sample.ask, Sample.answer 0 ["a"], .refetch Sample.key,
      .invalidate [Sample.tag "a"], .invalidate [Sample.tag "a"]]
    let m : Moment _ _ := ⟨5, p.2, Sample.answer 1 ["a"]⟩
    (requestsFor Sample.key (m :: p.1)).map (·.id) = [2, 1, 0] ∧
      (requestsFor Sample.key (m :: p.1)).length ≤ 1 + 1 + 2 ∧
      m.triggers Sample.key = 0 ∧ (requestsFor Sample.key [m]).length ≤ 1 ∧
      ∃ r ∈ m :: p.1, Leads Sample.key (m :: p.1) r ⟨Sample.key, 2, some 0, 5⟩ := by
  intro p m
  have hbefore : Run {} p.1 p.2 := run_play _ _
  have hrun : Run {} (m :: p.1) m.after := hbefore.tail _
  have hrequests : requestsFor Sample.key (m :: p.1) =
      [⟨Sample.key, 2, some 0, 5⟩, ⟨Sample.key, 1, some 0, 2⟩, ⟨Sample.key, 0, some 0, 0⟩] := by
    decide +kernel
  have hquiet : m.triggers Sample.key = 0 := by decide +kernel
  obtain ⟨hcount, hcaused, _, _⟩ := requests_attributed hrun Sample.key
  obtain ⟨_, _, _, hlater⟩ := requests_attributed hbefore Sample.key
  refine ⟨by rw [hrequests]; rfl, Nat.le_trans hcount (by decide +kernel), hquiet,
    ((hlater [m] _ hrun).2 (by simpa using hquiet)).1, hcaused _ ?_⟩
  rw [hrequests]
  exact List.mem_cons_self

end TagCache
