import TagCache.Proofs.Attendance

/-!
# Requests on their way

A request travels on its own. While it does, its entry may be evicted, and another may be created
under the same key that asks for the same request again. When the answers come, in any order, each
has to find the entry that has asked for it, or none.

Ids are given out by the store, not by the entries, so no two requests ever share one. An entry that
waits remembers the id of its request. `Store.flight` is that memory, beside the birth of the entry.
An action first frees entries from waiting, if it is an answer or an eviction, and then dispatches
requests for entries that do not wait: `Store.Frees` and `Store.Dispatches`.

The past of a run knows which requests are `underway`: sent, and not answered. `requests_tracked`
matches the two. What an entry waits for is underway; what is underway is waited for by the entry
that it was sent for, or that entry is gone, and the answer will change nothing.
-/

namespace TagCache

open Store

variable {κ ε : Type}

/-- The requests among effects. -/
def sends (effects : List (Effect κ ε)) : List Fetch :=
  effects.filterMap fun
    | .send fetch => some fetch
    | _ => none

theorem sends_append (effects effects' : List (Effect κ ε)) :
    sends (effects ++ effects') = sends effects ++ sends effects' :=
  List.filterMap_append

namespace Store

/-- The birth of the entry under a key, and the id of the request that it waits for. -/
def flight (s : Store κ ε) (key : CacheKey) : Option (Nat × Option Nat) :=
  (s.find? key).map fun e => (e.birth, e.inFlight)

variable {s s' s'' : Store κ ε} {key : CacheKey} {effects effects' : List (Effect κ ε)}

theorem flight_of_find? {e : Entry κ ε} (h : s.find? key = some e) :
    s.flight key = some (e.birth, e.inFlight) := by
  unfold flight
  rw [h, Option.map_some]

theorem flight_eq_some {birth : Nat} {id : Option Nat} :
    s.flight key = some (birth, id) ↔
      ∃ e, s.find? key = some e ∧ e.birth = birth ∧ e.inFlight = id := by
  unfold flight
  rw [Option.map_eq_some_iff]
  simp only [Prod.mk.injEq]

theorem flight_setEntry (s : Store κ ε) (key k : CacheKey) (e : Entry κ ε) :
    (s.setEntry key e).flight k =
      if k = key then some (e.birth, e.inFlight) else s.flight k := by
  unfold flight
  rw [find?_setEntry]
  split
  · rfl
  · rfl

theorem flight_setEntry_same {e : Entry κ ε} (he : s.find? key = some e) (e' : Entry κ ε)
    (hbirth : e'.birth = e.birth) (hf : e'.inFlight = e.inFlight) (k : CacheKey) :
    (s.setEntry key e').flight k = s.flight k := by
  rw [flight_setEntry]
  split
  · rename_i hk
    rw [hk, flight_of_find? he, hbirth, hf]
  · rfl

/-! ## Dispatching -/

/-- Requests are sent, each for an entry that did not wait and waits for it now. Their ids are the
next ones. -/
structure Dispatches (s : Store κ ε) (effects : List (Effect κ ε)) (s' : Store κ ε) : Prop where
  next : s'.nextRequest = s.nextRequest + (sends effects).length
  ids : (sends effects).map (fun f => f.id) = List.range' s.nextRequest (sends effects).length
  created : s'.created = s.created
  sent : ∀ f ∈ sends effects, ∃ birth,
    s.flight f.key = some (birth, none) ∧ s'.flight f.key = some (birth, some f.id)
  kept : ∀ k, (∀ f ∈ sends effects, f.key ≠ k) → s'.flight k = s.flight k

theorem Dispatches.of_same (hflight : ∀ k, s'.flight k = s.flight k)
    (hnext : s'.nextRequest = s.nextRequest) (hcreated : s'.created = s.created)
    (hnone : sends effects = []) : s.Dispatches effects s' where
  next := by rw [hnext, hnone]; rfl
  ids := by rw [hnone]; rfl
  created := hcreated
  sent := by rw [hnone]; simp
  kept := fun k _ => hflight k

theorem Dispatches.trans (h : s.Dispatches effects s') (h' : s'.Dispatches effects' s'') :
    s.Dispatches (effects ++ effects') s'' := by
  have hnotagain : ∀ f ∈ sends effects, ∀ f' ∈ sends effects', f'.key ≠ f.key := by
    -- the second request would be for an entry that waits for the first
    intro f hf f' hf' heq
    obtain ⟨_, _, hwaits⟩ := h.sent f hf
    obtain ⟨_, hidle, _⟩ := h'.sent f' hf'
    rw [heq, hwaits] at hidle
    exact absurd hidle (by simp)
  refine ⟨?_, ?_, h'.created.trans h.created, ?_, ?_⟩
  · rw [h'.next, h.next, sends_append, List.length_append]
    omega
  · rw [sends_append, List.map_append, h.ids, h'.ids, h.next, List.length_append]
    have hjoined := @List.range'_append s.nextRequest (sends effects).length
      (sends effects').length 1
    rw [Nat.one_mul] at hjoined
    exact hjoined
  · intro f hf
    rw [sends_append] at hf
    rcases List.mem_append.mp hf with hf | hf
    · obtain ⟨birth, hidle, hwaits⟩ := h.sent f hf
      exact ⟨birth, hidle, (h'.kept f.key (hnotagain f hf)).trans hwaits⟩
    · obtain ⟨birth, hidle, hwaits⟩ := h'.sent f hf
      have hsame := h.kept f.key fun f' hf' => Ne.symm (hnotagain f' hf' f hf)
      exact ⟨birth, hsame.symm.trans hidle, hwaits⟩
  · intro k hk
    rw [sends_append] at hk
    have hfront := h.kept k fun f hf => hk f (List.mem_append_left _ hf)
    have hback := h'.kept k fun f hf => hk f (List.mem_append_right _ hf)
    exact hback.trans hfront

theorem Proceeds.dispatches (h : s.Proceeds effects s') : s.Dispatches effects s' := by
  induction h with
  | refl s => exact .of_same (fun _ => rfl) rfl rfl rfl
  | @data s _ e he data =>
      exact .of_same (flight_setEntry_same he (e.setData data) rfl rfl) rfl rfl rfl
  | @flag s _ e he _ =>
      exact .of_same (flight_setEntry_same he { e with refetchAfter := true } rfl rfl) rfl rfl rfl
  | @stale s _ e he _ flag =>
      exact .of_same (flight_setEntry_same he ({ e with refetchAfter := flag }.setStatus .stale)
        rfl rfl) rfl rfl rfl
  | @fetch s key e he hf =>
      -- of the small writes, this is the one that sends
      refine ⟨rfl, rfl, rfl, ?_, ?_⟩
      · intro f hmem
        obtain rfl := List.mem_singleton.mp hmem
        refine ⟨e.birth, by rw [flight_of_find? he, hf], ?_⟩
        change (s.setEntry key (e.awaiting s.nextRequest)).flight key = _
        rw [flight_setEntry, if_pos rfl]
        rfl
      · intro k hk
        change (s.setEntry key (e.awaiting s.nextRequest)).flight k = _
        rw [flight_setEntry, if_neg (Ne.symm (hk _ (List.mem_singleton.mpr rfl)))]
  | emit s _ => exact .of_same (fun _ => rfl) rfl rfl rfl
  | trans _ _ ih ih' => exact ih.trans ih'

theorem dispatches_join {e : Entry κ ε} (he : s.find? key = some e) :
    s.Dispatches (s.join key e).2 (s.join key e).1 := by
  have hcounts : s.Dispatches [] (s.setEntry key { e with
      subscribers := e.subscribers + 1, generation := e.generation + 1 }) :=
    .of_same (flight_setEntry_same he _ rfl rfl) rfl rfl rfl
  unfold join
  dsimp only
  split
  · exact hcounts.trans (proceeds_beginFetch _ key).dispatches
  · exact hcounts

/-! ## Freeing -/

/-- What an action does to entries before it dispatches requests. -/
inductive Frees (s : Store κ ε) (a : Action κ ε) (effects : List (Effect κ ε)) :
    Store κ ε → Prop where
  /-- Nothing: no entry waits for the answer, if the action is one. -/
  | keep {s₁ : Store κ ε}
      (hidle : ∀ key id answer, a = .complete key id answer →
        ∀ birth, s.flight key ≠ some (birth, some id))
      (hnext : s₁.nextRequest = s.nextRequest) (hcreated : s₁.created = s.created)
      (h : ∀ k, s₁.flight k = s.flight k) : Frees s a effects s₁
  /-- An entry is added. -/
  | add {s₁ : Store κ ε} {key : CacheKey} (hcomplete : ∀ key id answer, a ≠ .complete key id answer)
      (habsent : s.flight key = none) (hnext : s₁.nextRequest = s.nextRequest)
      (hcreated : s₁.created = s.created + 1)
      (h : ∀ k, s₁.flight k = if k = key then some (s.created, none) else s.flight k) :
      Frees s a effects s₁
  /-- An entry is evicted, and waits no more. -/
  | evict {s₁ : Store κ ε} {key : CacheKey}
      (hcomplete : ∀ key id answer, a ≠ .complete key id answer)
      (heffects : effects = [.emit (.evicted key)]) (hnext : s₁.nextRequest = s.nextRequest)
      (hcreated : s₁.created = s.created)
      (h : ∀ k, s₁.flight k = if k = key then none else s.flight k) : Frees s a effects s₁
  /-- An entry has its answer. -/
  | answer {s₁ : Store κ ε} {key : CacheKey} {id birth : Nat} {answer : Except ε Json}
      (ha : a = .complete key id answer) (hf : s.flight key = some (birth, some id))
      (hnext : s₁.nextRequest = s.nextRequest) (hcreated : s₁.created = s.created)
      (h : ∀ k, s₁.flight k = if k = key then some (birth, none) else s.flight k) :
      Frees s a effects s₁

theorem Frees.refl {a : Action κ ε} (hcomplete : ∀ key id answer, a ≠ .complete key id answer) :
    s.Frees a effects s :=
  .keep (fun key id answer h => absurd h (hcomplete key id answer)) rfl rfl fun _ => rfl

section

variable [DecidableEq κ]

theorem frees_unsubscribe (s : Store κ ε) (key : CacheKey) (hasTimer : Bool) :
    ∃ s₁, s.Frees (.unsubscribe key hasTimer) (s.unsubscribe key hasTimer).2 s₁ ∧
      s₁.Dispatches (s.unsubscribe key hasTimer).2 (s.unsubscribe key hasTimer).1 := by
  cases he : s.find? key with
  | none =>
      have hnothing : s.unsubscribe key hasTimer = (s, []) := by
        unfold unsubscribe
        rw [he]
      rw [hnothing]
      exact ⟨s, .refl (by simp), (Proceeds.refl s).dispatches⟩
  | some e =>
      have hleft : ∀ k, (s.setEntry key e.left).flight k = s.flight k :=
        flight_setEntry_same he e.left rfl rfl
      rw [unsubscribe_eq he]
      split
      · exact ⟨s, .refl (by simp), .of_same hleft rfl rfl rfl⟩
      · split
        · -- the entry goes with its last subscriber
          refine ⟨(s.setEntry key e.left).without key e.left,
            .evict (by simp) rfl rfl rfl fun k => ?_, .of_same (fun _ => rfl) rfl rfl rfl⟩
          unfold flight
          rw [find?_without]
          split
          · rfl
          · exact hleft k
        · refine ⟨s, .refl (by simp), .of_same hleft rfl rfl ?_⟩
          cases hasTimer with
          | true => rfl
          | false => rfl

theorem frees_evict (s : Store κ ε) (key : CacheKey) (generation : Nat) :
    ∃ s₁, s.Frees (.evict key generation) (s.evict key generation).2 s₁ ∧
      s₁.Dispatches (s.evict key generation).2 (s.evict key generation).1 := by
  rcases evict_cases s key generation with h | ⟨e, _, _, _, h⟩
  · rw [h]
    exact ⟨s, .refl (by simp), (Proceeds.refl s).dispatches⟩
  · rw [h]
    refine ⟨s.without key e, .evict (by simp) rfl rfl rfl fun k => ?_,
      .of_same (fun _ => rfl) rfl rfl rfl⟩
    unfold flight
    rw [find?_without]
    split
    · rfl
    · rfl

theorem frees_completeFetch (s : Store κ ε) (key : CacheKey) (id : Nat) (answer : Except ε Json) :
    ∃ s₁, s.Frees (.complete key id answer) (s.completeFetch key id answer).2 s₁ ∧
      s₁.Dispatches (s.completeFetch key id answer).2 (s.completeFetch key id answer).1 := by
  rcases completeFetch_cases s key id answer with
    ⟨h, hidle⟩ | ⟨e, he, hf, _, h⟩ | ⟨e, he, hf, hsubs, _⟩
  · rw [h]
    refine ⟨s, .keep ?_ rfl rfl (fun _ => rfl), (Proceeds.refl s).dispatches⟩
    intro key' id' answer' heq birth hflight
    injection heq with hkey hid
    subst hkey hid
    obtain ⟨e, he, _, hf⟩ := flight_eq_some.mp hflight
    exact hidle e he hf
  · rw [h]
    have hfree : s.flight key = some (e.birth, some id) := by rw [flight_of_find? he, hf]
    exact ⟨s.setEntry key (discard { e with inFlight := none }),
      .answer rfl hfree rfl rfl (fun k => flight_setEntry s key k _),
      .of_same (fun _ => rfl) rfl rfl rfl⟩
  · obtain ⟨event, hevent, h⟩ := completeFetch_taken he hf hsubs answer
    have hfree : s.flight key = some (e.birth, some id) := by rw [flight_of_find? he, hf]
    have hp := proceeds_taken s key e (outcome e answer)
    rw [h]
    refine ⟨s.taken key e (outcome e answer), .answer rfl hfree rfl rfl fun k => ?_,
      (Proceeds.emit _ hevent).dispatches.trans hp.dispatches⟩
    unfold flight
    rw [find?_taken]
    split
    · rw [Option.map_some, (settled_frame e _).2.2.1, Entry.birth_settled]
    · rfl

theorem frees_plain (s : Store κ ε) {a : Action κ ε} (ha : a.isPlain = true) :
    ∃ s₁, s.Frees a (s.act a).2 s₁ ∧ s₁.Dispatches (s.act a).2 (s.act a).1 := by
  refine ⟨s, .refl ?_, (proceeds_act s ha).dispatches⟩
  rintro key id answer rfl
  exact absurd ha (by simp [Action.isPlain])

/-- **Every action frees before it dispatches.** -/
theorem frees_act (s : Store κ ε) (a : Action κ ε) :
    ∃ s₁, s.Frees a (s.act a).2 s₁ ∧ s₁.Dispatches (s.act a).2 (s.act a).1 := by
  cases a with
  | subscribe q arg =>
      simp only [act]
      cases hs : s.subscribe q arg with
      | error _ => exact ⟨s, .refl (by simp), (Proceeds.refl s).dispatches⟩
      | ok r =>
          obtain ⟨view, s', effects⟩ := r
          rcases subscribe_join hs with ⟨e, he, hjoin⟩ | ⟨habsent, request, _, hjoin⟩
          · have hd := dispatches_join he
            rw [hjoin] at hd
            exact ⟨s, .refl (by simp), hd⟩
          · have hd := dispatches_join (s := s.add view.key q.name request (rawTags q arg))
              (by rw [find?_add, if_pos rfl])
            rw [hjoin] at hd
            refine ⟨s.add view.key q.name request (rawTags q arg),
              .add (by simp) ?_ rfl rfl fun k => flight_setEntry _ view.key k _, hd⟩
            unfold flight
            rw [habsent, Option.map_none]
  | unsubscribe key hasTimer => exact frees_unsubscribe s key hasTimer
  | evict key generation => exact frees_evict s key generation
  | complete key id answer => exact frees_completeFetch s key id answer
  | _ => exact frees_plain s rfl

end

end Store

/-! ## Errands -/

/-- A request that was sent for an entry. -/
structure Errand where
  key : CacheKey
  id : Nat
  /-- The birth of the entry that asked for it. -/
  birth : Option Nat
  /-- The moment that sent it. -/
  time : Nat
  deriving DecidableEq

/-- The request that is answered. -/
def Action.answered? : Action κ ε → Option (CacheKey × Nat)
  | .complete key id _ => some (key, id)
  | _ => none

variable [DecidableEq κ]

namespace Moment

/-- The errand of a request that the moment sends. -/
def errand (m : Moment κ ε) (fetch : Fetch) : Errand :=
  ⟨fetch.key, fetch.id, (m.after.flight fetch.key).map Prod.fst, m.time⟩

/-- The requests that the moment sends. -/
def errands (m : Moment κ ε) : List Errand := (sends m.effects).map m.errand

/-- The moment evicts an entry. -/
def Evicts (m : Moment κ ε) (key : CacheKey) (birth : Nat) : Prop :=
  (∃ e, m.before.find? key = some e ∧ e.birth = birth) ∧ .emit (.evicted key) ∈ m.effects ∧
    m.after.find? key = none

end Moment

/-- The requests that have been sent and not been answered. -/
def underway : List (Moment κ ε) → List Errand
  | [] => []
  | m :: past =>
    (underway past).filter (fun x => m.action.answered? ≠ some (x.key, x.id)) ++ m.errands

/-- All requests that have been sent. -/
def started (past : List (Moment κ ε)) : List Errand := past.flatMap Moment.errands

/-- The entry that an errand was sent for has been evicted since, and its birth is not given
again. -/
def Orphaned (past : List (Moment κ ε)) (s : Store κ ε) (x : Errand) (birth : Nat) : Prop :=
  (∃ r ∈ past, x.time < r.time ∧ r.Evicts x.key birth) ∧
    ∀ b id, s.flight x.key = some (b, id) → b ≠ birth

/-- A list of errands matches a store. -/
structure Tracks (past : List (Moment κ ε)) (xs : List Errand) (s : Store κ ε) : Prop where
  nodup : (xs.map fun x => x.id).Nodup
  ids : ∀ x ∈ xs, x.id < s.nextRequest
  times : ∀ x ∈ xs, x.time < past.length
  /-- What an entry waits for was sent for it. -/
  waits : ∀ k birth id, s.flight k = some (birth, some id) →
    ∃ x ∈ xs, x.key = k ∧ x.id = id ∧ x.birth = some birth
  /-- What was sent is waited for, or its entry is gone. -/
  fate : ∀ x ∈ xs, ∃ birth, x.birth = some birth ∧ birth < s.created ∧
    (s.flight x.key = some (birth, some x.id) ∨ Orphaned past s x birth)
  single : ∀ x ∈ xs, ∀ y ∈ xs, x.key = y.key → x.birth = y.birth → x = y
  births : ∀ k birth id, s.flight k = some (birth, id) → birth < s.created

variable {past : List (Moment κ ε)} {xs : List Errand} {s s' : Store κ ε} {m : Moment κ ε}

theorem tracks_new (config : StoreConfig) : Tracks [] [] (new config : Store κ ε) where
  nodup := .nil
  ids := by simp
  times := by simp
  waits := fun _ _ _ h => absurd h (by simp [flight])
  fate := by simp
  single := by simp
  births := fun _ _ _ h => absurd h (by simp [flight])

/-! ## What becomes of an errand -/

section

variable {s₁ : Store κ ε} {a : Action κ ε} {effects : List (Effect κ ε)}

omit [DecidableEq κ] in
theorem Store.Frees.counters (h : s.Frees a effects s₁) :
    s₁.nextRequest = s.nextRequest ∧ s.created ≤ s₁.created := by
  cases h with
  | keep _ hnext hcreated _ => exact ⟨hnext, Nat.le_of_eq hcreated.symm⟩
  | add _ _ hnext hcreated _ => exact ⟨hnext, by omega⟩
  | evict _ _ hnext hcreated _ => exact ⟨hnext, Nat.le_of_eq hcreated.symm⟩
  | answer _ _ hnext hcreated _ => exact ⟨hnext, Nat.le_of_eq hcreated.symm⟩

omit [DecidableEq κ] in
/-- Who still waits has waited before, and not for this answer. -/
theorem Store.Frees.waited (h : s.Frees a effects s₁) {k : CacheKey} {birth id : Nat}
    (hf : s₁.flight k = some (birth, some id)) :
    s.flight k = some (birth, some id) ∧ a.answered? ≠ some (k, id) := by
  have hother : (∀ key id answer, a ≠ .complete key id answer) → a.answered? ≠ some (k, id) := by
    intro hcomplete heq
    cases a with
    | complete key id answer => exact hcomplete key id answer rfl
    | _ => exact absurd heq (by simp [Action.answered?])
  cases h with
  | keep hidle _ _ hsame =>
      rw [hsame] at hf
      refine ⟨hf, fun heq => ?_⟩
      cases a with
      | complete key id' answer =>
          injection Option.some.inj heq with hkey hid
          exact hidle key id' answer rfl birth (by rw [hkey, hid]; exact hf)
      | _ => exact absurd heq (by simp [Action.answered?])
  | @add key hcomplete _ _ _ hadd =>
      rw [hadd] at hf
      by_cases hk : k = key
      · rw [if_pos hk] at hf
        exact absurd hf (by simp)
      · rw [if_neg hk] at hf
        exact ⟨hf, hother hcomplete⟩
  | @evict key hcomplete _ _ _ hevict =>
      rw [hevict] at hf
      by_cases hk : k = key
      · rw [if_pos hk] at hf
        exact absurd hf (by simp)
      · rw [if_neg hk] at hf
        exact ⟨hf, hother hcomplete⟩
  | @answer key id' _ _ ha _ _ _ hanswer =>
      rw [hanswer] at hf
      by_cases hk : k = key
      · rw [if_pos hk] at hf
        exact absurd hf (by simp)
      · rw [if_neg hk] at hf
        refine ⟨hf, fun heq => hk ?_⟩
        rw [ha] at heq
        injection Option.some.inj heq with hkey
        exact hkey.symm

omit [DecidableEq κ] in
/-- Who is there was there before, or is new. -/
theorem Store.Frees.birth (h : s.Frees a effects s₁) {k : CacheKey} {birth : Nat}
    {id : Option Nat} (hf : s₁.flight k = some (birth, id)) :
    (∃ id', s.flight k = some (birth, id')) ∨ (birth = s.created ∧ s.created < s₁.created) := by
  cases h with
  | keep _ _ _ hsame => exact Or.inl ⟨id, by rw [← hsame]; exact hf⟩
  | @add key _ _ _ hcreated hadd =>
      rw [hadd] at hf
      by_cases hk : k = key
      · rw [if_pos hk] at hf
        injection Option.some.inj hf with hbirth
        exact Or.inr ⟨hbirth.symm, by omega⟩
      · rw [if_neg hk] at hf
        exact Or.inl ⟨id, hf⟩
  | @evict key _ _ _ _ hevict =>
      rw [hevict] at hf
      by_cases hk : k = key
      · rw [if_pos hk] at hf
        exact absurd hf (by simp)
      · rw [if_neg hk] at hf
        exact Or.inl ⟨id, hf⟩
  | @answer key id' birth' _ _ hwaited _ _ hanswer =>
      rw [hanswer] at hf
      by_cases hk : k = key
      · rw [if_pos hk] at hf
        injection Option.some.inj hf with hbirth
        exact Or.inl ⟨some id', by rw [hk, ← hbirth]; exact hwaited⟩
      · rw [if_neg hk] at hf
        exact Or.inl ⟨id, hf⟩

omit [DecidableEq κ] in
/-- Who waits for another answer goes on waiting, or is evicted. -/
theorem Store.Frees.waits (h : s.Frees a effects s₁) {k : CacheKey} {birth id : Nat}
    (hf : s.flight k = some (birth, some id)) (ha : a.answered? ≠ some (k, id)) :
    s₁.flight k = some (birth, some id) ∨
      (s₁.flight k = none ∧ .emit (.evicted k) ∈ effects) := by
  cases h with
  | keep _ _ _ hsame => exact Or.inl ((hsame k).trans hf)
  | @add key _ habsent _ _ hadd =>
      have hk : k ≠ key := by
        rintro rfl
        rw [habsent] at hf
        exact absurd hf (by simp)
      exact Or.inl (by rw [hadd, if_neg hk]; exact hf)
  | @evict key _ heffects _ _ hevict =>
      by_cases hk : k = key
      · refine Or.inr ⟨by rw [hevict, if_pos hk], ?_⟩
        rw [heffects, hk]
        exact List.mem_singleton.mpr rfl
      · exact Or.inl (by rw [hevict, if_neg hk]; exact hf)
  | @answer key id' birth' answer haction hwaited _ _ hanswer =>
      by_cases hk : k = key
      · -- it waits for one request only
        rw [hk, hwaited] at hf
        injection Option.some.inj hf with _ hid
        refine absurd ?_ ha
        rw [haction, hk, ← Option.some.inj hid]
        rfl
      · exact Or.inl (by rw [hanswer, if_neg hk]; exact hf)

end

/-- An orphan stays one: births are not given again. -/
theorem Orphaned.later {x : Errand} {birth : Nat} (h : Orphaned past s x birth)
    (hlater : ∀ b id, s'.flight x.key = some (b, id) →
      b ≠ birth ∨ ∃ id', s.flight x.key = some (b, id')) : Orphaned (m :: past) s' x birth := by
  obtain ⟨⟨r, hr, hrest⟩, hbirth⟩ := h
  refine ⟨⟨r, List.mem_cons_of_mem _ hr, hrest⟩, fun b id hf => ?_⟩
  rcases hlater b id hf with hne | ⟨id', hf'⟩
  · exact hne
  · exact hbirth b id' hf'

theorem Tracks.frees (h : Tracks past xs m.before) (htime : m.time = past.length)
    {s₁ : Store κ ε} (hfrees : m.before.Frees m.action m.effects s₁)
    (hgone : ∀ k, s₁.flight k = none → m.after.find? k = none) :
    Tracks (m :: past) (xs.filter fun x => m.action.answered? ≠ some (x.key, x.id)) s₁ := by
  obtain ⟨hnext, hcreated⟩ := hfrees.counters
  have hmem : ∀ x, x ∈ xs.filter (fun x => m.action.answered? ≠ some (x.key, x.id)) ↔
      x ∈ xs ∧ m.action.answered? ≠ some (x.key, x.id) := by
    intro x
    rw [List.mem_filter, decide_eq_true_eq]
  constructor
  case nodup =>
    exact h.nodup.sublist (List.filter_sublist.map _)
  case ids =>
    intro x hx
    rw [hnext]
    exact h.ids x ((hmem x).mp hx).1
  case times =>
    intro x hx
    exact Nat.lt_succ_of_lt (h.times x ((hmem x).mp hx).1)
  case waits =>
    intro k birth id hf
    obtain ⟨hf', hnot⟩ := hfrees.waited hf
    obtain ⟨x, hx, rfl, rfl, hbirth⟩ := h.waits k birth id hf'
    exact ⟨x, (hmem x).mpr ⟨hx, hnot⟩, rfl, rfl, hbirth⟩
  case fate =>
    intro x hx
    obtain ⟨hx, hnot⟩ := (hmem x).mp hx
    obtain ⟨birth, hbirth, hlt, hfate⟩ := h.fate x hx
    refine ⟨birth, hbirth, Nat.lt_of_lt_of_le hlt hcreated, ?_⟩
    rcases hfate with hwaits | horphan
    · rcases hfrees.waits hwaits hnot with hkept | ⟨hnone, hevicted⟩
      · exact Or.inl hkept
      · -- its entry is evicted now
        obtain ⟨e, he, heb, _⟩ := flight_eq_some.mp hwaits
        refine Or.inr ⟨⟨m, List.mem_cons_self, ?_, ⟨e, he, heb⟩, hevicted, hgone _ hnone⟩, ?_⟩
        · rw [htime]; exact h.times x hx
        · intro b id hf
          rw [hnone] at hf
          exact absurd hf (by simp)
    · refine Or.inr (horphan.later fun b id hf => ?_)
      rcases hfrees.birth hf with hold | ⟨rfl, _⟩
      · exact Or.inr hold
      · exact Or.inl (Nat.ne_of_gt hlt)
  case single =>
    intro x hx y hy
    exact h.single x ((hmem x).mp hx).1 y ((hmem y).mp hy).1
  case births =>
    intro k birth id hf
    rcases hfrees.birth hf with ⟨id', hold⟩ | ⟨rfl, hnew⟩
    · exact Nat.lt_of_lt_of_le (h.births k birth id' hold) hcreated
    · exact hnew

/-- A request that is sent is for an entry that did not wait, and waits for it now. -/
theorem exists_of_mem_errands {s₁ : Store κ ε} (hd : s₁.Dispatches m.effects m.after)
    {x : Errand} (hx : x ∈ m.errands) : ∃ birth, x.birth = some birth ∧ x.time = m.time ∧
      s₁.flight x.key = some (birth, none) ∧ m.after.flight x.key = some (birth, some x.id) := by
  obtain ⟨f, hf, rfl⟩ := List.mem_map.mp hx
  obtain ⟨birth, hidle, hwaits⟩ := hd.sent f hf
  refine ⟨birth, ?_, rfl, hidle, hwaits⟩
  unfold Moment.errand
  rw [hwaits]
  rfl

theorem flight_of_not_mem_errands {s₁ : Store κ ε} (hd : s₁.Dispatches m.effects m.after)
    {k : CacheKey} (hk : ∀ x ∈ m.errands, x.key ≠ k) : m.after.flight k = s₁.flight k :=
  hd.kept k fun _ hf => hk _ (List.mem_map.mpr ⟨_, hf, rfl⟩)

theorem birth_dispatches {s₁ : Store κ ε} (hd : s₁.Dispatches m.effects m.after) {k : CacheKey}
    {birth : Nat} {id : Option Nat} (hf : m.after.flight k = some (birth, id)) :
    ∃ id', s₁.flight k = some (birth, id') := by
  by_cases hk : ∃ x ∈ m.errands, x.key = k
  · obtain ⟨x, hx, rfl⟩ := hk
    obtain ⟨b, _, _, hidle, hwaits⟩ := exists_of_mem_errands hd hx
    rw [hwaits] at hf
    injection Option.some.inj hf with hb
    exact ⟨none, by rw [← hb]; exact hidle⟩
  · have hsame := flight_of_not_mem_errands hd fun x hx heq => hk ⟨x, hx, heq⟩
    exact ⟨id, hsame.symm.trans hf⟩

theorem Tracks.dispatches {s₁ : Store κ ε} (h : Tracks (m :: past) xs s₁)
    (htime : m.time = past.length) (hd : s₁.Dispatches m.effects m.after) :
    Tracks (m :: past) (xs ++ m.errands) m.after := by
  have hids : m.errands.map (fun x => x.id) = List.range' s₁.nextRequest m.errands.length := by
    have hmap : m.errands.map (fun x => x.id) = (sends m.effects).map fun f => f.id := by
      unfold Moment.errands
      rw [List.map_map]
      rfl
    rw [hmap, hd.ids]
    unfold Moment.errands
    rw [List.length_map]
  have hnext : m.after.nextRequest = s₁.nextRequest + m.errands.length := by
    unfold Moment.errands
    rw [List.length_map]
    exact hd.next
  have hnew : ∀ x ∈ m.errands, s₁.nextRequest ≤ x.id ∧ x.id < m.after.nextRequest := by
    intro x hx
    have hid : x.id ∈ m.errands.map fun x => x.id := List.mem_map.mpr ⟨x, hx, rfl⟩
    rw [hids, List.mem_range'_1] at hid
    omega
  -- an old errand is of an entry that is gone or waits already, so the two are of different entries
  have hapart : ∀ x ∈ xs, ∀ y ∈ m.errands, x.key = y.key → x.birth ≠ y.birth := by
    intro x hx y hy hkey hbirth
    obtain ⟨birth, hxb, _, hfate⟩ := h.fate x hx
    obtain ⟨b, hyb, _, hidle, _⟩ := exists_of_mem_errands hd hy
    rw [hxb, hyb] at hbirth
    obtain rfl := Option.some.inj hbirth
    rw [← hkey] at hidle
    rcases hfate with hwaits | horphan
    · rw [hidle] at hwaits
      exact absurd hwaits (by simp)
    · exact horphan.2 _ _ hidle rfl
  constructor
  case nodup =>
    rw [List.map_append, List.nodup_append]
    refine ⟨h.nodup, hids ▸ List.nodup_range' , ?_⟩
    intro i hi j hj heq
    obtain ⟨x, hx, rfl⟩ := List.mem_map.mp hi
    obtain ⟨y, hy, rfl⟩ := List.mem_map.mp hj
    have := h.ids x hx
    have := (hnew y hy).1
    omega
  case ids =>
    intro x hx
    rcases List.mem_append.mp hx with hx | hx
    · have := h.ids x hx
      omega
    · exact (hnew x hx).2
  case times =>
    intro x hx
    rcases List.mem_append.mp hx with hx | hx
    · exact h.times x hx
    · obtain ⟨_, _, ht, _⟩ := exists_of_mem_errands hd hx
      rw [ht, htime]
      exact Nat.lt_succ_self _
  case waits =>
    intro k birth id hf
    by_cases hk : ∃ x ∈ m.errands, x.key = k
    · obtain ⟨x, hx, rfl⟩ := hk
      obtain ⟨b, hb, _, _, hwaits⟩ := exists_of_mem_errands hd hx
      rw [hwaits] at hf
      injection Option.some.inj hf with hbirth hid
      exact ⟨x, List.mem_append_right _ hx, rfl, Option.some.inj hid, by rw [hb, hbirth]⟩
    · have hsame := flight_of_not_mem_errands hd fun x hx heq => hk ⟨x, hx, heq⟩
      obtain ⟨x, hx, hrest⟩ := h.waits k birth id (hsame.symm.trans hf)
      exact ⟨x, List.mem_append_left _ hx, hrest⟩
  case fate =>
    intro x hx
    rcases List.mem_append.mp hx with hx | hx
    · obtain ⟨birth, hbirth, hlt, hfate⟩ := h.fate x hx
      refine ⟨birth, hbirth, by rw [hd.created]; exact hlt, ?_⟩
      rcases hfate with hwaits | ⟨hpast, hother⟩
      · -- it waits, so nothing is sent for it
        refine Or.inl ((flight_of_not_mem_errands hd fun y hy heq => ?_).trans hwaits)
        obtain ⟨_, _, _, hidle, _⟩ := exists_of_mem_errands hd hy
        rw [heq, hwaits] at hidle
        exact absurd hidle (by simp)
      · refine Or.inr ⟨hpast, fun b id hf => ?_⟩
        obtain ⟨id', hold⟩ := birth_dispatches hd hf
        exact hother b id' hold
    · obtain ⟨birth, hbirth, _, hidle, hwaits⟩ := exists_of_mem_errands hd hx
      refine ⟨birth, hbirth, ?_, Or.inl hwaits⟩
      rw [hd.created]
      exact h.births _ _ _ hidle
  case single =>
    intro x hx y hy hkey hbirth
    rcases List.mem_append.mp hx with hx | hx <;> rcases List.mem_append.mp hy with hy | hy
    · exact h.single x hx y hy hkey hbirth
    · exact absurd hbirth (hapart x hx y hy hkey)
    · exact absurd hbirth.symm (hapart y hy x hx hkey.symm)
    · -- an entry waits for one request at most
      obtain ⟨_, hxb, hxt, _, hxw⟩ := exists_of_mem_errands hd hx
      obtain ⟨_, hyb, hyt, _, hyw⟩ := exists_of_mem_errands hd hy
      rw [hkey, hyw] at hxw
      injection Option.some.inj hxw with _ hid
      obtain ⟨xk, xi, xb, xt⟩ := x
      obtain ⟨yk, yi, yb, yt⟩ := y
      have hids : yi = xi := Option.some.inj hid
      change xk = yk at hkey
      change xb = yb at hbirth
      change xt = m.time at hxt
      change yt = m.time at hyt
      rw [hkey, hbirth, hxt, hyt, hids]
  case births =>
    intro k birth id hf
    obtain ⟨id', hold⟩ := birth_dispatches hd hf
    rw [hd.created]
    exact h.births k birth id' hold

/-- **Every moment keeps track.** -/
theorem tracks_step (h : Tracks past (underway past) m.before) (htime : m.time = past.length) :
    Tracks (m :: past) (underway (m :: past)) m.after := by
  obtain ⟨s₁, hfrees, hd⟩ := frees_act m.before m.action
  refine (h.frees htime hfrees fun k hk => ?_).dispatches htime hd
  -- nothing is sent for an entry that is gone
  have hnone : m.after.flight k = s₁.flight k := by
    refine flight_of_not_mem_errands hd fun x hx heq => ?_
    obtain ⟨_, _, _, hidle, _⟩ := exists_of_mem_errands hd hx
    rw [heq, hk] at hidle
    exact absurd hidle (by simp)
  rw [hk] at hnone
  unfold flight at hnone
  exact Option.map_eq_none_iff.mp hnone

theorem tracks_run {config : StoreConfig} (h : Run config past s) :
    Tracks past (underway past) s := by
  induction h with
  | init => exact tracks_new config
  | @tail past s _ a ih => exact tracks_step (m := ⟨past.length, s, a⟩) ih rfl

/-- Ids are given out one after another. -/
theorem nextRequest_run {config : StoreConfig} (h : Run config past s) :
    s.nextRequest = (started past).length := by
  induction h with
  | init => rfl
  | @tail past s _ a ih =>
      obtain ⟨s₁, hfrees, hd⟩ := frees_act s a
      rw [hd.next, hfrees.counters.1, ih]
      unfold started
      rw [List.flatMap_cons, List.length_append, Moment.errands, List.length_map]
      exact Nat.add_comm _ _

/-! ## What an entry waits for -/

theorem Tracks.inFlight_iff (h : Tracks past xs s) {k : CacheKey} {e : Entry κ ε} {id : Nat}
    (he : s.find? k = some e) :
    e.inFlight = some id ↔ ∃ x ∈ xs, x.key = k ∧ x.id = id ∧ x.birth = some e.birth := by
  have hflight := flight_of_find? he
  constructor
  · intro hf
    rw [hf] at hflight
    exact h.waits k e.birth id hflight
  · rintro ⟨x, hx, rfl, rfl, hbirth⟩
    obtain ⟨birth, hb, _, hfate⟩ := h.fate x hx
    rw [hb] at hbirth
    obtain rfl := Option.some.inj hbirth
    rcases hfate with hwaits | horphan
    · rw [hflight] at hwaits
      injection Option.some.inj hwaits
    · -- the entry that is there is not the one that is gone
      exact absurd rfl (horphan.2 _ _ hflight)

theorem Store.completeFetch_of_idle {key : CacheKey} {id : Nat}
    (hidle : ∀ e, s.find? key = some e → e.inFlight ≠ some id) (answer : Except ε Json) :
    s.completeFetch key id answer = (s, []) := by
  rcases completeFetch_cases s key id answer with ⟨h, _⟩ | ⟨e, he, hf, _⟩ | ⟨e, he, hf, _⟩
  · exact h
  · exact absurd hf (hidle e he)
  · exact absurd hf (hidle e he)

/-- **What an entry waits for is underway, and what is underway for nobody changes nothing.** In
every state of every run the requests underway have different ids, all given out; an entry waits for
a request if and only if that is underway and was sent for this very entry; no entry has two
underway. Every other request underway was sent for an entry that has been evicted since, and
whatever its answer, the store takes no notice. -/
theorem requests_tracked {config : StoreConfig} (h : Run config past s) :
    ((underway past).map fun x => x.id).Nodup ∧
      (∀ x ∈ underway past, x.id < s.nextRequest) ∧ s.nextRequest = (started past).length ∧
      (∀ k e id, s.find? k = some e → (e.inFlight = some id ↔
        ∃ x ∈ underway past, x.key = k ∧ x.id = id ∧ x.birth = some e.birth)) ∧
      (∀ x ∈ underway past, ∀ y ∈ underway past, x.key = y.key → x.birth = y.birth → x = y) ∧
      ∀ x ∈ underway past, (∀ e, s.find? x.key = some e → e.inFlight ≠ some x.id) →
        (∃ birth, x.birth = some birth ∧
          ∃ r ∈ past, x.time < r.time ∧ r.Evicts x.key birth) ∧
        ∀ answer, s.act (.complete x.key x.id answer) = (s, []) := by
  have ht := tracks_run h
  refine ⟨ht.nodup, ht.ids, nextRequest_run h, fun k e id he => ht.inFlight_iff he, ht.single, ?_⟩
  intro x hx hidle
  obtain ⟨birth, hbirth, _, hfate⟩ := ht.fate x hx
  refine ⟨⟨birth, hbirth, ?_⟩, completeFetch_of_idle hidle⟩
  rcases hfate with hwaits | horphan
  · obtain ⟨e, he, _, hf⟩ := flight_eq_some.mp hwaits
    exact absurd hf (hidle e he)
  · exact horphan.1

/-- An entry is evicted while its request is on its way, and another is created under its key. It
asks for the same request again, and waits for its own. The answer to the first one comes late, and
nobody takes notice. -/
theorem requests_tracked_recreated :
    let p := play {} [Sample.ask, .unsubscribe Sample.key true, .evict Sample.key 2, Sample.ask]
    underway p.1 = [⟨Sample.key, 0, some 0, 0⟩, ⟨Sample.key, 1, some 1, 3⟩] ∧
      p.2.flight Sample.key = some (1, some 1) ∧
      (∃ r ∈ p.1, 0 < r.time ∧ r.Evicts Sample.key 0) ∧
      ∀ answer, p.2.act (.complete Sample.key 0 answer) = (p.2, []) := by
  intro p
  have hunderway : underway p.1 = [⟨Sample.key, 0, some 0, 0⟩, ⟨Sample.key, 1, some 1, 3⟩] := by
    decide
  have hflight : p.2.flight Sample.key = some (1, some 1) := by decide
  obtain ⟨_, _, _, _, _, hlate⟩ := requests_tracked (show Run {} p.1 p.2 from run_play _ _)
  have hmem : (⟨Sample.key, 0, some 0, 0⟩ : Errand) ∈ underway p.1 := by
    rw [hunderway]
    exact List.mem_cons_self
  obtain ⟨⟨birth, hbirth, hevicted⟩, hnothing⟩ := hlate _ hmem fun e he hf => by
    rw [flight_of_find? he, hf] at hflight
    injection Option.some.inj hflight with _ hid
    exact absurd hid (by simp)
  obtain rfl := Option.some.inj hbirth
  exact ⟨hunderway, hflight, hevicted, hnothing⟩

end TagCache
