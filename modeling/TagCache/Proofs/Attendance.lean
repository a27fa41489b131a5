import TagCache.Proofs.Proceeds

/-!
# Who keeps an entry

An entry comes with its first subscriber. It stays while it has subscribers, and goes some time
after the last. What the store knows about that is an entry's `Attendance`: how many subscribe to
it, and a generation that advances with every one that comes or leaves. The birth of the entry
stands beside them, because under one key one entry may follow another.

Most operations leave all of this alone. What they have in common is `Store.Proceeds`: they write
over data, mark entries and start requests, one small write after another. Three operations do more,
and `Store.Visits` says what: someone subscribes, someone leaves, an eviction finds its entry
unused.
-/

namespace TagCache

variable {κ ε : Type}

/-- How an entry is kept. -/
structure Attendance where
  birth : Nat
  subscribers : Nat
  generation : Nat
  deriving DecidableEq

namespace Attendance

/-- One more subscriber. -/
def join (a : Attendance) : Attendance :=
  { a with subscribers := a.subscribers + 1, generation := a.generation + 1 }

/-- One subscriber less. -/
def leave (a : Attendance) : Attendance :=
  { a with subscribers := a.subscribers - 1, generation := a.generation + 1 }

end Attendance

/-- How an entry is kept. -/
def Entry.attendance (e : Entry κ ε) : Attendance := ⟨e.birth, e.subscribers, e.generation⟩

/-- The entry when a subscriber has left. -/
def Entry.left (e : Entry κ ε) : Entry κ ε :=
  { e with subscribers := e.subscribers - 1, generation := e.generation + 1 }

namespace Store

/-- How the entry under a key is kept. -/
def attendance (s : Store κ ε) (key : CacheKey) : Option Attendance :=
  (s.find? key).map Entry.attendance

variable {s s' s'' : Store κ ε} {key : CacheKey} {effects effects' : List (Effect κ ε)}

theorem attendance_of_find? {e : Entry κ ε} (h : s.find? key = some e) :
    s.attendance key = some e.attendance := by
  unfold attendance
  rw [h, Option.map_some]

theorem attendance_eq_none : s.attendance key = none ↔ s.find? key = none := by
  unfold attendance
  rw [Option.map_eq_none_iff]

theorem attendance_eq_some {a : Attendance} :
    s.attendance key = some a ↔ ∃ e, s.find? key = some e ∧ e.attendance = a := by
  unfold attendance
  rw [Option.map_eq_some_iff]

theorem attendance_setEntry (s : Store κ ε) (key k : CacheKey) (e : Entry κ ε) :
    (s.setEntry key e).attendance k =
      if k = key then some e.attendance else s.attendance k := by
  unfold attendance
  rw [find?_setEntry]
  split
  · rfl
  · rfl

/-- A write that leaves the counts alone is not noticed. -/
theorem attendance_setEntry_same {e : Entry κ ε} (he : s.find? key = some e) (e' : Entry κ ε)
    (hsame : e'.attendance = e.attendance) (k : CacheKey) :
    (s.setEntry key e').attendance k = s.attendance k := by
  rw [attendance_setEntry]
  split
  · rename_i hk
    rw [hk, attendance_of_find? he, hsame]
  · rfl

theorem Proceeds.attendance (h : s.Proceeds effects s') (k : CacheKey) :
    s'.attendance k = s.attendance k := by
  induction h with
  | refl => rfl
  | @data _ _ e he data => exact attendance_setEntry_same he (e.setData data) rfl k
  | @flag _ _ e he _ => exact attendance_setEntry_same he { e with refetchAfter := true } rfl k
  | @stale _ _ e he _ flag =>
      exact attendance_setEntry_same he ({ e with refetchAfter := flag }.setStatus .stale) rfl k
  | @fetch s _ e he _ => exact attendance_setEntry_same he (e.awaiting s.nextRequest) rfl k
  | emit => rfl
  | trans _ _ ih ih' => exact ih'.trans ih

/-! ## Coming and leaving -/

/-- How an entry is kept after one more has subscribed: the one that is there, or a new one. -/
def joined (s : Store κ ε) (key : CacheKey) : Attendance :=
  ((s.attendance key).getD ⟨s.created, 0, 0⟩).join

theorem attendance_join (s : Store κ ε) (key : CacheKey) (e : Entry κ ε) (k : CacheKey) :
    (s.join key e).1.attendance k =
      if k = key then some e.attendance.join else s.attendance k := by
  have hcounts := attendance_setEntry s key k { e with
    subscribers := e.subscribers + 1, generation := e.generation + 1 }
  unfold join
  dsimp only
  split
  · exact ((proceeds_beginFetch _ key).attendance k).trans hcounts
  · exact hcounts

theorem quiet_join (s : Store κ ε) (key : CacheKey) (e : Entry κ ε) :
    ∀ x ∈ (s.join key e).2, x.ends = false := by
  unfold join
  dsimp only
  split
  · exact (proceeds_beginFetch _ key).quiet
  · simp

section

variable {α ρ : Type} {q : Query κ α ρ} {arg : α} {view : Subscription ρ}

theorem attendance_subscribe (h : s.subscribe q arg = .ok (view, s', effects)) (k : CacheKey) :
    s'.attendance k = if k = view.key then some (s.joined view.key) else s.attendance k := by
  unfold joined
  rcases subscribe_join h with ⟨e, he, hjoin⟩ | ⟨habsent, request, _, hjoin⟩
  · have hatt := attendance_join s view.key e k
    rw [hjoin] at hatt
    rw [hatt, attendance_of_find? he, Option.getD_some]
  · have hatt := attendance_join (s.add view.key q.name request (rawTags q arg)) view.key
      (.new q.name request (rawTags q arg) s.created) k
    rw [hjoin] at hatt
    rw [hatt, attendance_eq_none.mpr habsent, Option.getD_none]
    split
    · rfl
    · -- the new entry is under the key that was asked for
      rename_i hk
      unfold attendance
      rw [find?_add, if_neg hk]

/-- A view is one of the entry that it was subscribed to. -/
theorem birth_subscribe (h : s.subscribe q arg = .ok (view, s', effects)) :
    view.birth = (s.joined view.key).birth := by
  unfold subscribe at h
  cases hkey : q.key arg with
  | error _ => rw [hkey] at h; exact absurd h (by simp)
  | ok key =>
      cases hreq : q.request arg with
      | error _ => rw [hkey, hreq] at h; exact absurd h (by simp)
      | ok request =>
          rw [hkey, hreq] at h
          unfold joined
          cases he : s.find? key with
          | some e =>
              simp only [he, Except.ok.injEq, Prod.mk.injEq] at h
              obtain ⟨rfl, _⟩ := h
              rw [attendance_of_find? he]
              rfl
          | none =>
              simp only [he, Except.ok.injEq, Prod.mk.injEq] at h
              obtain ⟨rfl, _⟩ := h
              rw [attendance_eq_none.mpr he]
              rfl

theorem quiet_subscribe (h : s.subscribe q arg = .ok (view, s', effects)) :
    ∀ x ∈ effects, x.ends = false := by
  rcases subscribe_join h with ⟨e, _, hjoin⟩ | ⟨_, request, _, hjoin⟩
  · have hquiet := quiet_join s view.key e
    rw [hjoin] at hquiet
    exact hquiet
  · have hquiet := quiet_join (s.add view.key q.name request (rawTags q arg)) view.key
      (.new q.name request (rawTags q arg) s.created)
    rw [hjoin] at hquiet
    exact hquiet

end

section

variable [DecidableEq κ]

theorem attendance_without (s : Store κ ε) (key k : CacheKey) (e : Entry κ ε) :
    (s.without key e).attendance k = if k = key then none else s.attendance k := by
  unfold attendance
  rw [find?_without]
  split
  · rfl
  · rfl

/-- An entry without subscribers is evicted under its generation. -/
theorem evict_of_unused {e : Entry κ ε} (he : s.find? key = some e) (hsubs : e.subscribers = 0) :
    s.evict key e.generation = (s.without key e, [.emit (.evicted key)]) := by
  unfold evict
  rw [he]
  dsimp only
  rw [if_pos (by simp [hsubs])]
  rfl

/-- Who subscribes does not change with an answer, and no entry ends with it. -/
theorem attendance_completeFetch (s : Store κ ε) (key : CacheKey) (id : Nat)
    (answer : Except ε Json) :
    (∀ k, (s.completeFetch key id answer).1.attendance k = s.attendance k) ∧
      ∀ x ∈ (s.completeFetch key id answer).2, x.ends = false := by
  rcases completeFetch_cases s key id answer with
    ⟨h, _⟩ | ⟨e, he, _, _, h⟩ | ⟨e, he, hf, hsubs, _⟩
  · rw [h]
    exact ⟨fun _ => rfl, by simp⟩
  · rw [h]
    exact ⟨attendance_setEntry_same he (discard { e with inFlight := none }) rfl, by simp⟩
  · obtain ⟨event, hevent, h⟩ := completeFetch_taken he hf hsubs answer
    have hp := proceeds_taken s key e (outcome e answer)
    rw [h]
    refine ⟨fun k => (hp.attendance k).trans ?_, fun x hx => ?_⟩
    · have hsame : (e.settled (outcome e answer)).attendance = e.attendance := by
        cases outcome e answer with
        | ok r => rfl
        | error error => rfl
      exact attendance_setEntry_same he (e.settled (outcome e answer)) hsame k
    · rcases List.mem_cons.mp hx with rfl | hx
      · exact hevent
      · exact hp.quiet x hx

/-! ## Comings and goings -/

/-- What an action does to those who keep an entry, in five ways. -/
inductive Visits (s : Store κ ε) : Action κ ε → List (Effect κ ε) → Store κ ε → Prop where
  /-- Nobody comes, nobody leaves, no entry ends. -/
  | nobody {a : Action κ ε} {effects : List (Effect κ ε)} {s' : Store κ ε}
      (hsubscribe : ∀ {α ρ : Type} (q : Query κ α ρ) (arg : α), a = .subscribe q arg →
        ∃ error, s.subscribe q arg = .error error)
      (hunsubscribe : ∀ key hasTimer, a = .unsubscribe key hasTimer → s.attendance key = none)
      (hevict : ∀ key birth generation, a = .evict key generation →
        s.attendance key ≠ some ⟨birth, 0, generation⟩)
      (h : ∀ k, s'.attendance k = s.attendance k) (hquiet : ∀ x ∈ effects, x.ends = false) :
      Visits s a effects s'
  /-- Someone subscribes. -/
  | join {α ρ : Type} {q : Query κ α ρ} {arg : α} {view : Subscription ρ}
      {effects : List (Effect κ ε)} {s' : Store κ ε}
      (hsubscribe : s.subscribe q arg = .ok (view, s', effects))
      (h : ∀ k, s'.attendance k = if k = view.key then some (s.joined view.key) else s.attendance k)
      (hquiet : ∀ x ∈ effects, x.ends = false) : Visits s (.subscribe q arg) effects s'
  /-- Someone leaves. If nobody is left, the entry will be evicted. -/
  | leave {key : CacheKey} {hasTimer : Bool} {a : Attendance} {s' : Store κ ε}
      (ha : s.attendance key = some a)
      (hstay : 0 < a.leave.subscribers ∨ s.config.keepUnused ≠ 0)
      (h : ∀ k, s'.attendance k = if k = key then some a.leave else s.attendance k) :
      Visits s (.unsubscribe key hasTimer)
        (if a.leave.subscribers = 0 ∧ hasTimer = true then [.evictLater key a.leave.generation]
          else []) s'
  /-- The last one leaves, and the entry goes at once. -/
  | gone {key : CacheKey} {hasTimer : Bool} {a : Attendance} {s' : Store κ ε}
      (ha : s.attendance key = some a) (hlast : a.leave.subscribers = 0)
      (hzero : s.config.keepUnused = 0)
      (h : ∀ k, s'.attendance k = if k = key then none else s.attendance k) :
      Visits s (.unsubscribe key hasTimer) [.emit (.evicted key)] s'
  /-- An entry that nobody has subscribed to since `generation` is evicted. -/
  | evict {key : CacheKey} {birth generation : Nat} {s' : Store κ ε}
      (ha : s.attendance key = some ⟨birth, 0, generation⟩)
      (h : ∀ k, s'.attendance k = if k = key then none else s.attendance k) :
      Visits s (.evict key generation) [.emit (.evicted key)] s'

omit [DecidableEq κ] in
/-- An entry is kept as before, or somebody has come to it or left it. -/
theorem Visits.before {a : Action κ ε} (h : s.Visits a effects s') {k : CacheKey} {x' : Attendance}
    (hx' : s'.attendance k = some x') :
    (∃ (α ρ : Type) (q : Query κ α ρ) (arg : α) (view : Subscription ρ),
        s.subscribe q arg = .ok (view, s', effects) ∧ k = view.key ∧ x' = s.joined k) ∨
      (∃ x, s.attendance k = some x ∧ x' = x.leave ∧
        (0 < x'.subscribers ∨ s.config.keepUnused ≠ 0)) ∨
      s.attendance k = some x' := by
  -- an entry that is gone is not the one that is there
  have hgone : ∀ key, (∀ k, s'.attendance k = if k = key then none else s.attendance k) →
      s.attendance k = some x' := by
    intro key hatt
    rw [hatt k] at hx'
    split at hx'
    · exact absurd hx' (by simp)
    · exact hx'
  cases h with
  | nobody _ _ _ hatt _ => exact Or.inr (Or.inr ((hatt k).symm.trans hx'))
  | @join _ _ q arg view _ _ hsubscribe hatt _ =>
      rw [hatt] at hx'
      split at hx'
      · rename_i hk
        obtain rfl := Option.some.inj hx'
        exact Or.inl ⟨_, _, q, arg, view, hsubscribe, hk, by rw [hk]⟩
      · exact Or.inr (Or.inr hx')
  | @leave key _ x _ hx hstay hatt =>
      rw [hatt] at hx'
      split at hx'
      · rename_i hk
        obtain rfl := Option.some.inj hx'
        exact Or.inr (Or.inl ⟨x, hk ▸ hx, rfl, hstay⟩)
      · exact Or.inr (Or.inr hx')
  | gone _ _ _ hatt => exact Or.inr (Or.inr (hgone _ hatt))
  | evict _ hatt => exact Or.inr (Or.inr (hgone _ hatt))

/-- The end of a subscription, step by step. -/
theorem unsubscribe_eq {e : Entry κ ε} (he : s.find? key = some e) (hasTimer : Bool) :
    s.unsubscribe key hasTimer =
      if 0 < e.left.subscribers then (s.setEntry key e.left, [])
      else if s.config.keepUnused = 0 then
        ((s.setEntry key e.left).without key e.left, [.emit (.evicted key)])
      else (s.setEntry key e.left,
        if hasTimer then [.evictLater key e.left.generation] else []) := by
  unfold unsubscribe
  rw [he]
  dsimp only
  change (if 0 < e.left.subscribers then _ else _) = _
  split
  · rfl
  · rename_i hlast
    have hnone : e.left.subscribers = 0 := Nat.eq_zero_of_not_pos hlast
    -- the generation is the present one
    rw [← evict_of_unused (by rw [find?_setEntry, if_pos rfl]) hnone]
    rfl

theorem visits_unsubscribe (s : Store κ ε) (key : CacheKey) (hasTimer : Bool) :
    s.Visits (.unsubscribe key hasTimer) (s.unsubscribe key hasTimer).2
      (s.unsubscribe key hasTimer).1 := by
  cases he : s.find? key with
  | none =>
      have hnothing : s.unsubscribe key hasTimer = (s, []) := by
        unfold unsubscribe
        rw [he]
      rw [hnothing]
      refine .nobody (fun q arg heq => absurd heq (by simp)) ?_ (by simp) (fun _ => rfl) (by simp)
      intro key' hasTimer' heq
      injection heq with hkey
      exact attendance_eq_none.mpr (hkey ▸ he)
  | some e =>
      have ha := attendance_of_find? he
      have hatt := fun k => attendance_setEntry s key k e.left
      rw [unsubscribe_eq he]
      by_cases hmore : 0 < e.left.subscribers
      · have hvisit : s.Visits (.unsubscribe key hasTimer) _ _ := .leave ha (Or.inl hmore) hatt
        have hsome : ¬ (e.attendance.leave.subscribers = 0 ∧ hasTimer = true) :=
          fun h => Nat.ne_of_gt hmore h.1
        rw [if_neg hsome] at hvisit
        rw [if_pos hmore]
        exact hvisit
      · rw [if_neg hmore]
        have hlast : e.attendance.leave.subscribers = 0 := Nat.eq_zero_of_not_pos hmore
        by_cases hzero : s.config.keepUnused = 0
        · rw [if_pos hzero]
          refine .gone ha hlast hzero fun k => ?_
          rw [attendance_without, hatt k]
          split
          · rfl
          · rfl
        · have hvisit : s.Visits (.unsubscribe key hasTimer) _ _ := .leave ha (Or.inr hzero) hatt
          rw [if_neg hzero]
          cases hasTimer with
          | true =>
              rw [if_pos ⟨hlast, rfl⟩] at hvisit
              exact hvisit
          | false =>
              rw [if_neg (by simp)] at hvisit
              exact hvisit

theorem visits_evict (s : Store κ ε) (key : CacheKey) (generation : Nat) :
    s.Visits (.evict key generation) (s.evict key generation).2 (s.evict key generation).1 := by
  rcases evict_cases s key generation with h | ⟨e, he, hsubs, hgeneration, h⟩
  · rw [h]
    refine .nobody (fun q arg heq => absurd heq (by simp)) (by simp) ?_ (fun _ => rfl) (by simp)
    intro key' birth generation' heq ha
    injection heq with hkey hgeneration
    subst hkey hgeneration
    -- it would have been evicted
    obtain ⟨e, he, hatt⟩ := attendance_eq_some.mp ha
    injection hatt with _ hsubs hgeneration
    have hgone := evict_of_unused he hsubs
    rw [hgeneration, h] at hgone
    exact absurd hgone (by simp)
  · rw [h]
    have ha : s.attendance key = some ⟨e.birth, 0, generation⟩ := by
      rw [attendance_of_find? he, Entry.attendance, hsubs, hgeneration]
    exact .evict ha fun k => attendance_without s key k e

theorem visits_plain (s : Store κ ε) {a : Action κ ε} (ha : a.isPlain = true) :
    s.Visits a (s.act a).2 (s.act a).1 := by
  have hp := proceeds_act s ha
  refine .nobody ?_ ?_ ?_ hp.attendance hp.quiet
  · rintro α ρ q arg rfl
    exact absurd ha (by simp [Action.isPlain])
  · rintro key hasTimer rfl
    exact absurd ha (by simp [Action.isPlain])
  · rintro key birth generation rfl
    exact absurd ha (by simp [Action.isPlain])

/-- **Every action is one of the five.** -/
theorem visits_act (s : Store κ ε) (a : Action κ ε) : s.Visits a (s.act a).2 (s.act a).1 := by
  cases a with
  | subscribe q arg =>
      simp only [act]
      cases hs : s.subscribe q arg with
      | error error =>
          refine .nobody ?_ (by simp) (by simp) (fun _ => rfl) (by simp)
          intro α ρ q' arg' heq
          cases heq
          exact ⟨error, hs⟩
      | ok r =>
          obtain ⟨view, s', effects⟩ := r
          exact .join hs (attendance_subscribe hs) (quiet_subscribe hs)
  | unsubscribe key hasTimer => exact visits_unsubscribe s key hasTimer
  | evict key generation => exact visits_evict s key generation
  | complete key id answer =>
      obtain ⟨hatt, hquiet⟩ := attendance_completeFetch s key id answer
      exact .nobody (fun q arg heq => absurd heq (by simp)) (by simp) (by simp) hatt hquiet
  | _ => exact visits_plain s rfl

end

end Store

end TagCache
