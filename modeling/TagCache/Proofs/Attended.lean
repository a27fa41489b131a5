import TagCache.Proofs.Requests
import TagCache.Proofs.WellFormed

/-!
# Nobody waits in vain

A subscriber sees an entry and waits until that settles. For the wait to end, a request has to be on
its way. An entry without subscribers has no claim to one: hits leave it stale, its answers are
thrown away, and nothing is sent. So whoever subscribes has to ask for what has been left undone,
and whatever happens to an entry with subscribers has to end with an outcome or with a request.

`Entry.Attended` is what subscribers may rely on. Every moment preserves it, and every subscription
brings it about, because an entry that is well-formed is either loading, or a success, or one that
asks.
-/

namespace TagCache

open Store

variable {κ ε : Type}

namespace Entry

/-- A request is on its way, or the last one has ended. -/
def Attended (e : Entry κ ε) : Prop :=
  e.inFlight.isSome = true ∨ e.snapshot.status.isSettled = true

/-- The entry with one more subscriber. If it has to ask for its request, it does so with `id`. -/
def joined (e : Entry κ ε) (id : Nat) : Entry κ ε :=
  let counted := { e with subscribers := e.subscribers + 1, generation := e.generation + 1 }
  if counted.needsFetch then counted.awaiting id else counted

variable {e e' : Entry κ ε} {key : CacheKey} {effects : List (Effect κ ε)} {lo hi : Nat}

theorem inFlight_of_needsFetch (h : e.needsFetch = true) : e.inFlight = none := by
  unfold needsFetch at h
  rw [Bool.and_eq_true, Option.isNone_iff_eq_none] at h
  exact h.1

/-- Who does not ask has asked already, or has nothing to ask for. -/
theorem WellFormed.shown_of_not_needsFetch (h : e.WellFormed) (hneeds : e.needsFetch = false) :
    (e.snapshot.status = .loading ∧ e.inFlight.isSome = true) ∨
      (e.snapshot.status = .success ∧ e.snapshot.data.isSome = true) := by
  cases hf : e.inFlight with
  | some id =>
      have hwaits : e.inFlight.isSome = true := by rw [hf]; rfl
      exact Or.inl ⟨h.loading.mpr hwaits, rfl⟩
  | none =>
      unfold needsFetch at hneeds
      rw [hf] at hneeds
      cases hstatus : e.snapshot.status with
      | success => exact Or.inr ⟨rfl, (h.success hstatus).1⟩
      | loading =>
          have hwaits := h.loading.mp hstatus
          rw [hf] at hwaits
          exact absurd hwaits (by simp)
      | uninitialized => rw [hstatus] at hneeds; exact absurd hneeds (by simp)
      | error => rw [hstatus] at hneeds; exact absurd hneeds (by simp)
      | stale => rw [hstatus] at hneeds; exact absurd hneeds (by simp)

/-- Whoever has just subscribed sees a request on its way, or data. -/
theorem WellFormed.shown_of_joined {id : Nat} (h : (e.joined id).WellFormed) :
    ((e.joined id).snapshot.status = .loading ∧ (e.joined id).inFlight.isSome = true) ∨
      ((e.joined id).snapshot.status = .success ∧ (e.joined id).snapshot.data.isSome = true) := by
  unfold joined at h ⊢
  dsimp only at h ⊢
  split
  · exact Or.inl ⟨rfl, rfl⟩
  · rename_i hneeds
    rw [if_neg hneeds] at h
    exact h.shown_of_not_needsFetch (by simpa using hneeds)

theorem subscribers_joined (e : Entry κ ε) (id : Nat) : 0 < (e.joined id).subscribers := by
  unfold joined
  dsimp only
  split
  · exact Nat.succ_pos _
  · exact Nat.succ_pos _

theorem Attended.drifts (h : e.Attended) (hd : e.Drifts key effects lo hi e') : e'.Attended := by
  rcases hd.flight with ⟨hf, hstatus⟩ | ⟨_, _, id, _, _, hf, _⟩
  · unfold Attended
    rw [hf, hstatus]
    exact h
  · exact Or.inl (by rw [hf]; rfl)

/-- Whom a hit finds with subscribers, it leaves with a request. -/
theorem attended_invalidated (hsubs : 0 < e.subscribers) (id : Nat) :
    (e.invalidated id).Attended := by
  unfold invalidated
  by_cases hwaits : e.inFlight.isSome = true
  · rw [if_pos hwaits]
    exact Or.inl hwaits
  · rw [if_neg hwaits, if_pos hsubs]
    exact Or.inl rfl

theorem attended_answered [DecidableEq κ] (e : Entry κ ε) (answer : Except ε Json) (id : Nat) :
    (e.answered answer id).Attended := by
  unfold answered
  split
  · -- the outcome is followed up
    exact Or.inl rfl
  · refine Or.inr ?_
    cases outcome e answer with
    | ok r => rfl
    | error error => rfl

end Entry

namespace Store

variable {s s' : Store κ ε} {effects : List (Effect κ ε)}

theorem find?_join (s : Store κ ε) (key : CacheKey) (e : Entry κ ε) :
    (s.join key e).1.find? key = some (e.joined s.nextRequest) := by
  unfold join Entry.joined
  dsimp only
  split
  · rename_i hneeds
    rw [beginFetch_of_idle (by rw [find?_setEntry, if_pos rfl])
      (Entry.inFlight_of_needsFetch hneeds)]
    change (Store.setEntry _ key _).find? key = _
    rw [find?_setEntry, if_pos rfl]
    rfl
  · rw [find?_setEntry, if_pos rfl]

theorem find?_subscribe {α ρ : Type} {q : Query κ α ρ} {arg : α} {view : Subscription ρ}
    (h : s.subscribe q arg = .ok (view, s', effects)) :
    ∃ e : Entry κ ε, s'.find? view.key = some (e.joined s.nextRequest) := by
  rcases subscribe_join h with ⟨e, _, hjoin⟩ | ⟨_, request, _, hjoin⟩
  · have hfind := find?_join s view.key e
    rw [hjoin] at hfind
    exact ⟨e, hfind⟩
  · have hfind := find?_join (s.add view.key q.name request (rawTags q arg)) view.key
      (.new q.name request (rawTags q arg) s.created)
    rw [hjoin] at hfind
    exact ⟨_, hfind⟩

end Store

variable [DecidableEq κ] {past : List (Moment κ ε)} {s : Store κ ε}

/-- **Every moment attends to the entries with subscribers.** -/
theorem attended_step {m : Moment κ ε} (hx : m.before.IndexExact)
    (hwell : ∀ k e, m.before.find? k = some e → e.WellFormed)
    (h : ∀ k e, m.before.find? k = some e → 0 < e.subscribers → e.Attended) {key : CacheKey}
    {e' : Entry κ ε} (he' : m.after.find? key = some e') (hsubs : 0 < e'.subscribers) :
    e'.Attended := by
  rcases (visits_act m.before m.action).before (attendance_of_find? he') with
    ⟨_, _, q, arg, view, hsubscribe, rfl, _⟩ | hearlier
  · obtain ⟨e, he⟩ := find?_subscribe hsubscribe
    have hwell' := wellFormed_step hx hwell he'
    change m.after.find? view.key = _ at he
    rw [he] at he'
    obtain rfl := Option.some.inj he'
    rcases hwell'.shown_of_joined with ⟨_, hf⟩ | ⟨hstatus, _⟩
    · exact Or.inl hf
    · exact Or.inr (by rw [hstatus]; rfl)
  · -- whoever subscribes now has subscribed before
    obtain ⟨e, he, hbefore⟩ : ∃ e, m.before.find? key = some e ∧ 0 < e.subscribers := by
      rcases hearlier with ⟨x, hx, hleave, _⟩ | hsame
      · obtain ⟨e, he, rfl⟩ := attendance_eq_some.mp hx
        have hfewer : e'.subscribers = e.subscribers - 1 := congrArg Attendance.subscribers hleave
        exact ⟨e, he, by omega⟩
      · obtain ⟨e, he, heq⟩ := attendance_eq_some.mp hsame
        have hcount : e.subscribers = e'.subscribers := congrArg Attendance.subscribers heq
        exact ⟨e, he, by omega⟩
    have hsame : ∀ e₁, m.before.find? key = some e₁ → e₁ = e := by
      intro e₁ he₁
      rw [he] at he₁
      exact (Option.some.inj he₁).symm
    cases origin hx he' with
    | new habsent _ _ =>
        rw [habsent] at he
        exact absurd he (by simp)
    | drift he₁ _ _ hd =>
        obtain rfl := hsame _ he₁
        exact (h key _ he hbefore).drifts hd
    | @hit _ id he₁ _ _ heq _ =>
        obtain rfl := hsame _ he₁
        rw [heq]
        exact Entry.attended_invalidated hbefore id
    | discard he₁ _ _ hnone _ =>
        -- answers are thrown away where nobody subscribes
        obtain rfl := hsame _ he₁
        omega
    | answer he₁ _ _ heq _ =>
        rw [heq]
        exact Entry.attended_answered _ _ _

theorem attended_run {config : StoreConfig} (h : Run config past s) :
    ∀ k e, s.find? k = some e → 0 < e.subscribers → e.Attended := by
  induction h with
  | init => exact fun k e he => absurd he (by simp)
  | @tail past s hr a ih =>
      intro k e he
      exact attended_step (m := ⟨past.length, s, a⟩) (indexExact_run hr) (wellFormed_run hr) ih he

theorem underway_of_inFlight {config : StoreConfig} (h : Run config past s) {k : CacheKey}
    {e : Entry κ ε} (he : s.find? k = some e) (hf : e.inFlight.isSome = true) :
    ∃ x ∈ underway past, x.key = k ∧ x.birth = some e.birth ∧ e.inFlight = some x.id := by
  obtain ⟨id, hid⟩ := Option.isSome_iff_exists.mp hf
  have hflight := flight_of_find? he
  rw [hid] at hflight
  obtain ⟨x, hx, hkey, rfl, hbirth⟩ := (tracks_run h).waits k e.birth id hflight
  exact ⟨x, hx, hkey, hbirth, hid⟩

/-- **No subscriber is left without a request or an outcome.** In every state of every run, an entry
with subscribers waits for a request that is underway for it, or its last request has ended in a
success or an error. Whoever subscribes, whatever the entry has been through, finds it loading, with
a request underway, or finds its data. -/
theorem subscribers_attended {config : StoreConfig} (h : Run config past s) :
    (∀ k e, s.find? k = some e → 0 < e.subscribers →
      (e.snapshot.status = .loading ∧
        ∃ x ∈ underway past, x.key = k ∧ x.birth = some e.birth ∧ e.inFlight = some x.id) ∨
      e.snapshot.status = .success ∨ e.snapshot.status = .error) ∧
    ∀ {α ρ : Type} (q : Query κ α ρ) (arg : α) (v : Subscription ρ) (s' : Store κ ε)
      (effects : List (Effect κ ε)), s.subscribe q arg = .ok (v, s', effects) →
      ∃ e, s'.viewed? v = some e ∧ 0 < e.subscribers ∧
        ((e.snapshot.status = .loading ∧
          ∃ x ∈ underway (⟨past.length, s, .subscribe q arg⟩ :: past),
            x.key = v.key ∧ x.birth = some e.birth ∧ e.inFlight = some x.id) ∨
        (e.snapshot.status = .success ∧ e.snapshot.data.isSome = true)) := by
  refine ⟨fun k e he hsubs => ?_, fun {α ρ} q arg v s' effects hsubscribe => ?_⟩
  · rcases attended_run h k e he hsubs with hf | hsettled
    · exact Or.inl ⟨(wellFormed_run h k e he).loading.mpr hf, underway_of_inFlight h he hf⟩
    · cases hstatus : e.snapshot.status with
      | success => exact Or.inr (Or.inl rfl)
      | error => exact Or.inr (Or.inr rfl)
      | _ => rw [hstatus] at hsettled; exact absurd hsettled (by simp [QueryStatus.isSettled])
  · -- the subscription is one moment more, and what holds of every run holds after it
    have hafter : (s.act (.subscribe q arg)).1 = s' := by
      unfold act
      dsimp only
      rw [hsubscribe]
    have hnext := Run.tail h (.subscribe q arg)
    rw [hafter] at hnext
    obtain ⟨e, he⟩ := find?_subscribe hsubscribe
    have hbirth : (e.joined s.nextRequest).birth = v.birth := by
      have hatt := attendance_subscribe hsubscribe v.key
      rw [if_pos rfl, attendance_of_find? he] at hatt
      rw [birth_subscribe hsubscribe, ← Option.some.inj hatt]
      rfl
    refine ⟨e.joined s.nextRequest, ?_, e.subscribers_joined _, ?_⟩
    · unfold viewed?
      rw [he, Option.filter_some, if_pos (by simpa using hbirth)]
    · rcases (wellFormed_run hnext v.key _ he).shown_of_joined with ⟨hload, hf⟩ | hshown
      · exact Or.inl ⟨hload, underway_of_inFlight hnext he hf⟩
      · exact Or.inr hshown

/-- An entry loses its last subscriber while it loads, is hit, and its answer is thrown away. It is
stale, and nothing is on its way. Whoever subscribes then finds it loading. -/
theorem subscribers_attended_again :
    let p := play {} [Sample.ask, Sample.answer 0 ["a"], .invalidate [Sample.tag "a"],
      .unsubscribe Sample.key true, .invalidate [Sample.tag "a"], Sample.answer 1 ["a"]]
    underway p.1 = [] ∧
      p.2.get? Sample.key = some ⟨.stale, some (Sample.result ["a"]), none⟩ ∧
      ∃ (v : Subscription Json) (s' : Store Portal.TagKind Unit)
        (effects : List (Effect Portal.TagKind Unit)),
        p.2.subscribe Simulation.customQuery .null = .ok (v, s', effects) ∧
        ∃ e, s'.viewed? v = some e ∧ 0 < e.subscribers ∧
          ((e.snapshot.status = .loading ∧
            ∃ x ∈ underway (⟨p.1.length, p.2, Sample.ask⟩ :: p.1),
              x.key = v.key ∧ x.birth = some e.birth ∧ e.inFlight = some x.id) ∨
          (e.snapshot.status = .success ∧ e.snapshot.data.isSome = true)) := by
  intro p
  have hok : (p.2.subscribe Simulation.customQuery .null).toOption.isSome = true := by decide
  obtain ⟨_, hasks⟩ := subscribers_attended (show Run {} p.1 p.2 from run_play _ _)
  cases hsubscribe : p.2.subscribe Simulation.customQuery .null with
  | error error =>
      rw [hsubscribe] at hok
      exact absurd hok (by simp [Except.toOption])
  | ok r =>
      obtain ⟨v, s', effects⟩ := r
      exact ⟨by decide, by decide, v, s', effects, rfl, hasks _ _ v s' effects hsubscribe⟩

end TagCache
