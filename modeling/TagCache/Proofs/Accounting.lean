import TagCache.Proofs.Views

/-!
# The store counts its views

A subscription is given back by its key. The store does not learn which view has gone, nor of which
of the entries that have followed one another under the key. It can do without, as long as every
view is of the entry that is there now: then a key is as good as a view.

`Held` says that it is so, and every orderly moment keeps it. Here it is read for those who hold
views; a query that waits for its result holds one like anybody else. Each is counted once, so a
count never runs below zero. An entry that somebody views does not go, whatever timers are still set
and whichever generation they carry. And all views of a key show one and the same entry.
-/

namespace TagCache

open Store

variable {κ ε : Type}

section

variable {s s' : Store κ ε} {effects : List (Effect κ ε)} {a : Action κ ε} {key : CacheKey}

/-- What is told to be evicted is gone. -/
theorem Store.Visits.absent_of_evicted (h : s.Visits a effects s')
    (hevicted : .emit (.evicted key) ∈ effects) : s'.attendance key = none := by
  have hloud : (Effect.emit (.evicted key) : Effect κ ε).ends ≠ false := by simp [Effect.ends]
  cases h with
  | nobody _ _ _ _ hquiet => exact absurd (hquiet _ hevicted) hloud
  | join _ _ hquiet => exact absurd (hquiet _ hevicted) hloud
  | leave _ _ _ =>
      -- who leaves sets a timer at most
      split at hevicted
      · exact absurd hevicted (by simp)
      · exact absurd hevicted (by simp)
  | @gone gone _ _ _ _ _ _ hatt =>
      have hkey : key = gone := by simpa using hevicted
      rw [hatt, if_pos hkey]
  | @evict evicted _ _ _ _ hatt =>
      have hkey : key = evicted := by simpa using hevicted
      rw [hatt, if_pos hkey]

variable {vs : List View} {v : View}

/-- What a view shows is what the store has under its key. -/
theorem Held.get? (h : Held vs s) {ρ : Type} {v : Subscription ρ} (hv : v.view ∈ vs) :
    s.get? v.key = some (s.snapshot v) := by
  obtain ⟨e, he, _, hviewed⟩ := h.viewed? hv
  unfold Store.get? Store.snapshot
  rw [he, hviewed, Option.map_some]

/-- No entry goes that somebody views afterwards. -/
theorem Held.not_evicted (h : Held vs s') (hvisit : s.Visits a effects s') (hv : v ∈ vs) :
    .emit (.evicted v.key) ∉ effects := by
  intro hevicted
  obtain ⟨x, hx, _⟩ := h.present v hv
  rw [hvisit.absent_of_evicted hevicted] at hx
  exact absurd hx (by simp)

variable [DecidableEq κ]

/-- No timer evicts an entry that somebody views. -/
theorem Held.evict (h : Held vs s) (hv : v ∈ vs) (generation : Nat) :
    s.evict v.key generation = (s, []) := by
  rcases evict_cases s v.key generation with hstays | ⟨e, he, hunused, _, _⟩
  · exact hstays
  · have hsubs := h.subscribed hv
    unfold subscriberCount at hsubs
    rw [he, Option.map_some, Option.getD_some] at hsubs
    omega

end

variable [DecidableEq κ] {past : List (Moment κ ε)} {s : Store κ ε} {config : StoreConfig}

/-- Whenever a view was dropped, it had been counted. -/
theorem subscribed_of_dropped (h : Run config past s) (ho : Orderly past) :
    ∀ m ∈ past, ∀ key ∈ m.action.dropped?, 0 < m.before.subscriberCount key := by
  induction h with
  | init => exact fun m hm => absurd hm (by simp)
  | @tail past s hr a ih =>
      intro m hm key hkey
      rcases List.mem_cons.mp hm with rfl | hm
      · obtain ⟨v, hv, rfl⟩ := ho.1 key hkey
        exact (held_run hr ho.2).subscribed hv
      · exact ih ho.2 m hm key hkey

/-- **The store counts exactly the views that are held.** In every state of every orderly run the
count of a key is the number of its views, and whenever a view was dropped, the count was not zero.
No timer evicts an entry that somebody views, and nothing that happens next does, unless the last
view is dropped by it. Every view is of the entry that is under its key, and shows its present
snapshot, so all views of a key show the same. -/
theorem views_counted (h : Run config past s) (ho : Orderly past) :
    (∀ key, s.subscriberCount key = viewsOf key (views past)) ∧
      (∀ m ∈ past, ∀ key ∈ m.action.dropped?, 0 < m.before.subscriberCount key) ∧
      (∀ v ∈ views past, ∀ generation, s.evict v.key generation = (s, [])) ∧
      (∀ a, Orderly (⟨past.length, s, a⟩ :: past) →
        ∀ v ∈ views (⟨past.length, s, a⟩ :: past), .emit (.evicted v.key) ∉ (s.act a).2) ∧
      (∀ {ρ : Type} (v : Subscription ρ), v.view ∈ views past →
        (∃ e, s.find? v.key = some e ∧ e.birth = v.birth) ∧
          s.get? v.key = some (s.snapshot v)) ∧
      ∀ {ρ σ : Type} (v : Subscription ρ) (w : Subscription σ), v.view ∈ views past →
        w.view ∈ views past → v.key = w.key → s.snapshot v = s.snapshot w := by
  have hheld := held_run h ho
  refine ⟨hheld.count, subscribed_of_dropped h ho, fun v => hheld.evict, ?_, ?_, ?_⟩
  · intro a hnext v hv
    exact (held_run (.tail h a) hnext).not_evicted (visits_act s a) hv
  · intro ρ v hv
    obtain ⟨e, he, hbirth, _⟩ := hheld.viewed? hv
    exact ⟨⟨e, he, hbirth⟩, hheld.get? hv⟩
  · intro ρ σ v w hv hw hkey
    have hshown := hheld.get? hv
    rw [hkey, hheld.get? hw] at hshown
    exact (Option.some.inj hshown).symm

/-- An entry was evicted and created again. Two subscribe to it, and a timer of the entry before it
carries the generation that it has now. -/
theorem views_counted_recreated :
    let p := play {} [Sample.ask, .unsubscribe Sample.key true, .evict Sample.key 2, Sample.ask,
      Sample.ask, Sample.answer 1 ["a"]]
    let v : Subscription Json := ⟨Sample.key, "customQuery", .any, 1, 0, none⟩
    Orderly p.1 ∧ views p.1 = [v.view, v.view] ∧
      (p.2.find? Sample.key).map (fun e => e.generation) = some 2 ∧
      p.2.subscriberCount Sample.key = 2 ∧ p.2.evict Sample.key 2 = (p.2, []) ∧
      p.2.get? Sample.key = some (p.2.snapshot v) ∧
      p.2.snapshot v = ⟨.success, some (Sample.result ["a"]), none⟩ := by
  intro p v
  have ho : Orderly p.1 := by decide
  have hviews : views p.1 = [v.view, v.view] := by decide
  have hv : v.view ∈ views p.1 := by rw [hviews]; exact List.mem_cons_self
  obtain ⟨hcount, _, hstays, _, hshown, _⟩ := views_counted (run_play _ _) ho
  refine ⟨ho, hviews, by decide, ?_, hstays _ hv 2, (hshown v hv).2, by decide⟩
  rw [hcount, hviews]
  decide

end TagCache
