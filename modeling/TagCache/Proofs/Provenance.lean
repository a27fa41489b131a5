import TagCache.Proofs.Origin

/-!
# What an entry was made for

An entry is made by its first subscriber. Its endpoint, its request and the way it reads the tags of
a result come from there, and nothing that happens to it afterwards changes them. So every entry of
a run can be traced to the subscription that found its key empty, and is what that subscription had
to offer.
-/

namespace TagCache

open Store

variable {κ ε : Type}

/-- What an entry has from its first subscriber. -/
structure Provenance (κ : Type) where
  endpoint : String
  request : Request
  provides : Json → Except DecodeError (List (Tag κ))
  birth : Nat

namespace Entry

/-- What an entry has from its first subscriber. -/
def provenance (e : Entry κ ε) : Provenance κ := ⟨e.endpoint, e.request, e.provides, e.birth⟩

/-- The entry is the one that a call of the query with this argument makes under its key. -/
structure MadeFor {α ρ : Type} (q : Query κ α ρ) (arg : α) (key : CacheKey) (e : Entry κ ε) :
    Prop where
  key : q.key arg = .ok key
  endpoint : e.endpoint = q.name
  request : q.request arg = .ok e.request
  provides : e.provides = rawTags q arg

theorem MadeFor.congr {α ρ : Type} {q : Query κ α ρ} {arg : α} {key : CacheKey} {e e' : Entry κ ε}
    (h : e.MadeFor q arg key) (heq : e'.provenance = e.provenance) : e'.MadeFor q arg key := by
  obtain ⟨hendpoint, hrequest, hprovides, _⟩ := Provenance.mk.inj heq
  exact ⟨h.key, hendpoint.trans h.endpoint, hrequest ▸ h.request, hprovides.trans h.provides⟩

theorem Drifts.provenance_eq {key : CacheKey} {effects : List (Effect κ ε)} {lo hi : Nat}
    {e e' : Entry κ ε} (h : e.Drifts key effects lo hi e') : e'.provenance = e.provenance := by
  unfold provenance
  rw [h.endpoint, h.request, h.provides, h.birth]

@[simp] theorem provenance_invalidated (e : Entry κ ε) (id : Nat) :
    (e.invalidated id).provenance = e.provenance := by
  unfold invalidated
  split
  · rfl
  · split
    · rfl
    · rfl

@[simp] theorem provenance_answered [DecidableEq κ] (e : Entry κ ε) (answer : Except ε Json)
    (id : Nat) : (e.answered answer id).provenance = e.provenance := by
  have hsettled : ∀ o, (e.settled o).provenance = e.provenance := fun o => by
    cases o with
    | ok _ => rfl
    | error _ => rfl
  unfold answered
  split
  · exact hsettled _
  · exact hsettled _

end Entry

/-! ## Calls and keys -/

section

variable {s s' : Store κ ε} {effects : List (Effect κ ε)} {key : CacheKey} {e e' : Entry κ ε}
  {α ρ : Type} {q : Query κ α ρ} {arg : α} {view : Subscription ρ}

/-- A key begins with the name of its query. -/
theorem endpoint_of_key (h : q.key arg = .ok key) : key.endpoint = q.name := by
  unfold Query.key at h
  split at h
  · exact absurd h (by simp)
  · rw [← Except.ok.inj h]
    rfl

theorem key_of_subscribe (h : s.subscribe q arg = .ok (view, s', effects)) :
    q.key arg = .ok view.key := by
  unfold subscribe at h
  cases hkey : q.key arg with
  | error _ => rw [hkey] at h; exact absurd h (by simp)
  | ok key =>
      cases hreq : q.request arg with
      | error _ => rw [hkey, hreq] at h; exact absurd h (by simp)
      | ok request =>
          rw [hkey, hreq] at h
          simp only [Except.ok.injEq, Prod.mk.injEq] at h
          rw [← h.1]

/-- A subscription that finds no entry makes one, without data. -/
theorem madeFor_subscribe (h : s.subscribe q arg = .ok (view, s', effects))
    (habsent : s.find? key = none) (he' : s'.find? key = some e') :
    e'.MadeFor q arg key ∧ e'.birth = s.created ∧ e'.snapshot.data = none := by
  have hkey := key_of_subscribe h
  rcases subscribe_ok h with ⟨_, _, hd⟩ | ⟨_, request, hrequest, hd⟩
  · rw [hd.absent key habsent] at he'
    exact absurd he' (by simp)
  · obtain ⟨e, he, hdrift⟩ := hd.find?_eq_some he'
    rw [find?_add] at he
    split at he
    · rename_i hk
      subst hk
      obtain rfl := Option.some.inj he
      refine ⟨⟨hkey, hdrift.endpoint, ?_, hdrift.provides⟩, hdrift.birth, ?_⟩
      · rw [hdrift.request]
        exact hrequest
      · have hnone : e'.snapshot.data.isSome = false := hdrift.data
        exact Option.isNone_iff_eq_none.mp (Option.isSome_eq_false_iff.mp hnone)
    · rw [habsent] at he
      exact absurd he (by simp)

end

/-! ## Every moment -/

section

variable [DecidableEq κ] {m : Moment κ ε} {key : CacheKey} {e e' : Entry κ ε}

/-- At the moment somebody calls a query whose key is empty, and the entry is made for the call. -/
def Moment.Makes (m : Moment κ ε) (key : CacheKey) (e : Entry κ ε) : Prop :=
  m.before.find? key = none ∧ e.birth = m.before.created ∧
    ∃ (α ρ : Type) (q : Query κ α ρ) (arg : α), m.action = .subscribe q arg ∧ e.MadeFor q arg key

/-- Only a subscription makes an entry. -/
theorem Store.Step.absent {s s' : Store κ ε} {a : Action κ ε} {effects : List (Effect κ ε)}
    (h : s.Step a effects s') (habsent : s.find? key = none)
    (ha : ∀ (α ρ : Type) (q : Query κ α ρ) (arg : α), a ≠ .subscribe q arg) :
    s'.find? key = none := by
  cases h with
  | drift _ _ hd => exact hd.absent key habsent
  | add _ _ => exact absurd rfl (ha _ _ _ _)
  | evict _ _ hd _ _ =>
      rw [find?_without]
      split
      · rfl
      · exact hd.absent key habsent
  | invalidate _ hi => exact hi.absent key habsent
  | discard he _ _ =>
      rw [find?_setEntry]
      split
      · rename_i hk
        rw [hk, he] at habsent
        exact absurd habsent (by simp)
      · exact habsent
  | answer he _ _ ha =>
      rw [ha.find]
      split
      · rename_i hk
        rw [hk, he] at habsent
        exact absurd habsent (by simp)
      · exact habsent

/-- An entry that was not there has been made, and has no data yet. -/
theorem makes_of_absent (habsent : m.before.find? key = none)
    (he' : m.after.find? key = some e') : m.Makes key e' ∧ e'.snapshot.data = none := by
  obtain ⟨time, s, a⟩ := m
  dsimp only at habsent
  have hgone : (∀ (α ρ : Type) (q : Query κ α ρ) (arg : α), a ≠ .subscribe q arg) → False := by
    intro ha
    rw [Moment.after, (step_act s a).absent habsent ha] at he'
    exact absurd he' (by simp)
  cases a with
  | subscribe q arg =>
      cases hs : s.subscribe q arg with
      | error _ =>
          simp only [Moment.after, act, hs, habsent] at he'
          exact absurd he' (by simp)
      | ok r =>
          obtain ⟨view, s', effects⟩ := r
          simp only [Moment.after, act, hs] at he'
          obtain ⟨hmade, hbirth, hdata⟩ := madeFor_subscribe hs habsent he'
          exact ⟨⟨habsent, hbirth, _, _, q, arg, rfl, hmade⟩, hdata⟩
  | _ => exact (hgone (by simp)).elim

/-- An entry that was there is what it was made. -/
theorem provenance_kept (hx : m.before.IndexExact) (he : m.before.find? key = some e)
    (he' : m.after.find? key = some e') : e'.provenance = e.provenance := by
  have hsame : ∀ {x : Entry κ ε}, m.before.find? key = some x → x = e := fun hfound =>
    Option.some.inj (hfound.symm.trans he)
  cases origin hx he' with
  | new habsent _ _ => rw [habsent] at he; exact absurd he (by simp)
  | drift hfound _ _ hd => rw [hd.provenance_eq, hsame hfound]
  | hit hfound _ _ heq _ => rw [heq, Entry.provenance_invalidated, hsame hfound]
  | discard hfound _ _ _ heq => rw [heq, ← hsame hfound]; rfl
  | answer hfound _ _ heq _ => rw [heq, Entry.provenance_answered, hsame hfound]

/-- **Every entry was made by a subscription**, and is still what it was made. -/
theorem made_run {config : StoreConfig} {past : List (Moment κ ε)} {s : Store κ ε}
    (h : Run config past s) (he : s.find? key = some e) : ∃ m ∈ past, m.Makes key e := by
  induction h generalizing e with
  | init => exact absurd he (by simp)
  | @tail past s hr a ih =>
      cases hbefore : s.find? key with
      | none =>
          have hmakes := (makes_of_absent (m := ⟨past.length, s, a⟩) hbefore he).1
          exact ⟨_, List.mem_cons_self, hmakes⟩
      | some e₀ =>
          obtain ⟨m, hm, hempty, hbirth, α, ρ, q, arg, haction, hmade⟩ := ih hbefore
          have hkept := provenance_kept (m := ⟨past.length, s, a⟩) (indexExact_run hr) hbefore he
          have hborn : e.birth = e₀.birth := (Provenance.mk.inj hkept).2.2.2
          exact ⟨m, List.mem_cons_of_mem _ hm, hempty, hborn.trans hbirth, α, ρ, q, arg, haction,
            hmade.congr hkept⟩

end

end TagCache
