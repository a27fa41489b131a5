import TagCache.Proofs.TagIndex

/-!
# Where an entry comes from

`Store.Step` says what an action does to a store. Read for one key, and with an exact index, it says
where the entry under that key comes from: it is new, it has drifted, it was hit, or it has been
given an answer. These are the cases of every argument about the past of an entry.
-/

namespace TagCache

open Store

variable {κ ε : Type}

/-- A moment that invalidates nothing hits nothing. -/
theorem not_hits_of_quiet {m : Moment κ ε} (hquiet : m.action.invalidated = []) (key : CacheKey)
    (birth : Nat) : ¬ m.Hits key birth := by
  rintro ⟨_, _, _, t, ht, _⟩
  rw [hquiet] at ht
  exact absurd ht (by simp)

/-- An answer invalidates nothing. -/
theorem not_hits_of_complete {m : Moment κ ε} {key : CacheKey} {id : Nat} {answer : Except ε Json}
    (h : m.action = .complete key id answer) (k : CacheKey) (birth : Nat) : ¬ m.Hits k birth :=
  not_hits_of_quiet (by rw [h]; rfl) k birth

/-- An entry that is there after a drift was there before it. -/
theorem Store.Drifts.find?_eq_some {s s' : Store κ ε} {effects : List (Effect κ ε)}
    {key : CacheKey} {e' : Entry κ ε} (hd : s.Drifts effects s') (he' : s'.find? key = some e') :
    ∃ e, s.find? key = some e ∧ e.Drifts key effects s.nextRequest s'.nextRequest e' := by
  cases he : s.find? key with
  | none => rw [hd.absent key he] at he'; exact absurd he' (by simp)
  | some e =>
      obtain ⟨x, hx, hdrift⟩ := hd.present key e he
      rw [he'] at hx
      obtain rfl := Option.some.inj hx
      exact ⟨e, rfl, hdrift⟩

/-- An answer is taken up by one entry: the one that waits for it. -/
theorem TakesUp.inFlight {m : Moment κ ε} {key : CacheKey} {id : Nat} {answer : Except ε Json}
    {e : Entry κ ε} (he : m.before.find? key = some e) (h : m.TakesUp key e.birth id answer) :
    m.action = .complete key id answer ∧ e.inFlight = some id ∧ 0 < e.subscribers := by
  obtain ⟨haction, x, hx, _, hf, hsubs⟩ := h
  rw [he] at hx
  obtain rfl := Option.some.inj hx
  exact ⟨haction, hf, hsubs⟩

theorem not_takesUp_of_ne {m : Moment κ ε} (h : ∀ key id answer, m.action ≠ .complete key id answer)
    (key : CacheKey) (birth id : Nat) (answer : Except ε Json) : ¬ m.TakesUp key birth id answer :=
  fun htake => h _ _ _ htake.1

variable [DecidableEq κ]

/-- An entry is hit if and only if the index names its key under one of the invalidated tags. -/
theorem hits_iff {m : Moment κ ε} (hx : m.before.IndexExact) {key : CacheKey} {e : Entry κ ε}
    (he : m.before.find? key = some e) :
    m.Hits key e.birth ↔ key ∈ m.before.hits m.action.invalidated := by
  rw [hx.mem_hits]
  constructor
  · rintro ⟨e', he', _, hhit⟩
    exact ⟨e', he', hhit⟩
  · rintro ⟨e', he', hhit⟩
    rw [he] at he'
    obtain rfl := Option.some.inj he'
    exact ⟨e, he, rfl, hhit⟩

/-- Request ids and births are never given back. -/
theorem counters_mono (m : Moment κ ε) : m.before.nextRequest ≤ m.after.nextRequest ∧
    m.before.created ≤ m.after.created := by
  have hstep := step_act m.before m.action
  change m.before.Step m.action m.effects m.after at hstep
  generalize m.effects = effects at hstep
  generalize m.after = s' at hstep ⊢
  generalize m.action = a at hstep
  cases hstep with
  | drift _ _ hd => exact ⟨hd.next, Nat.le_of_eq hd.created.symm⟩
  | add _ hd =>
      have hcreated := hd.created
      have hnext := hd.next
      change s'.created = m.before.created + 1 at hcreated
      exact ⟨hnext, by omega⟩
  | evict _ _ hd _ _ => exact ⟨hd.next, Nat.le_of_eq hd.created.symm⟩
  | invalidate _ hi => exact ⟨hi.next, Nat.le_of_eq hi.created.symm⟩
  | discard _ _ _ => exact ⟨Nat.le_refl _, Nat.le_refl _⟩
  | answer _ _ _ ha =>
      refine ⟨?_, Nat.le_of_eq ha.created.symm⟩
      rw [ha.next]
      split
      · exact Nat.le_succ _
      · exact Nat.le_refl _

/-- Where the entry under a key comes from that is there after a moment. -/
inductive Origin (m : Moment κ ε) (key : CacheKey) (e' : Entry κ ε) : Prop where
  /-- Nothing was there. -/
  | new {endpoint : String} {request : Request}
      {provides : Json → Except DecodeError (List (Tag κ))}
      (habsent : m.before.find? key = none) (hcreated : m.before.created < m.after.created)
      (h : (Entry.new endpoint request provides m.before.created).Drifts key m.effects
        m.before.nextRequest m.after.nextRequest e')
  /-- It was there, and was neither hit nor answered. -/
  | drift {e : Entry κ ε} (he : m.before.find? key = some e) (hmiss : ¬ m.Hits key e.birth)
      (hidle : ∀ id answer, ¬ m.TakesUp key e.birth id answer)
      (h : e.Drifts key m.effects m.before.nextRequest m.after.nextRequest e')
  /-- It was hit. -/
  | hit {e : Entry κ ε} {id : Nat} (he : m.before.find? key = some e) (hhit : m.Hits key e.birth)
      (hid : m.before.nextRequest ≤ id) (h : e' = e.invalidated id)
      (hsend : e.inFlight = none → 0 < e.subscribers →
        id < m.after.nextRequest ∧ m.Starts ⟨key, id, e.request⟩)
  /-- Its request was answered, and nobody was there to see it. -/
  | discard {e : Entry κ ε} {id : Nat} {answer : Except ε Json}
      (he : m.before.find? key = some e) (haction : m.action = .complete key id answer)
      (hf : e.inFlight = some id) (hsubs : e.subscribers = 0)
      (h : e' = Store.discard { e with inFlight := none })
  /-- It has taken up the answer to its request. -/
  | answer {e : Entry κ ε} {id : Nat} {answer : Except ε Json}
      (he : m.before.find? key = some e) (htake : m.TakesUp key e.birth id answer)
      (hf : e.inFlight = some id) (h : e' = e.answered answer m.before.nextRequest)
      (hsend : e.refetchAfter = true → m.before.nextRequest < m.after.nextRequest ∧
        m.Starts ⟨key, m.before.nextRequest, e.request⟩)

/-- **Every entry has an origin.** -/
theorem origin {m : Moment κ ε} (hx : m.before.IndexExact) {key : CacheKey} {e' : Entry κ ε}
    (he' : m.after.find? key = some e') : Origin m key e' := by
  have hstep := step_act m.before m.action
  change m.before.Step m.action m.effects m.after at hstep
  -- the six kinds of action, each read at `key`
  generalize hfx : m.effects = effects at hstep
  generalize hs' : m.after = s' at hstep he'
  generalize ha : m.action = a at hstep
  cases hstep with
  | drift hquiet hidle hd =>
      obtain ⟨e, he, hdrift⟩ := hd.find?_eq_some he'
      refine .drift he (not_hits_of_quiet (by rw [ha]; exact hquiet) _ _) ?_ ?_
      · intro id answer htake
        obtain ⟨haction, hf, _⟩ := TakesUp.inFlight he htake
        exact hidle key id answer (ha.symm.trans haction) e he hf
      · rw [hfx, hs']; exact hdrift
  | add habsent hd =>
      obtain ⟨e, he, hdrift⟩ := hd.find?_eq_some he'
      rw [find?_add] at he
      split at he
      · rename_i heq
        obtain rfl := Option.some.inj he
        have hcreated : m.before.created < s'.created := by
          rw [hd.created]; exact Nat.lt_succ_self _
        rw [← hs'] at hcreated
        rw [← hfx, ← hs'] at hdrift
        exact .new (heq ▸ habsent) hcreated hdrift
      · refine .drift he (not_hits_of_quiet (by rw [ha]; rfl) _ _) ?_ ?_
        · exact fun id answer => not_takesUp_of_ne (by rw [ha]; simp) _ _ _ _
        · rw [hfx, hs']; exact hdrift
  | evict hquiet hcomplete hd he hsubs =>
      rename_i s₁ evicted x
      rw [find?_without] at he'
      split at he'
      · exact absurd he' (by simp)
      · obtain ⟨e, he, hdrift⟩ := hd.find?_eq_some he'
        refine .drift he (not_hits_of_quiet (by rw [ha]; exact hquiet) _ _) ?_ ?_
        · exact fun id answer => not_takesUp_of_ne (by rw [ha]; exact hcomplete) _ _ _ _
        · rw [hfx, hs']; exact hdrift.mono (by simp)
  | invalidate hcomplete hi =>
      cases he : m.before.find? key with
      | none => rw [hi.absent key he] at he'; exact absurd he' (by simp)
      | some e =>
          by_cases hkey : key ∈ m.before.hits a.invalidated
          · obtain ⟨id, hid, hfind, hsend⟩ := hi.hit key e hkey he
            rw [he'] at hfind
            refine .hit he ((hits_iff hx he).mpr (by rw [ha]; exact hkey)) hid
              (Option.some.inj hfind) ?_
            intro hf hsubs
            rw [Moment.Starts, hfx, hs']
            exact hsend hf hsubs
          · rw [hi.other key hkey, he] at he'
            obtain rfl := Option.some.inj he'
            refine .drift he (fun hh => hkey ?_) ?_ (.refl _)
            · rw [← ha]; exact (hits_iff hx he).mp hh
            · exact fun id answer => not_takesUp_of_ne (by rw [ha]; exact hcomplete) _ _ _ _
  | @discard answered id answer e he hf hsubs =>
      rw [find?_setEntry] at he'
      split at he'
      · rename_i heq
        subst heq
        exact .discard he ha hf hsubs (Option.some.inj he').symm
      · rename_i hne
        refine .drift he' (not_hits_of_complete ha _ _) ?_ (.refl _)
        intro id' answer' htake
        have := htake.1
        rw [ha] at this
        injection this with hkey
        exact hne hkey.symm
  | @answer answered id answer e _ _ he hf hsubs hans =>
      rw [hans.find] at he'
      split at he'
      · rename_i heq
        subst heq
        refine .answer he ⟨ha, e, he, rfl, hf, hsubs⟩ hf (Option.some.inj he').symm ?_
        intro hflag
        rw [Moment.Starts, hfx, hs', hans.next, if_pos hflag]
        exact ⟨Nat.lt_succ_self _, hans.sends hflag⟩
      · rename_i hne
        refine .drift he' (not_hits_of_complete ha _ _) ?_ (.refl _)
        intro id' answer' htake
        have := htake.1
        rw [ha] at this
        injection this with hkey
        exact hne hkey.symm

end TagCache
