import TagCache.Proofs.Freshness
import TagCache.Proofs.Views

/-!
# Entries are well-formed

The parts of an entry are written by different operations: the status by nearly all of them, the
data by answers and patches, the flag by hits, the tags by results. They never contradict each
other. An entry loads exactly as long as its request is on its way. It is flagged only while it
waits. Data is there whenever the status, the flag or the tags say so, and an error whenever the
status does.

The tags are what joins the conditions. A hit marks the entry as stale, or flags it, and either
needs data; the entry that is hit has it because it has tags.

A subscriber sees the parts together. Once its entry has settled it gets an error or data, and a
query never ends without either.
-/

namespace TagCache

open Store

variable {κ ε : Type}

/-- What the parts of an entry say about each other. -/
structure Entry.WellFormed (e : Entry κ ε) : Prop where
  loading : e.snapshot.status = .loading ↔ e.inFlight.isSome = true
  flagged : e.refetchAfter = true → e.inFlight.isSome = true ∧ e.snapshot.data.isSome = true
  success : e.snapshot.status = .success → e.snapshot.data.isSome = true ∧ e.snapshot.error = none
  failure : e.snapshot.status = .error → e.snapshot.error.isSome = true
  stale : e.snapshot.status = .stale → e.snapshot.data.isSome = true
  uninitialized : e.snapshot.status = .uninitialized → e.snapshot.data = none
  tagged : e.tags ≠ [] → e.snapshot.data.isSome = true
  /-- No request fails for want of data. -/
  cause : ∀ endpoint, e.snapshot.error ≠ some (.noData endpoint)

namespace Entry

variable {e e' : Entry κ ε} {key : CacheKey} {effects : List (Effect κ ε)} {lo hi : Nat}

theorem wellFormed_new (endpoint : String) (request : Request)
    (provides : Json → Except DecodeError (List (Tag κ))) (birth : Nat) :
    (Entry.new endpoint request provides birth : Entry κ ε).WellFormed where
  loading := by simp [Entry.new, Snapshot.initial]
  flagged := by simp [Entry.new]
  success := by simp [Entry.new, Snapshot.initial]
  failure := by simp [Entry.new, Snapshot.initial]
  stale := by simp [Entry.new, Snapshot.initial]
  uninitialized := fun _ => rfl
  tagged := fun h => absurd rfl h
  cause := by simp [Entry.new, Snapshot.initial]

/-- An entry that has just asked for its request. -/
theorem wellFormed_loading (hstatus : e.snapshot.status = .loading)
    (hf : e.inFlight.isSome = true)
    (hflag : e.refetchAfter = true → e.snapshot.data.isSome = true)
    (htags : e.tags ≠ [] → e.snapshot.data.isSome = true)
    (hcause : ∀ endpoint, e.snapshot.error ≠ some (.noData endpoint)) : e.WellFormed where
  loading := by simp [hstatus, hf]
  flagged := fun h => ⟨hf, hflag h⟩
  success := by simp [hstatus]
  failure := by simp [hstatus]
  stale := by simp [hstatus]
  uninitialized := by simp [hstatus]
  tagged := htags
  cause := hcause

/-- An entry without a request on its way that has just become stale. -/
theorem wellFormed_stale (hstatus : e.snapshot.status = .stale) (hf : e.inFlight = none)
    (hflag : e.refetchAfter = false) (hdata : e.snapshot.data.isSome = true)
    (hcause : ∀ endpoint, e.snapshot.error ≠ some (.noData endpoint)) : e.WellFormed where
  loading := by simp [hstatus, hf]
  flagged := by simp [hflag]
  success := by simp [hstatus]
  failure := by simp [hstatus]
  stale := fun _ => hdata
  uninitialized := by simp [hstatus]
  tagged := fun _ => hdata
  cause := hcause

theorem WellFormed.unflagged (h : e.WellFormed) (hf : e.inFlight = none) :
    e.refetchAfter = false := by
  cases hr : e.refetchAfter with
  | false => rfl
  | true =>
      have := (h.flagged hr).1
      rw [hf] at this
      exact absurd this (by simp)

theorem WellFormed.drifts (h : e.WellFormed) (hd : e.Drifts key effects lo hi e') :
    e'.WellFormed := by
  have hdata := hd.data
  rcases hd.flight with ⟨hf, hstatus⟩ | ⟨hidle, hstatus, id, _, _, hf, _⟩
  · constructor
    case loading =>
      rw [hstatus, hf]; exact h.loading
    case flagged =>
      rw [hd.flag, hf, hdata]; exact h.flagged
    case success =>
      rw [hstatus, hdata, hd.error]; exact h.success
    case failure =>
      rw [hstatus, hd.error]; exact h.failure
    case stale =>
      rw [hstatus, hdata]; exact h.stale
    case uninitialized =>
      intro hs
      rw [hstatus] at hs
      rw [h.uninitialized hs] at hdata
      simpa using hdata
    case tagged =>
      rw [hd.tags, hdata]; exact h.tagged
    case cause =>
      rw [hd.error]; exact h.cause
  · -- it was idle, so it has no flag that would need data
    refine wellFormed_loading hstatus (by rw [hf]; rfl) ?_ ?_ ?_
    · rw [hd.flag, h.unflagged hidle]; simp
    · rw [hd.tags, hdata]; exact h.tagged
    · rw [hd.error]; exact h.cause

/-- A hit needs data, and finds it: an entry is hit by its tags. -/
theorem WellFormed.invalidated (h : e.WellFormed) (htags : e.tags ≠ []) (id : Nat) :
    (e.invalidated id).WellFormed := by
  have hdata := h.tagged htags
  unfold Entry.invalidated
  by_cases hwaits : e.inFlight.isSome = true
  · rw [if_pos hwaits]
    exact wellFormed_loading (h.loading.mpr hwaits) hwaits (fun _ => hdata) h.tagged h.cause
  · rw [if_neg hwaits]
    have hf : e.inFlight = none := by simpa using hwaits
    split
    · exact wellFormed_loading rfl rfl (fun _ => hdata) h.tagged h.cause
    · exact wellFormed_stale rfl hf (h.unflagged hf) hdata h.cause

/-- An entry whose answer is thrown away is stale or new again, as its data says. -/
theorem WellFormed.discard (h : e.WellFormed) :
    (Store.discard { e with inFlight := none }).WellFormed := by
  cases hdata : e.snapshot.data with
  | some data =>
      refine wellFormed_stale ?_ rfl rfl ?_ h.cause
      · change (if e.snapshot.data.isSome then QueryStatus.stale else .uninitialized) = .stale
        rw [hdata]; rfl
      · change e.snapshot.data.isSome = true
        rw [hdata]; rfl
  | none =>
      have hstatus : (Store.discard { e with inFlight := none }).snapshot.status
          = .uninitialized := by
        change (if e.snapshot.data.isSome then QueryStatus.stale else .uninitialized) = _
        rw [hdata]; rfl
      refine ⟨?_, ?_, ?_, ?_, ?_, fun _ => hdata, h.tagged, h.cause⟩
      · rw [hstatus]
        exact ⟨fun h => QueryStatus.noConfusion h, fun h => Bool.noConfusion h⟩
      · exact fun h => Bool.noConfusion h
      · rw [hstatus]; exact fun h => QueryStatus.noConfusion h
      · rw [hstatus]; exact fun h => QueryStatus.noConfusion h
      · rw [hstatus]; exact fun h => QueryStatus.noConfusion h

/-- Requests fail in the transport or in decoding. -/
theorem cause_outcome {answer : Except ε Json} {error : RequestError ε}
    (h : outcome e answer = .error error) (endpoint : String) : error ≠ .noData endpoint := by
  unfold outcome at h
  cases answer with
  | error source =>
      obtain rfl := Except.error.inj h
      simp
  | ok value =>
      dsimp only at h
      cases hp : e.provides value with
      | error cause =>
          rw [hp] at h
          obtain rfl := Except.error.inj h
          simp
      | ok tags => rw [hp] at h; exact absurd h (by simp)

variable [DecidableEq κ]

/-- A result comes with its tags, and a failure leaves both. -/
theorem WellFormed.tagged_settled (h : e.WellFormed)
    (o : Except (RequestError ε) (Json × List (Tag κ))) (htags : (e.settled o).tags ≠ []) :
    (e.settled o).snapshot.data.isSome = true := by
  cases o with
  | ok r => rfl
  | error error => exact h.tagged htags

theorem cause_settled (e : Entry κ ε) (answer : Except ε Json) (endpoint : String) :
    (e.settled (outcome e answer)).snapshot.error ≠ some (.noData endpoint) := by
  cases ho : outcome e answer with
  | ok r => simp [Entry.settled, Entry.write]
  | error error =>
      intro h
      exact cause_outcome ho endpoint (Option.some.inj h)

theorem WellFormed.settled (h : e.WellFormed) (hflag : e.refetchAfter = false)
    (answer : Except ε Json) : (e.settled (outcome e answer)).WellFormed := by
  have hunflagged : (e.settled (outcome e answer)).refetchAfter ≠ true := by
    rw [(settled_frame e _).1, hflag]; simp
  constructor
  case loading =>
    rw [(settled_frame e _).2.2.1]
    cases outcome e answer with
    | ok r => simp [Entry.settled, Entry.write]
    | error error => simp [Entry.settled, Entry.write]
  case flagged => exact fun hr => absurd hr hunflagged
  case success =>
    cases outcome e answer with
    | ok r => exact fun _ => ⟨rfl, rfl⟩
    | error error => simp [Entry.settled, Entry.write]
  case failure =>
    cases outcome e answer with
    | ok r => simp [Entry.settled, Entry.write]
    | error error => exact fun _ => rfl
  case stale =>
    cases outcome e answer with
    | ok r => simp [Entry.settled, Entry.write]
    | error error => simp [Entry.settled, Entry.write]
  case uninitialized =>
    cases outcome e answer with
    | ok r => simp [Entry.settled, Entry.write]
    | error error => simp [Entry.settled, Entry.write]
  case tagged => exact h.tagged_settled _
  case cause => exact cause_settled e answer

theorem WellFormed.answered (h : e.WellFormed) (answer : Except ε Json) (id : Nat) :
    (e.answered answer id).WellFormed := by
  unfold Entry.answered
  cases hflag : e.refetchAfter with
  | false =>
      rw [if_neg (by simp)]
      exact h.settled hflag answer
  | true =>
      -- the outcome is not shown: the entry asks once more
      rw [if_pos rfl]
      exact wellFormed_loading rfl rfl (fun hr => absurd hr (by simp [awaiting, setStatus, write]))
        (h.tagged_settled _) (cause_settled e answer)

end Entry

/-! ## Every step -/

section

variable [DecidableEq κ]

/-- **Every moment leaves well-formed entries.** -/
theorem wellFormed_step {m : Moment κ ε} (hx : m.before.IndexExact)
    (h : ∀ k e, m.before.find? k = some e → e.WellFormed) {key : CacheKey} {e' : Entry κ ε}
    (he' : m.after.find? key = some e') : e'.WellFormed := by
  cases origin hx he' with
  | new _ _ hd => exact (Entry.wellFormed_new _ _ _ _).drifts hd
  | drift he _ _ hd => exact (h _ _ he).drifts hd
  | @hit e id he hhit _ heq _ =>
      rw [heq]
      obtain ⟨e₀, he₀, _, t, _, ht⟩ := hhit
      rw [he] at he₀
      obtain rfl := Option.some.inj he₀
      exact (h _ _ he).invalidated (List.ne_nil_of_mem ht) id
  | discard he _ _ _ heq => rw [heq]; exact (h _ _ he).discard
  | answer he _ _ heq _ => rw [heq]; exact (h _ _ he).answered _ _

theorem wellFormed_run {config : StoreConfig} {past : List (Moment κ ε)} {s : Store κ ε}
    (h : Run config past s) : ∀ k e, s.find? k = some e → e.WellFormed := by
  induction h with
  | init => exact fun k e he => absurd he (by simp)
  | @tail past s hr a ih =>
      intro k e he
      exact wellFormed_step (m := ⟨past.length, s, a⟩) (indexExact_run hr) ih he

/-- Data stays with its entry, whatever becomes of the entry but its end. -/
theorem data_kept (s : Store κ ε) (a : Action κ ε) {key : CacheKey} {e : Entry κ ε}
    (he : s.find? key = some e) (hdata : e.snapshot.data.isSome = true) :
    (∃ e', (s.act a).1.find? key = some e' ∧ e'.birth = e.birth ∧
        e'.snapshot.data.isSome = true) ∨
      ((s.act a).1.find? key = none ∧ .emit (.evicted key) ∈ (s.act a).2) := by
  have hstep := step_act s a
  generalize (s.act a).2 = effects at hstep
  generalize (s.act a).1 = s' at hstep
  have hdrifts : ∀ {s₀ s₁ : Store κ ε} {effects : List (Effect κ ε)}, s₀.Drifts effects s₁ →
      s₀.find? key = some e → ∃ e', s₁.find? key = some e' ∧ e'.birth = e.birth ∧
        e'.snapshot.data.isSome = true := by
    intro s₀ s₁ effects hd he₀
    obtain ⟨e', he', hdrift⟩ := hd.present key e he₀
    exact ⟨e', he', hdrift.birth, hdrift.data.trans hdata⟩
  cases hstep with
  | drift _ _ hd => exact Or.inl (hdrifts hd he)
  | @add α ρ q arg added request _ _ habsent hd =>
      refine Or.inl (hdrifts hd ?_)
      have hne : key ≠ added := by
        rintro rfl
        rw [habsent] at he
        exact absurd he (by simp)
      rw [find?_add, if_neg hne]
      exact he
  | @evict _ s₁ evicted _ _ _ hd _ _ =>
      by_cases hk : key = evicted
      · refine Or.inr ⟨by rw [find?_without, if_pos hk], ?_⟩
        rw [hk]; exact List.mem_singleton.mpr rfl
      · obtain ⟨e', he', hrest⟩ := hdrifts hd he
        exact Or.inl ⟨e', by rw [find?_without, if_neg hk]; exact he', hrest⟩
  | invalidate _ hi =>
      refine Or.inl ?_
      by_cases hk : key ∈ s.hits a.invalidated
      · obtain ⟨id, _, hfind, _⟩ := hi.hit key e hk he
        obtain ⟨hbirth, _, hsame⟩ := e.invalidated_frame id
        exact ⟨_, hfind, hbirth, by rw [hsame]; exact hdata⟩
      · exact ⟨e, (hi.other key hk).trans he, rfl, hdata⟩
  | @discard answered _ _ e₀ he₀ _ _ =>
      refine Or.inl ?_
      rw [find?_setEntry]
      by_cases hk : key = answered
      · rw [← hk, he] at he₀
        obtain rfl := Option.some.inj he₀
        rw [if_pos hk]
        exact ⟨_, rfl, rfl, hdata⟩
      · exact ⟨e, by rw [if_neg hk]; exact he, rfl, hdata⟩
  | @answer answered _ answer e₀ _ _ he₀ _ _ ha =>
      refine Or.inl ?_
      rw [ha.find]
      by_cases hk : key = answered
      · rw [← hk, he] at he₀
        obtain rfl := Option.some.inj he₀
        obtain ⟨hbirth, _, hsame⟩ := e.answered_frame answer s.nextRequest
        refine ⟨_, by rw [if_pos hk], hbirth, ?_⟩
        rw [hsame]
        cases outcome e answer with
        | ok r => rfl
        | error error => exact hdata
      · exact ⟨e, by rw [if_neg hk]; exact he, rfl, hdata⟩

end

/-! ## What a subscriber sees -/

/-- A settled entry shows why its request has failed, or data. Data that does not decode is a
failure as well. -/
theorem result_of_settled {e : Entry κ ε} (h : e.WellFormed)
    (hsettled : e.snapshot.status.isSettled = true) {ρ : Type} (endpoint : String)
    (schema : Schema ρ) :
    (∃ error, (e.snapshot.decode endpoint schema).result = .error error ∧
        ∀ name, error ≠ .noData name) ∨
      ∃ data, (e.snapshot.decode endpoint schema).result = .ok (some data) := by
  have hsuccess := h.success
  have hfailure := h.failure
  have hcause := h.cause
  generalize e.snapshot = shown at hsettled hsuccess hfailure hcause ⊢
  obtain ⟨status, data, error⟩ := shown
  have hstatus : status = .success ∨ status = .error := by
    cases status with
    | success => exact Or.inl rfl
    | error => exact Or.inr rfl
    | _ => exact absurd hsettled (by simp [QueryStatus.isSettled])
  cases hread : data.map schema.decode with
  | none =>
      have hnone : data = none := by simpa using hread
      subst hnone
      rcases hstatus with rfl | rfl
      · exact absurd (hsuccess rfl).1 (by simp)
      · obtain ⟨cause, rfl⟩ := Option.isSome_iff_exists.mp (hfailure rfl)
        refine Or.inl ⟨cause, rfl, ?_⟩
        rintro name rfl
        exact hcause name rfl
  | some read =>
      unfold Snapshot.decode
      rw [hread]
      cases read with
      | error cause => exact Or.inl ⟨_, rfl, by simp⟩
      | ok value =>
          rcases hstatus with rfl | rfl
          · exact Or.inr ⟨value, rfl⟩
          · obtain ⟨cause, rfl⟩ := Option.isSome_iff_exists.mp (hfailure rfl)
            refine Or.inl ⟨cause, rfl, ?_⟩
            rintro name rfl
            exact hcause name rfl

/-- Nobody who asks for a query is told that there is no data. -/
theorem queryResult_of_settled {e : Entry κ ε} (h : e.WellFormed)
    (hsettled : e.snapshot.status.isSettled = true) {ρ : Type} (endpoint : String)
    (schema : Schema ρ) (name : String) :
    queryResult endpoint (e.snapshot.decode endpoint schema) ≠ .error (.noData name) := by
  unfold queryResult
  rcases result_of_settled h hsettled endpoint schema with ⟨error, hr, hcause⟩ | ⟨data, hr⟩
  · rw [hr]
    intro heq
    exact hcause name (Except.error.inj heq)
  · rw [hr]
    simp

/-- A subscription is refused for its argument only. -/
theorem subscribe_error {s : Store κ ε} {α ρ : Type} {q : Query κ α ρ} {arg : α}
    {error : RequestError ε} (h : s.subscribe q arg = .error error) :
    ∃ reason, error = .encode q.name reason := by
  unfold subscribe at h
  cases hkey : q.key arg with
  | error reason =>
      rw [hkey] at h
      exact ⟨reason, (Except.error.inj h).symm⟩
  | ok key =>
      cases hreq : q.request arg with
      | error reason =>
          rw [hkey, hreq] at h
          exact ⟨reason, (Except.error.inj h).symm⟩
      | ok request =>
          rw [hkey, hreq] at h
          exact absurd h (by simp)

section

variable [DecidableEq κ]

/-- **The parts of an entry agree, and nobody waits for data that never comes.** In every state of
every run all entries are well-formed. No action takes data from an entry, unless it evicts the
entry. Whoever holds a view sees an entry, and once that has settled, an error or data. So a query
that is not refused ends with the one or the other. -/
theorem entries_wellFormed {config : StoreConfig} {past : List (Moment κ ε)} {s : Store κ ε}
    (h : Run config past s) :
    (∀ k e, s.find? k = some e → e.WellFormed) ∧
      (∀ a k e, s.find? k = some e → e.snapshot.data.isSome = true →
        (∃ e', (s.act a).1.find? k = some e' ∧ e'.birth = e.birth ∧
            e'.snapshot.data.isSome = true) ∨
          ((s.act a).1.find? k = none ∧ .emit (.evicted k) ∈ (s.act a).2)) ∧
      (Orderly past → ∀ {ρ : Type} (v : Subscription ρ), v.view ∈ views past →
        ∃ e, s.viewed? v = some e ∧ (e.snapshot.status.isSettled = true →
          (∃ error, (s.state v).result = .error error) ∨
            ∃ data, (s.state v).result = .ok (some data))) ∧
      (∀ {ρ : Type} (v : Subscription ρ) (state : QueryState ρ ε), (s.settled? v).1 = some state →
        ∀ name, queryResult v.endpoint state ≠ .error (.noData name)) ∧
      ∀ {α ρ : Type} (q : Query κ α ρ) (arg : α) (error : RequestError ε),
        s.subscribe q arg = .error error → ∀ name, error ≠ .noData name := by
  have hwell := wellFormed_run h
  refine ⟨hwell, fun a k e => data_kept s a, ?_, ?_, ?_⟩
  · intro ho ρ v hv
    obtain ⟨e, he, _⟩ := viewed?_of_held h ho hv
    refine ⟨e, he, fun hsettled => ?_⟩
    have hfind := (Option.filter_eq_some_iff.mp he).1
    have hstate : s.state v = e.snapshot.decode v.endpoint v.result := by
      unfold Store.state Store.snapshot
      rw [he]
    rw [hstate]
    rcases result_of_settled (hwell _ _ hfind) hsettled v.endpoint v.result with
      ⟨error, hr, _⟩ | hr
    · exact Or.inl ⟨error, hr⟩
    · exact Or.inr hr
  · intro ρ v state hstate name
    obtain ⟨e, he, _, hsettled, rfl⟩ := settled?_eq_some hstate
    exact queryResult_of_settled (hwell _ _ he) hsettled v.endpoint v.result name
  · intro α ρ q arg error herror name
    obtain ⟨reason, rfl⟩ := subscribe_error herror
    simp

/-- A request fails that has followed up a hit. The entry keeps its data, and its subscriber sees
the error. -/
theorem entries_wellFormed_failed :
    let p := play {} [Sample.ask, Sample.answer 0 ["a"], .invalidate [Sample.tag "a"],
      .complete Sample.key 1 (.error ())]
    let v : Subscription Json := ⟨Sample.key, "customQuery", .any, 0, 0, none⟩
    Orderly p.1 ∧ v.view ∈ views p.1 ∧
      p.2.get? Sample.key = some
        ⟨.error, some (Sample.result ["a"]), some (.transport "customQuery" ())⟩ ∧
      (∀ k e, p.2.find? k = some e → e.WellFormed) ∧
      ((∃ error, (p.2.state v).result = .error error) ∨
        ∃ data, (p.2.state v).result = .ok (some data)) := by
  intro p v
  have ho : Orderly p.1 := by decide
  have hv : v.view ∈ views p.1 := by decide
  have hsettled : (p.2.viewed? v).map (fun e => e.snapshot.status.isSettled) = some true := by
    decide
  obtain ⟨hwell, _, hviews, _, _⟩ :=
    entries_wellFormed (show Run {} p.1 p.2 from run_play _ _)
  refine ⟨ho, hv, by decide, hwell, ?_⟩
  obtain ⟨e, he, hresult⟩ := hviews ho v hv
  rw [he] at hsettled
  exact hresult (Option.some.inj hsettled)

end

end TagCache
