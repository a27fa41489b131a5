import TagCache.Proofs.Origin

/-!
# No invalidation is lost

An invalidation that hits an entry obliges the store to ask for that entry once more. The
obligation takes different shapes: an idle entry with subscribers asks at once; one without becomes
stale, and its next subscriber asks; one that is already waiting is flagged, and asks when its
answer has come. The answer may be thrown away meanwhile, subscribers may leave and come back.

The past of a run says where the obligation has gone. `Waits` is about an entry with a request on
its way: the moment that started it, and that the entry has not changed its tags since. `Unhit` says
that a request is younger than every hit; it holds of every request that an unflagged entry waits
for, because a request is younger than all hits when it starts, and a later hit flags the entry.
An entry that has settled took its answer while unflagged.

## What the tags of an answer cannot see

An entry is hit by the tags it has. Those of the answer it waits for are not known yet, so an
invalidation passes by an entry that loads for the first time, even if the answer, asked for before
the invalidation, then provides the invalidated tag. `invalidated_while_loading` is such a run;
`invalidations_since_start` says that there is no other way.
-/

namespace TagCache

open Store

variable {κ ε : Type}

/-! ## The order of the past -/

/-- Moments, request ids and births are in order: everything that was is below what comes next. -/
structure Chronicle (past : List (Moment κ ε)) (s : Store κ ε) : Prop where
  times : ∀ r ∈ past, r.time < past.length
  requests : ∀ r ∈ past, r.before.nextRequest ≤ s.nextRequest
  births : ∀ r ∈ past, ∀ k e, r.before.find? k = some e → e.birth < s.created
  now : ∀ k e, s.find? k = some e → e.birth < s.created

theorem chronicle_init (config : StoreConfig) : Chronicle [] (new config : Store κ ε) where
  times := fun _ h => absurd h (by simp)
  requests := fun _ h => absurd h (by simp)
  births := fun _ h => absurd h (by simp)
  now := fun k e h => absurd h (by simp)

section

variable [DecidableEq κ]

/-- An entry keeps its birth; a new one takes the next. -/
theorem Origin.birth {m : Moment κ ε} {key : CacheKey} {e' : Entry κ ε} (h : Origin m key e') :
    (∃ e, m.before.find? key = some e ∧ e'.birth = e.birth) ∨
      (e'.birth = m.before.created ∧ m.before.created < m.after.created) := by
  cases h with
  | new _ hcreated hd => exact Or.inr ⟨hd.birth, hcreated⟩
  | drift he _ _ hd => exact Or.inl ⟨_, he, hd.birth⟩
  | hit he _ _ heq _ => exact Or.inl ⟨_, he, by rw [heq, (Entry.invalidated_frame _ _).1]⟩
  | discard he _ _ _ heq => exact Or.inl ⟨_, he, by rw [heq]; rfl⟩
  | answer he _ _ heq _ => exact Or.inl ⟨_, he, by rw [heq, (Entry.answered_frame _ _ _).1]⟩

theorem chronicle_step {past : List (Moment κ ε)} {m : Moment κ ε}
    (h : Chronicle past m.before) (hx : m.before.IndexExact) (htime : m.time = past.length) :
    Chronicle (m :: past) m.after := by
  obtain ⟨hnext, hcreated⟩ := counters_mono m
  refine ⟨?_, ?_, ?_, ?_⟩
  · intro r hr
    rcases List.mem_cons.mp hr with hr | hr
    · rw [hr, htime]; exact Nat.lt_succ_self _
    · exact Nat.lt_succ_of_lt (h.times r hr)
  · intro r hr
    rcases List.mem_cons.mp hr with hr | hr
    · rw [hr]; exact hnext
    · exact Nat.le_trans (h.requests r hr) hnext
  · intro r hr k e he
    rcases List.mem_cons.mp hr with hr | hr
    · rw [hr] at he
      exact Nat.lt_of_lt_of_le (h.now k e he) hcreated
    · exact Nat.lt_of_lt_of_le (h.births r hr k e he) hcreated
  · -- an entry keeps its birth, or takes the next
    intro k e' he'
    rcases (origin hx he').birth with ⟨e, he, hbirth⟩ | ⟨hbirth, hlt⟩
    · rw [hbirth]
      exact Nat.lt_of_lt_of_le (h.now k e he) hcreated
    · rw [hbirth]; exact hlt

end

/-! ## Requests and their hits -/

section

variable [DecidableEq κ]

/-- The entry waits for the request `id`, which the moment `m` has started. Its tags have been
the same since. -/
structure Waits (past : List (Moment κ ε)) (key : CacheKey) (e : Entry κ ε) (id : Nat)
    (m : Moment κ ε) : Prop where
  mem : m ∈ past
  starts : m.Starts ⟨key, id, e.request⟩
  since : ∀ r ∈ past, m.time < r.time → ∃ e₀, r.before.find? key = some e₀ ∧
    e₀.birth = e.birth ∧ e₀.inFlight = some id ∧ e₀.tags = e.tags

omit [DecidableEq κ] in
/-- The request `id` is younger than every hit: it started at `start`, no hit came later, and no
hit found the id given out. -/
def Unhit (past : List (Moment κ ε)) (key : CacheKey) (birth id start : Nat) : Prop :=
  ∀ r ∈ past, r.Hits key birth → r.time ≤ start ∧ r.before.nextRequest ≤ id

omit [DecidableEq κ] in
/-- The status, the error and the tags of an entry are those of an answer. -/
def Reports (e : Entry κ ε) (answer : Except ε Json) : Prop :=
  match outcome e answer with
  | .ok (_, provided) =>
    e.snapshot.status = .success ∧ e.snapshot.error = none ∧ e.tags = provided.eraseDups
  | .error error => e.snapshot.status = .error ∧ e.snapshot.error = some error

/-- The entry shows the answer to the request `id`: the moment `m` has started the request, the
moment `c` has taken up the answer, and no other answer has been taken up later. -/
structure Shows (past : List (Moment κ ε)) (key : CacheKey) (e : Entry κ ε) (id : Nat)
    (answer : Except ε Json) (m c : Moment κ ε) : Prop where
  start : m ∈ past
  starts : m.Starts ⟨key, id, e.request⟩
  taken : c ∈ past
  takes : c.TakesUp key e.birth id answer
  order : m.time < c.time
  reports : Reports e answer
  last : ∀ r ∈ past, ∀ id' answer', r.TakesUp key e.birth id' answer' → r.time ≤ c.time
  /-- From the start to the answer the entry has waited for it. -/
  waited : ∀ r ∈ past, m.time < r.time → r.time ≤ c.time →
    ∃ e₀, r.before.find? key = some e₀ ∧ e₀.birth = e.birth ∧ e₀.inFlight = some id
  /-- Since the answer the entry has had its tags. -/
  since : ∀ r ∈ past, c.time < r.time →
    ∃ e₀, r.before.find? key = some e₀ ∧ e₀.birth = e.birth ∧ e₀.tags = e.tags

/-- The entry shows the answer to a request that is younger than every hit: none came after the
moment that started it, and none found its id given out. -/
def ShowsAfterHits (past : List (Moment κ ε)) (key : CacheKey) (e : Entry κ ε) : Prop :=
  ∃ id answer m c, Shows past key e id answer m c ∧ Unhit past key e.birth id m.time

/-- What the past has to say about an entry. -/
structure Traced (past : List (Moment κ ε)) (key : CacheKey) (e : Entry κ ε) : Prop where
  /-- A request on its way was started, and unless the entry is flagged it is younger than every
  hit. -/
  flight : ∀ id, e.inFlight = some id → e.snapshot.status = .loading ∧
    ∃ m, Waits past key e id m ∧ (e.refetchAfter = false → Unhit past key e.birth id m.time)
  /-- A settled entry shows an answer to a request that is younger than every hit. -/
  settled : e.snapshot.status.isSettled = true → ShowsAfterHits past key e

variable {past : List (Moment κ ε)} {m : Moment κ ε} {key : CacheKey} {e e' : Entry κ ε}

omit [DecidableEq κ] in
/-- A request that starts now is younger than every hit, also than a hit of this moment. -/
theorem unhit_start (hc : Chronicle past m.before) (htime : m.time = past.length) {birth id : Nat}
    (hid : m.before.nextRequest ≤ id) : Unhit (m :: past) key birth id m.time := by
  intro r hr _
  rcases List.mem_cons.mp hr with hr | hr
  · rw [hr]; exact ⟨Nat.le_refl _, hid⟩
  · -- what came before had a smaller time, and had given out fewer ids
    have htimes := hc.times r hr
    have hrequests := hc.requests r hr
    exact ⟨by omega, by omega⟩

/-- Nothing has happened since this moment. -/
theorem waits_start (hc : Chronicle past m.before) (htime : m.time = past.length) {id : Nat}
    (hstarts : m.Starts ⟨key, id, e.request⟩) : Waits (m :: past) key e id m where
  mem := List.mem_cons_self
  starts := hstarts
  since := by
    intro r hr hlt
    rcases List.mem_cons.mp hr with hr | hr
    · rw [hr] at hlt; exact absurd hlt (Nat.lt_irrefl _)
    · have := hc.times r hr
      omega

omit [DecidableEq κ] in
/-- A miss leaves a request younger than every hit. -/
theorem Unhit.miss {birth id start : Nat} (h : Unhit past key birth id start)
    (hmiss : ¬ m.Hits key birth) : Unhit (m :: past) key birth id start := by
  intro r hr hhit
  rcases List.mem_cons.mp hr with hr | hr
  · rw [hr] at hhit; exact absurd hhit hmiss
  · exact h r hr hhit

/-- An entry goes on waiting. -/
theorem Waits.next {id : Nat} {start : Moment κ ε} (h : Waits past key e id start)
    (he : m.before.find? key = some e) (hf : e.inFlight = some id)
    (hrequest : e'.request = e.request) (hbirth : e'.birth = e.birth) (htags : e'.tags = e.tags) :
    Waits (m :: past) key e' id start where
  mem := List.mem_cons_of_mem _ h.mem
  starts := by rw [hrequest]; exact h.starts
  since := by
    intro r hr hlt
    rw [hbirth, htags]
    rcases List.mem_cons.mp hr with hr | hr
    · rw [hr]; exact ⟨e, he, rfl, hf, rfl⟩
    · exact h.since r hr hlt

/-- An entry goes on showing its answer. -/
theorem Shows.next {id : Nat} {answer : Except ε Json} {start c : Moment κ ε}
    (h : Shows past key e id answer start c) (hc : Chronicle past m.before)
    (htime : m.time = past.length) (he : m.before.find? key = some e)
    (hidle : ∀ id answer, ¬ m.TakesUp key e.birth id answer) (hrequest : e'.request = e.request)
    (hbirth : e'.birth = e.birth) (htags : e'.tags = e.tags) (hreports : Reports e' answer) :
    Shows (m :: past) key e' id answer start c where
  start := List.mem_cons_of_mem _ h.start
  starts := by rw [hrequest]; exact h.starts
  taken := List.mem_cons_of_mem _ h.taken
  takes := by rw [hbirth]; exact h.takes
  order := h.order
  reports := hreports
  last := by
    intro r hr id' answer' htake
    rw [hbirth] at htake
    rcases List.mem_cons.mp hr with hr | hr
    · rw [hr] at htake; exact absurd htake (hidle id' answer')
    · exact h.last r hr id' answer' htake
  waited := by
    intro r hr hlt hle
    rw [hbirth]
    rcases List.mem_cons.mp hr with hr | hr
    · have := hc.times c h.taken
      rw [hr, htime] at hle
      omega
    · exact h.waited r hr hlt hle
  since := by
    intro r hr hlt
    rw [hbirth, htags]
    rcases List.mem_cons.mp hr with hr | hr
    · rw [hr]; exact ⟨e, he, rfl, rfl⟩
    · exact h.since r hr hlt

/-! ## Every origin keeps the trace -/

omit [DecidableEq κ] in
theorem outcome_congr (hendpoint : e'.endpoint = e.endpoint) (hprovides : e'.provides = e.provides)
    (answer : Except ε Json) : outcome e' answer = outcome e answer := by
  unfold outcome
  rw [hendpoint, hprovides]

theorem Reports.drift {effects : List (Effect κ ε)} {lo hi : Nat} {answer : Except ε Json}
    (h : Reports e answer) (hd : e.Drifts key effects lo hi e')
    (hstatus : e'.snapshot.status = e.snapshot.status) : Reports e' answer := by
  unfold Reports at h ⊢
  rw [outcome_congr hd.endpoint hd.provides, hstatus, hd.error, hd.tags]
  exact h

/-- An entry whose request starts now. -/
theorem traced_start (hc : Chronicle past m.before) (htime : m.time = past.length) {id : Nat}
    (hf : e'.inFlight = some id) (hstatus : e'.snapshot.status = .loading)
    (hid : m.before.nextRequest ≤ id) (hstarts : m.Starts ⟨key, id, e'.request⟩) :
    Traced (m :: past) key e' where
  flight := by
    intro id' hf'
    rw [hf] at hf'
    obtain rfl := Option.some.inj hf'
    exact ⟨hstatus, m, waits_start hc htime hstarts, fun _ => unhit_start hc htime hid⟩
  settled := by
    intro hsettled
    rw [hstatus] at hsettled
    exact Bool.noConfusion hsettled

/-- An entry that neither waits nor has settled. -/
theorem traced_idle (hf : e'.inFlight = none) (hstatus : e'.snapshot.status.isSettled = false) :
    Traced past key e' where
  flight := by
    intro id hid
    rw [hf] at hid
    exact absurd hid (by simp)
  settled := by
    intro hsettled
    rw [hstatus] at hsettled
    exact Bool.noConfusion hsettled

theorem traced_new {endpoint : String} {request : Request}
    {provides : Json → Except DecodeError (List (Tag κ))} {birth : Nat}
    (hc : Chronicle past m.before) (htime : m.time = past.length)
    (hd : (Entry.new endpoint request provides birth).Drifts key m.effects
      m.before.nextRequest m.after.nextRequest e') : Traced (m :: past) key e' := by
  rcases hd.flight with ⟨hf, hstatus⟩ | ⟨_, hstatus, id, hid, _, hf, hsend⟩
  · exact traced_idle hf (by rw [hstatus]; rfl)
  · refine traced_start hc htime hf hstatus hid ?_
    rw [hd.request]; exact hsend

theorem traced_drift (h : Traced past key e) (hc : Chronicle past m.before)
    (htime : m.time = past.length) (he : m.before.find? key = some e)
    (hmiss : ¬ m.Hits key e.birth) (hidle : ∀ id answer, ¬ m.TakesUp key e.birth id answer)
    (hd : e.Drifts key m.effects m.before.nextRequest m.after.nextRequest e') :
    Traced (m :: past) key e' := by
  rcases hd.flight with ⟨hf, hstatus⟩ | ⟨_, hstatus, id, hid, _, hf, hsend⟩
  · -- no request was started: it goes on waiting, or goes on showing
    refine ⟨?_, ?_⟩
    · intro id hid
      rw [hf] at hid
      obtain ⟨hload, start, hwaits, hunhit⟩ := h.flight id hid
      refine ⟨hstatus.trans hload, start, hwaits.next he hid hd.request hd.birth hd.tags, ?_⟩
      rw [hd.flag, hd.birth]
      exact fun hflag => (hunhit hflag).miss hmiss
    · intro hsettled
      rw [hstatus] at hsettled
      obtain ⟨id, answer, start, c, hshows, hunhit⟩ := h.settled hsettled
      refine ⟨id, answer, start, c, ?_, ?_⟩
      · exact hshows.next hc htime he hidle hd.request hd.birth hd.tags
          (hshows.reports.drift hd hstatus)
      · rw [hd.birth]; exact hunhit.miss hmiss
  · -- a request was started, and is younger than all before it
    refine traced_start hc htime hf hstatus hid ?_
    rw [hd.request]; exact hsend

theorem traced_hit {id : Nat} (h : Traced past key e) (hc : Chronicle past m.before)
    (htime : m.time = past.length) (he : m.before.find? key = some e)
    (hid : m.before.nextRequest ≤ id)
    (hsend : e.inFlight = none → 0 < e.subscribers →
      id < m.after.nextRequest ∧ m.Starts ⟨key, id, e.request⟩) :
    Traced (m :: past) key (e.invalidated id) := by
  cases hf : e.inFlight with
  | some current =>
      -- it is flagged, and goes on waiting for a request that may be older than this hit
      have hflagged : e.invalidated id = { e with refetchAfter := true } := by
        unfold Entry.invalidated
        rw [if_pos (by rw [hf]; rfl)]
      rw [hflagged]
      obtain ⟨hload, start, hwaits, _⟩ := h.flight current hf
      refine ⟨?_, ?_⟩
      · intro id' hid'
        change e.inFlight = some id' at hid'
        rw [hf] at hid'
        obtain rfl := Option.some.inj hid'
        exact ⟨hload, start, hwaits.next he hf rfl rfl rfl, fun hflag => Bool.noConfusion hflag⟩
      · intro hsettled
        change e.snapshot.status.isSettled = true at hsettled
        rw [hload] at hsettled
        exact Bool.noConfusion hsettled
  | none =>
      unfold Entry.invalidated
      rw [if_neg (by rw [hf]; exact Bool.false_ne_true)]
      by_cases hsubs : 0 < e.subscribers
      · rw [if_pos hsubs]
        exact traced_start hc htime rfl rfl hid (hsend hf hsubs).2
      · rw [if_neg hsubs]
        exact traced_idle hf rfl

omit [DecidableEq κ] in
theorem status_discard (e : Entry κ ε) : (Store.discard e).snapshot.status.isSettled = false := by
  change (if e.snapshot.data.isSome then QueryStatus.stale else .uninitialized).isSettled = false
  split
  · rfl
  · rfl

theorem outcome_settled (e : Entry κ ε) (o : Except (RequestError ε) (Json × List (Tag κ)))
    (answer : Except ε Json) : outcome (e.settled o) answer = outcome e answer := by
  cases o with
  | ok _ => exact outcome_congr rfl rfl answer
  | error _ => exact outcome_congr rfl rfl answer

theorem reports_settled (e : Entry κ ε) (answer : Except ε Json) :
    Reports (e.settled (outcome e answer)) answer := by
  unfold Reports
  rw [outcome_settled]
  cases outcome e answer with
  | ok _ => exact ⟨rfl, rfl, rfl⟩
  | error _ => exact ⟨rfl, rfl⟩

/-- An entry that has just taken up the answer it waited for shows it. -/
theorem Waits.answered {id : Nat} {answer : Except ε Json} {start : Moment κ ε}
    (h : Waits past key e id start) (hc : Chronicle past m.before) (htime : m.time = past.length)
    (he : m.before.find? key = some e) (htake : m.TakesUp key e.birth id answer)
    (hf : e.inFlight = some id) :
    Shows (m :: past) key (e.settled (outcome e answer)) id answer start m where
  start := List.mem_cons_of_mem _ h.mem
  starts := by
    rw [(settled_frame e _).2.2.2]
    exact h.starts
  taken := List.mem_cons_self
  takes := by
    rw [Entry.birth_settled]
    exact htake
  order := by
    rw [htime]
    exact hc.times start h.mem
  reports := reports_settled e answer
  last := by
    intro r hr _ _ _
    rcases List.mem_cons.mp hr with hr | hr
    · rw [hr]
    · rw [htime]; exact Nat.le_of_lt (hc.times r hr)
  waited := by
    intro r hr hlt _
    rw [Entry.birth_settled]
    rcases List.mem_cons.mp hr with hr | hr
    · rw [hr]; exact ⟨e, he, rfl, hf⟩
    · obtain ⟨e₀, he₀, hbirth, hflight, _⟩ := h.since r hr hlt
      exact ⟨e₀, he₀, hbirth, hflight⟩
  since := by
    -- the answer is the last moment
    intro r hr hlt
    rcases List.mem_cons.mp hr with hr | hr
    · rw [hr] at hlt; exact absurd hlt (Nat.lt_irrefl _)
    · have := hc.times r hr
      rw [htime] at hlt
      omega

theorem traced_answer {id : Nat} {answer : Except ε Json} (h : Traced past key e)
    (hc : Chronicle past m.before) (htime : m.time = past.length)
    (he : m.before.find? key = some e) (htake : m.TakesUp key e.birth id answer)
    (hf : e.inFlight = some id)
    (hsend : e.refetchAfter = true → m.before.nextRequest < m.after.nextRequest ∧
      m.Starts ⟨key, m.before.nextRequest, e.request⟩) :
    Traced (m :: past) key (e.answered answer m.before.nextRequest) := by
  obtain ⟨_, _, hidle, hrequest⟩ := settled_frame e (outcome e answer)
  unfold Entry.answered
  cases hflag : e.refetchAfter with
  | true =>
      -- the answer may be older than a hit, but is not shown: the next request is on its way
      rw [if_pos rfl]
      refine traced_start hc htime rfl rfl (Nat.le_refl _) ?_
      change m.Starts ⟨key, _, (e.settled (outcome e answer)).request⟩
      rw [hrequest]
      exact (hsend hflag).2
  | false =>
      rw [if_neg (by simp)]
      obtain ⟨_, start, hwaits, hunhit⟩ := h.flight id hf
      refine ⟨?_, fun _ => ⟨id, answer, start, m, ?_, ?_⟩⟩
      · intro id' hid'
        rw [hidle] at hid'
        exact absurd hid' (by simp)
      · exact hwaits.answered hc htime he htake hf
      · rw [Entry.birth_settled]
        exact (hunhit hflag).miss (not_hits_of_complete htake.1 _ _)

/-- **Every moment keeps the trace of every entry.** -/
theorem traced_step (h : ∀ k e, m.before.find? k = some e → Traced past k e)
    (hc : Chronicle past m.before) (hx : m.before.IndexExact) (htime : m.time = past.length)
    (he' : m.after.find? key = some e') : Traced (m :: past) key e' := by
  cases origin hx he' with
  | new _ _ hd => exact traced_new hc htime hd
  | drift he hmiss hidle hd => exact traced_drift (h _ _ he) hc htime he hmiss hidle hd
  | hit he _ hid heq hsend =>
      rw [heq]
      exact traced_hit (h _ _ he) hc htime he hid hsend
  | discard _ _ _ _ heq =>
      rw [heq]
      exact traced_idle rfl (status_discard _)
  | answer he htake hf heq hsend =>
      rw [heq]
      exact traced_answer (h _ _ he) hc htime he htake hf hsend

theorem chronicle_run {config : StoreConfig} {s : Store κ ε} (h : Run config past s) :
    Chronicle past s := by
  induction h with
  | init => exact chronicle_init config
  | tail hr a ih => exact chronicle_step ih (indexExact_run hr) rfl

theorem traced_run {config : StoreConfig} {s : Store κ ε} (h : Run config past s) :
    ∀ k e, s.find? k = some e → Traced past k e := by
  induction h with
  | init => exact fun k e he => absurd he (by simp)
  | tail hr a ih =>
      intro k e he
      exact traced_step ih (chronicle_run hr) (indexExact_run hr) rfl he

/-! ## What a settled entry shows -/

omit [DecidableEq κ] in
/-- What waiting returns is the snapshot of the entry that the subscription views. -/
theorem settled?_eq_some {ρ : Type} {s : Store κ ε} {v : Subscription ρ} {state : QueryState ρ ε}
    (h : (s.settled? v).1 = some state) : ∃ e, s.find? v.key = some e ∧ e.birth = v.birth ∧
      e.snapshot.status.isSettled = true ∧ state = e.snapshot.decode v.endpoint v.result := by
  unfold settled? at h
  cases hv : s.viewed? v with
  | none =>
      have hsnap : s.snapshot v = .initial := by unfold Store.snapshot; rw [hv]
      rw [hsnap] at h
      exact absurd h (by simp [Snapshot.initial, QueryStatus.isSettled])
  | some e =>
      have hsnap : s.snapshot v = e.snapshot := by unfold Store.snapshot; rw [hv]
      unfold viewed? at hv
      obtain ⟨hfind, hbirth⟩ := Option.filter_eq_some_iff.mp hv
      unfold Store.state at h
      rw [hsnap] at h
      by_cases hsettled : e.snapshot.status.isSettled = true
      · simp only [if_pos hsettled] at h
        exact ⟨e, hfind, of_decide_eq_true hbirth, hsettled, (Option.some.inj h).symm⟩
      · simp only [if_neg hsettled] at h
        exact absurd h (by simp)

/-- **No invalidation that hits an entry is lost.** In every state of every run a settled entry
reports the answer to a request that was started no earlier than its last hit; and waiting for a
query never returns anything else. -/
theorem settled_after_hits {config : StoreConfig} {s : Store κ ε} (h : Run config past s) :
    (∀ k e, s.find? k = some e → e.snapshot.status.isSettled = true → ShowsAfterHits past k e) ∧
      ∀ {ρ : Type} (v : Subscription ρ) (state : QueryState ρ ε), (s.settled? v).1 = some state →
        ∃ e, s.find? v.key = some e ∧ e.birth = v.birth ∧
          state = e.snapshot.decode v.endpoint v.result ∧ ShowsAfterHits past v.key e := by
  refine ⟨fun k e he => (traced_run h k e he).settled, ?_⟩
  intro ρ v state hstate
  obtain ⟨e, he, hbirth, hsettled, heq⟩ := settled?_eq_some hstate
  exact ⟨e, he, hbirth, heq, (traced_run h v.key e he).settled hsettled⟩

/-- The entry is hit twice, idle and while it waits. What it shows in the end is the answer to the
third request. -/
theorem settled_after_hits_twice :
    let p := play {} [Sample.ask, Sample.answer 0 ["a"], .invalidate [Sample.tag "a"],
      .invalidate [Sample.tag "a"], Sample.answer 1 ["a"], Sample.answer 2 ["b"]]
    ∃ e, p.2.find? Sample.key = some e ∧ e.snapshot.status = .success ∧ e.tags = [Sample.tag "b"] ∧
      ShowsAfterHits p.1 Sample.key e :=
  ⟨_, rfl, rfl, by decide, (settled_after_hits (run_play _ _)).1 _ _ rfl rfl⟩

/-! ## What a result provides -/

theorem pairwise_time {config : StoreConfig} {s : Store κ ε} (h : Run config past s) :
    past.Pairwise fun r r' => r'.time < r.time := by
  induction h with
  | init => exact .nil
  | tail hr a ih => exact .cons (chronicle_run hr).times ih

omit [DecidableEq κ] in
/-- A time belongs to one moment. -/
theorem eq_of_time_eq (h : past.Pairwise fun r r' => r'.time < r.time) {r r' : Moment κ ε}
    (hr : r ∈ past) (hr' : r' ∈ past) (htime : r.time = r'.time) : r = r' := by
  induction h with
  | nil => exact absurd hr (by simp)
  | cons hlt _ ih =>
      rcases List.mem_cons.mp hr with rfl | hin
      · rcases List.mem_cons.mp hr' with rfl | hin'
        · rfl
        · have := hlt r' hin'; omega
      · rcases List.mem_cons.mp hr' with rfl | hin'
        · have := hlt r hin; omega
        · exact ih hin hin'

/-- An invalidation of a tag that is provided now, if it came after the request was started, passed
the entry by while it waited. -/
theorem Shows.passed_by {id : Nat} {answer : Except ε Json} {m c r : Moment κ ε} {t : Tag κ}
    (h : Shows past key e id answer m c) (hunhit : Unhit past key e.birth id m.time)
    (hordered : past.Pairwise fun r r' => r'.time < r.time) (htag : t ∈ e.tags) (hr : r ∈ past)
    (ht : t ∈ r.action.invalidated) (hlt : m.time < r.time) :
    r.time < c.time ∧ ∃ e₀, r.before.find? key = some e₀ ∧ e₀.birth = e.birth ∧
      e₀.inFlight = some id ∧ ∀ t' ∈ r.action.invalidated, t' ∉ e₀.tags := by
  have hmiss : ¬ r.Hits key e.birth := by
    intro hhit
    have := (hunhit r hr hhit).1
    omega
  have hbefore : r.time < c.time := by
    rcases Nat.lt_trichotomy r.time c.time with hlt' | heq | hgt
    · exact hlt'
    · -- the answer itself invalidates nothing
      rw [eq_of_time_eq hordered hr h.taken heq, h.takes.1] at ht
      exact absurd ht (by simp [Action.invalidated])
    · -- after the answer it had the tag, and was hit
      obtain ⟨e₀, he₀, hbirth, htags⟩ := h.since r hr hgt
      exact absurd ⟨e₀, he₀, hbirth, t, ht, htags ▸ htag⟩ hmiss
  obtain ⟨e₀, he₀, hbirth, hflight⟩ := h.waited r hr hlt (Nat.le_of_lt hbefore)
  exact ⟨hbefore, e₀, he₀, hbirth, hflight, fun t' ht' htag' =>
    hmiss ⟨e₀, he₀, hbirth, t', ht', htag'⟩⟩

/-- **A result is as young as its tags, unless they were not known.** If an entry has succeeded and
provides a tag, an invalidation of the tag after the start of the request that brought the result
came before the answer, when the entry waited for it and provided none of the invalidated tags. -/
theorem invalidations_since_start {config : StoreConfig} {s : Store κ ε} (h : Run config past s)
    {t : Tag κ} (he : s.find? key = some e) (hstatus : e.snapshot.status = .success)
    (htag : t ∈ e.tags) :
    ∃ id value m c, Shows past key e id (.ok value) m c ∧
      ∀ r ∈ past, t ∈ r.action.invalidated → m.time < r.time → r.time < c.time ∧
        ∃ e₀, r.before.find? key = some e₀ ∧ e₀.birth = e.birth ∧ e₀.inFlight = some id ∧
          ∀ t' ∈ r.action.invalidated, t' ∉ e₀.tags := by
  obtain ⟨id, answer, m, c, hshows, hunhit⟩ :=
    (traced_run h key e he).settled (by rw [hstatus]; rfl)
  cases answer with
  | error source =>
      have hreports := hshows.reports
      exact absurd (hstatus.symm.trans hreports.1) (by simp)
  | ok value =>
      exact ⟨id, value, m, c, hshows, fun r hr ht hlt =>
        hshows.passed_by hunhit (pairwise_time h) htag hr ht hlt⟩

/-- The entry is requested once more, and its new result gains a tag that was invalidated
meanwhile. -/
theorem invalidations_since_start_refetch :
    let p := play {} [Sample.ask, Sample.answer 0 ["a"], .invalidate [Sample.tag "a"],
      .invalidate [Sample.tag "b"], Sample.answer 1 ["a", "b"]]
    ∃ e, p.2.find? Sample.key = some e ∧ e.snapshot.status = .success ∧ Sample.tag "b" ∈ e.tags ∧
      ∃ id value m c, Shows p.1 Sample.key e id (.ok value) m c ∧
        ∀ r ∈ p.1, Sample.tag "b" ∈ r.action.invalidated → m.time < r.time → r.time < c.time ∧
          ∃ e₀, r.before.find? Sample.key = some e₀ ∧ e₀.birth = e.birth ∧ e₀.inFlight = some id ∧
            ∀ t' ∈ r.action.invalidated, t' ∉ e₀.tags :=
  ⟨_, rfl, rfl, by decide,
    invalidations_since_start (t := Sample.tag "b") (run_play _ _) rfl rfl (by decide)⟩

/-- The first request of the entry is on its way when a tag is invalidated that its answer will
provide. Nothing is hit, and the answer becomes the result. -/
theorem invalidated_while_loading :
    let p := play {} [Sample.ask, .invalidate [Sample.tag "a"], Sample.answer 0 ["a"]]
    ∃ e id value m c, p.2.find? Sample.key = some e ∧ e.snapshot.status = .success ∧
      Sample.tag "a" ∈ e.tags ∧ Shows p.1 Sample.key e id (.ok value) m c ∧
        ∃ r ∈ p.1, Sample.tag "a" ∈ r.action.invalidated ∧ m.time < r.time := by
  intro p
  have hrun : Run {} p.1 p.2 := run_play _ _
  obtain ⟨e, he, hstatus, htag⟩ : ∃ e, p.2.find? Sample.key = some e ∧
      e.snapshot.status = .success ∧ Sample.tag "a" ∈ e.tags := ⟨_, rfl, rfl, by decide⟩
  obtain ⟨id, answer, m, c, hshows, _⟩ := (traced_run hrun _ e he).settled (by rw [hstatus]; rfl)
  obtain ⟨value, rfl⟩ : ∃ value, answer = .ok value := by
    cases answer with
    | error _ => exact absurd (hstatus.symm.trans hshows.reports.1) (by simp)
    | ok value => exact ⟨value, rfl⟩
  refine ⟨e, id, value, m, c, he, hstatus, htag, hshows, p.1[1], List.getElem_mem _, by decide, ?_⟩
  -- the request was started by the subscription: the invalidation has sent none, and the answer
  -- is the last moment
  have hm : m = p.1[0] ∨ m = p.1[1] ∨ m = p.1[2] := by
    simpa using (show m ∈ [p.1[0], p.1[1], p.1[2]] from hshows.start)
  rcases hm with rfl | rfl | rfl
  · have hbound : c.time < 3 := (chronicle_run hrun).times c hshows.taken
    have horder : 2 < c.time := hshows.order
    omega
  · have heffects : p.1[1].effects = [.emit (.invalidated [Sample.tag "a"] [])] := by decide
    have hstarts := hshows.starts
    unfold Moment.Starts at hstarts
    rw [heffects] at hstarts
    exact absurd hstarts (by simp)
  · decide

end

end TagCache
