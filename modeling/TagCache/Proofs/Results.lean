import TagCache.Proofs.ArrivalOrder
import TagCache.Proofs.Described

/-!
# What an answer brings

An answer brings an entry a result only if the entry waits for the request, somebody is there to see
it, and the endpoint decodes it. Then the entry shows the result and provides its tags, and nothing
else changes. In every other case nothing that is cached changes: the answer was for an entry that
is gone, or for an earlier request, or nobody was there, or it was an error or no result. This holds
whether or not the entry is requested again in the same turn.

Data, tags and index are written at different places. What keeps them together is that the index is
exact after every moment, so that it suffices to follow the entries.
-/

namespace TagCache

open Store

variable {κ ε : Type}

/-- What an entry caches: its data, and the tags that the data provides. -/
def Entry.content (e : Entry κ ε) : Option Json × List (Tag κ) := (e.snapshot.data, e.tags)

/-- What is cached under a key. -/
def Store.contentOf (s : Store κ ε) (key : CacheKey) : Option (Option Json × List (Tag κ)) :=
  (s.find? key).map Entry.content

/-- The answer to the request `id` brings the entry under the key a result: the entry waits for it,
it has a subscriber, and the result type of the call that it was made for decodes the value. -/
def Store.Brings (s : Store κ ε) (key : CacheKey) (id : Nat) (answer : Except ε Json) (value : Json)
    (tags : List (Tag κ)) : Prop :=
  ∃ (α ρ : Type) (q : Query κ α ρ) (arg : α) (e : Entry κ ε) (result : ρ),
    s.find? key = some e ∧ e.MadeFor q arg key ∧ e.inFlight = some id ∧ 0 < e.subscribers ∧
      answer = .ok value ∧ q.result.decode value = .ok result ∧ tags = q.provides result arg

theorem nodup_eraseDups {α : Type} [DecidableEq α] (xs : List α) : xs.eraseDups.Nodup := by
  induction hn : xs.length using Nat.strong_induction_on generalizing xs with
  | _ n ih =>
      cases xs with
      | nil => exact .nil
      | cons x xs =>
          have hshorter : (xs.filter fun y => !y == x).length < n :=
            hn ▸ Nat.lt_succ_of_le (List.length_filter_le _ _)
          rw [List.eraseDups_cons]
          refine List.nodup_cons.mpr ⟨fun hx => ?_, ih _ hshorter _ rfl⟩
          obtain ⟨_, hne⟩ := List.mem_filter.mp (List.mem_eraseDups.mp hx)
          exact absurd hne (by simp)

section

variable {s s' : Store κ ε} {key : CacheKey} {id : Nat} {answer : Except ε Json} {value : Json}
  {tags : List (Tag κ)} {e : Entry κ ε} {effects : List (Effect κ ε)}

variable [DecidableEq κ] {config : StoreConfig} {past : List (Moment κ ε)}

/-- The entry reads the tags of a result as the call that it was made for does. -/
theorem brings_iff (h : Run config past s) : s.Brings key id answer value tags ↔
    ∃ e, s.find? key = some e ∧ e.inFlight = some id ∧ 0 < e.subscribers ∧
      outcome e answer = .ok (value, tags) := by
  constructor
  · rintro ⟨_, _, q, arg, e, result, he, hmade, hflight, hsubs, hanswer, hdecode, htags⟩
    refine ⟨e, he, hflight, hsubs, outcome_eq_ok.mpr ⟨hanswer, ?_⟩⟩
    rw [hmade.provides]
    exact rawTags_eq_ok.mpr ⟨result, hdecode, htags.symm⟩
  · rintro ⟨e, he, hflight, hsubs, houtcome⟩
    obtain ⟨_, _, _, _, α, ρ, q, arg, _, hmade⟩ := made_run h he
    obtain ⟨hanswer, htags⟩ := outcome_eq_ok.mp houtcome
    rw [hmade.provides] at htags
    obtain ⟨result, hdecode, htags⟩ := rawTags_eq_ok.mp htags
    exact ⟨α, ρ, q, arg, e, result, he, hmade, hflight, hsubs, hanswer, hdecode, htags.symm⟩

/-! ## Results -/

/-- A result becomes the data of the entry, and its tags those of the entry, also if the entry is
requested again at once. -/
theorem content_answered (houtcome : outcome e answer = .ok (value, tags)) (next : Nat) :
    (e.answered answer next).content = (some value, tags.eraseDups) := by
  obtain ⟨_, htags, hdata⟩ := e.answered_frame answer next
  unfold Entry.content
  rw [htags, hdata, houtcome]
  rfl

/-- An error leaves what the entry caches. -/
theorem content_answered_error {error : RequestError ε} (houtcome : outcome e answer = .error error)
    (next : Nat) : (e.answered answer next).content = e.content := by
  obtain ⟨_, htags, hdata⟩ := e.answered_frame answer next
  unfold Entry.content
  rw [htags, hdata, houtcome]
  rfl

/-- An answer concerns the entry under its key alone. -/
theorem find?_completeFetch_of_ne {k : CacheKey} (hk : k ≠ key) :
    (s.completeFetch key id answer).1.find? k = s.find? k := by
  rw [find?_completeFetch, if_neg hk]

/-- An answer that brings nothing leaves what is cached, and the index. -/
theorem kept_of_not_brings (h : Run config past s)
    (hnot : ¬ ∃ value tags, s.Brings key id answer value tags) :
    (∀ k, (s.completeFetch key id answer).1.contentOf k = s.contentOf k) ∧
      (s.completeFetch key id answer).1.index = s.index := by
  rcases completeFetch_cases s key id answer with
    ⟨heq, _⟩ | ⟨e, he, _, _, heq⟩ | ⟨e, he, hflight, hsubs, ha⟩
  · rw [heq]
    exact ⟨fun _ => rfl, rfl⟩
  · rw [heq]
    refine ⟨fun k => ?_, rfl⟩
    unfold contentOf
    rw [find?_setEntry]
    split
    · rename_i hk
      rw [hk, he]
      rfl
    · rfl
  · cases houtcome : outcome e answer with
    | ok r => exact absurd ⟨r.1, r.2, (brings_iff h).mpr ⟨e, he, hflight, hsubs, houtcome⟩⟩ hnot
    | error error =>
        refine ⟨fun k => ?_, by rw [ha.index, houtcome]; rfl⟩
        unfold contentOf
        rw [ha.find]
        split
        · rename_i hk
          rw [hk, he, Option.map_some, Option.map_some, content_answered_error houtcome]
        · rfl

/-- Whoever provides an invalidated tag is hit. -/
theorem find?_invalidateTags (hx : s.IndexExact) {invalidated : List (Tag κ)}
    (he : s.find? key = some e) (hmeets : ∃ t ∈ invalidated, t ∈ e.tags) :
    key ∈ s.hits invalidated ∧
      ∃ next, (s.invalidateTags invalidated).1.find? key = some (e.invalidated next) := by
  have hhit : key ∈ s.hits invalidated := (hx.mem_hits invalidated key).mpr ⟨e, he, hmeets⟩
  obtain ⟨next, _, hfind, _⟩ := (invalidates_invalidateTags s invalidated).hit key e hhit he
  exact ⟨hhit, next, hfind⟩

/-- **An answer that brings no result damages nothing.** After every run, an answer changes what is
cached only if it brings the entry under its key a result. Then the entry has the result as its data
and the tags that the result provides, each once, and the index has its key under these tags and no
others. Otherwise the data and the tags of every entry and the index are what they were, and every
entry can be invalidated by the tags that it had. Either way no other entry changes at all, and it
makes no difference whether the entry was hit meanwhile and is requested again. -/
theorem answers_damage_nothing (h : Run config past s) (key : CacheKey) (id : Nat)
    (answer : Except ε Json) :
    let s' := (s.completeFetch key id answer).1
    (∀ k, k ≠ key → s'.find? k = s.find? k) ∧
    (∀ value tags, s.Brings key id answer value tags →
      (∃ e, s'.find? key = some e ∧ e.snapshot.data = some value ∧
        e.tags.Nodup ∧ ∀ t, t ∈ e.tags ↔ t ∈ tags) ∧
      ∀ t k, k ∈ s'.keysOf t ↔ if k = key then t ∈ tags else k ∈ s.keysOf t) ∧
    ((¬ ∃ value tags, s.Brings key id answer value tags) →
      (∀ k, s'.contentOf k = s.contentOf k) ∧ s'.index = s.index ∧
      ∀ invalidated k e, s.find? k = some e → (∃ t ∈ invalidated, t ∈ e.tags) →
        k ∈ s'.hits invalidated ∧ ∃ e' next, s'.find? k = some e' ∧
          (s'.invalidateTags invalidated).1.find? k = some (e'.invalidated next)) := by
  intro s'
  have hx := indexExact_run h
  have hx' : s'.IndexExact := indexExact_run (h.tail (.complete key id answer))
  have hother : ∀ k, k ≠ key → s'.find? k = s.find? k := fun k hk => find?_completeFetch_of_ne hk
  refine ⟨hother, fun value tags hbrings => ?_, fun hnot => ?_⟩
  · obtain ⟨e, he, hflight, hsubs, houtcome⟩ := (brings_iff h).mp hbrings
    obtain ⟨e', he', hcontent⟩ : ∃ e', s'.find? key = some e' ∧
        e'.content = (some value, tags.eraseDups) := by
      refine ⟨e.answered answer s.nextRequest, ?_, content_answered houtcome _⟩
      rw [find?_completeFetch, if_pos rfl, he, Option.map_some, Entry.completed,
        if_neg (not_not_intro hflight), if_neg (Nat.pos_iff_ne_zero.mp hsubs)]
    obtain ⟨hdata, htags⟩ := Prod.mk.inj hcontent
    have hmem : ∀ t, t ∈ e'.tags ↔ t ∈ tags := fun t => by rw [htags, List.mem_eraseDups]
    refine ⟨⟨e', he', hdata, ?_, hmem⟩, fun t k => ?_⟩
    · rw [htags]
      exact nodup_eraseDups tags
    · rw [hx'.mem]
      unfold Provides
      split
      · rename_i hk
        rw [hk, he']
        simp [hmem]
      · rename_i hk
        rw [hx.mem, hother k hk]
        rfl
  · obtain ⟨hcontent, hindex⟩ := kept_of_not_brings h hnot
    refine ⟨hcontent, hindex, fun invalidated k e he hmeets => ?_⟩
    have hk := hcontent k
    unfold contentOf at hk
    rw [he, Option.map_some] at hk
    obtain ⟨e', he', hcached⟩ := Option.map_eq_some_iff.mp hk
    rw [← (Prod.mk.inj hcached).2] at hmeets
    obtain ⟨hhit, next, hfind⟩ := find?_invalidateTags hx' he' hmeets
    exact ⟨hhit, e', next, he', hfind⟩

end

/-! ### No list of environments -/

namespace Sample

open Portal

/-- The answer with these environments. -/
def environments (names : List String) : Json :=
  .arr (names.map fun name => .obj [("id", .str name), ("name", .str name)])

/-- Where the environments are cached. -/
def environmentsKey : CacheKey := .ofArg "getAllEnvironments" .null

def environmentTags (names : List String) : List (Tag TagKind) :=
  TagKind.environment.listTags names

/-- The environments are there, are requested again, and one of them is invalidated. -/
def reloading : List (Action TagKind Unit) :=
  [.subscribe getAllEnvironments (), .complete environmentsKey 0 (.ok (environments ["dev"])),
    .refetch environmentsKey, .invalidate [TagKind.environment.entity "dev"]]

end Sample

/-- The list comes, or something that is no list. Either way the entry is requested once more. -/
theorem answers_damage_nothing_flagged :
    let s := (play {} Sample.reloading).2
    let got := (s.completeFetch Sample.environmentsKey 1 (.ok (Sample.environments ["test"]))).1
    let failed := (s.completeFetch Sample.environmentsKey 1 (.ok .null)).1
    (∃ e, got.find? Sample.environmentsKey = some e ∧ e.inFlight = some 2 ∧
      e.snapshot.data = some (Sample.environments ["test"]) ∧
      ∀ t, t ∈ e.tags ↔ t ∈ Sample.environmentTags ["test"]) ∧
    failed.contentOf Sample.environmentsKey =
      some (some (Sample.environments ["dev"]), Sample.environmentTags ["dev"]) ∧
    Sample.environmentsKey ∈ failed.hits [Portal.TagKind.environment.entity "dev"] := by
  intro s got failed
  have hrun : Run {} (play {} Sample.reloading).1 s := run_play _ _
  have hwaits : (s.find? Sample.environmentsKey).map (fun e => (e.inFlight, e.subscribers)) =
      some (some 1, 1) := by
    decide +kernel
  have hresult : (s.find? Sample.environmentsKey).map
      (fun e => (outcome e (.ok (Sample.environments ["test"]))).toOption) =
      some (some (Sample.environments ["test"], Sample.environmentTags ["test"])) := by
    decide +kernel
  have hnone : (s.find? Sample.environmentsKey).map (fun e => (outcome e (.ok .null)).toOption) =
      some none := by
    decide +kernel
  have hcontent : s.contentOf Sample.environmentsKey =
      some (some (Sample.environments ["dev"]), Sample.environmentTags ["dev"]) := by
    decide +kernel
  have hagain : (got.find? Sample.environmentsKey).map (·.inFlight) = some (some 2) := by
    decide +kernel
  obtain ⟨e, he, hentry⟩ := Option.map_eq_some_iff.mp hcontent
  simp only [he, Option.map_some, Option.some.injEq, Prod.mk.injEq] at hwaits hresult hnone
  constructor
  · obtain ⟨_, hbrought, _⟩ := answers_damage_nothing hrun Sample.environmentsKey 1
      (.ok (Sample.environments ["test"]))
    have hbrings := (brings_iff hrun).mpr ⟨e, he, hwaits.1, by omega, ok_of_toOption hresult⟩
    obtain ⟨⟨e', he', hdata, _, htags⟩, _⟩ := hbrought _ _ hbrings
    refine ⟨e', he', ?_, hdata, htags⟩
    rw [he', Option.map_some] at hagain
    exact Option.some.inj hagain
  · obtain ⟨_, _, hkept⟩ := answers_damage_nothing hrun Sample.environmentsKey 1 (.ok .null)
    obtain ⟨hsame, _, hhits⟩ := hkept fun ⟨value, tags, hbrings⟩ => by
      obtain ⟨e', he', _, _, houtcome⟩ := (brings_iff hrun).mp hbrings
      rw [Option.some.inj (he'.symm.trans he)] at houtcome
      rw [houtcome] at hnone
      exact absurd hnone (by simp [Except.toOption])
    have htags : Portal.TagKind.environment.entity "dev" ∈ e.tags := by
      rw [(Prod.mk.inj hentry).2]
      decide
    exact ⟨(hsame _).trans hcontent,
      (hhits [Portal.TagKind.environment.entity "dev"] _ e he ⟨_, List.mem_cons_self, htags⟩).1⟩

end TagCache
