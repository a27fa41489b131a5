import TagCache.Proofs.Mentions
import TagCache.Proofs.PortalViews

/-!
# What a link refreshes

The mutations of a link invalidate both of its sides and every shelf on which they are mentioned. By
`Reading.Files.meets` they reach every view of either side, by the exactness of the index they hit
its entry, and because the tags of an entry describe its data, an entry that mentions one of the
sides is such a view.
-/

namespace TagCache

open Store

variable {κ ε : Type}

/-! ## Entries that are fetched once more -/

/-- The entry is to be fetched again. It keeps its data for as long as that takes. -/
structure Entry.Renewed (e e' : Entry κ ε) : Prop where
  birth : e'.birth = e.birth
  data : e'.snapshot.data = e.snapshot.data
  subscribers : e'.subscribers = e.subscribers
  unsettled : e'.snapshot.status = .loading ∨ e'.snapshot.status = .stale
  /-- Somebody who looks at it waits for the request. -/
  watched : 0 < e.subscribers → e'.snapshot.status = .loading ∧ e'.inFlight.isSome = true
  /-- The request that was on its way is followed by another. -/
  again : e.snapshot.status = .loading →
    e'.snapshot.status = .loading ∧ e'.inFlight = e.inFlight ∧ e'.refetchAfter = true

theorem Entry.WellFormed.renewed {e : Entry κ ε} (h : e.WellFormed) (id : Nat) :
    e.Renewed (e.invalidated id) := by
  unfold Entry.invalidated
  split
  · rename_i hf
    have hloading := h.loading.mpr hf
    exact ⟨rfl, rfl, rfl, .inl hloading, fun _ => ⟨hloading, hf⟩, fun _ => ⟨hloading, rfl, rfl⟩⟩
  · rename_i hf
    have hidle : e.snapshot.status ≠ .loading := fun hloading => hf (h.loading.mp hloading)
    split
    · exact ⟨rfl, rfl, rfl, .inl rfl, fun _ => ⟨rfl, rfl⟩, fun hloading => absurd hloading hidle⟩
    · rename_i hsubs
      exact ⟨rfl, rfl, rfl, .inr rfl, fun hpos => absurd hpos hsubs,
        fun hloading => absurd hloading hidle⟩

/-- An invalidation renews every entry that provides one of its tags. -/
theorem renewed_of_tag [DecidableEq κ] {s : Store κ ε} (hx : s.IndexExact) {key : CacheKey}
    {e : Entry κ ε} (he : s.find? key = some e) (hwell : e.WellFormed) {tags : List (Tag κ)}
    {t : Tag κ} (ht : t ∈ tags) (htag : t ∈ e.tags) :
    ∃ e', (s.invalidateTags tags).1.find? key = some e' ∧ e.Renewed e' := by
  have hhit : key ∈ s.hits tags :=
    CacheKey.mem_sorted.mpr (List.mem_flatMap.mpr ⟨t, ht, (hx.mem t key).mpr ⟨e, he, htag⟩⟩)
  obtain ⟨id, _, hfind, _⟩ := (invalidates_invalidateTags s tags).hit key e hhit he
  exact ⟨_, hfind, hwell.renewed id⟩

namespace Portal

open TagKind (dataProduct dataset userPendingActions)

/-! ## Links -/

/-- The mutations of a link, and its two sides. -/
def linkChanges : List Change :=
  [⟨requestDatasetAccessForDataOutput,
      fun access => [dataProduct.entity access.dataProductId, dataset.entity access.datasetId]⟩,
    ⟨approveDataOutputLink,
      fun link => [dataProduct.entity link.dataProductId, dataset.entity link.datasetId]⟩,
    ⟨rejectDataOutputLink,
      fun link => [dataProduct.entity link.dataProductId, dataset.entity link.datasetId]⟩,
    ⟨removeDataOutputDatasetLink,
      fun link => [dataProduct.entity link.dataProductId, dataset.entity link.datasetId]⟩]

/-- They all invalidate the tags of the link. -/
theorem linkTags_invalidated {c : Change} (hc : c ∈ linkChanges) (response : c.ρ) (arg : c.α) :
    ∃ p d, c.names arg = [dataProduct.entity p, dataset.entity d] ∧
      ∀ t ∈ linkTags p d, t ∈ c.mutation.invalidates response arg := by
  simp only [linkChanges, List.mem_cons, List.not_mem_nil, or_false] at hc
  rcases hc with rfl | rfl | rfl | rfl
  · exact ⟨_, _, rfl, fun t ht => List.mem_append_left _ ht⟩
  · exact ⟨_, _, rfl, fun t ht => ht⟩
  · exact ⟨_, _, rfl, fun t ht => ht⟩
  · exact ⟨_, _, rfl, fun t ht => ht⟩

/-- The tags of a link hold every shelf of its sides, so they reach every view of either. -/
theorem linkTags_meets {w : Reading} (hw : w ∈ readings) {result : w.ρ} {p d : String}
    {t : Tag TagKind} (hside : t ∈ [dataProduct.entity p, dataset.entity d])
    (ht : t ∈ w.mentions result) (arg : w.α) :
    Meets (linkTags p d) (w.query.provides result arg) := by
  have hself : t ∈ linkTags p d := by
    rcases List.mem_pair.mp hside with rfl | rfl
    · exact List.mem_cons_self
    · simp [linkTags]
  have hkind : shelves t.kind = shelves dataProduct := by
    rcases List.mem_pair.mp hside with rfl | rfl
    · rfl
    · rfl
  refine (files_readings w hw).meets ht hself (fun k _ hshelf => ?_) arg
  rw [hkind] at hshelf
  simp only [shelves, List.mem_cons, List.not_mem_nil, or_false] at hshelf
  rcases hshelf with rfl | rfl | rfl | rfl | rfl <;> simp [linkTags]

/-! ## Cached views -/

/-- The data is that of a view with this key, and mentions the entity. -/
def Mentioned (key : CacheKey) (data : Json) (t : Tag TagKind) : Prop :=
  ∃ w ∈ readings, w.query.name = key.endpoint ∧
    ∃ result, w.query.result.decode data = .ok result ∧ t ∈ w.mentions result

/-- What is served under a key is a view. -/
theorem reading_of_serves {key : CacheKey}
    {provides : Json → Except DecodeError (List (Tag TagKind))}
    (h : Serves registry key provides) :
    ∃ w ∈ readings, w.query.name = key.endpoint ∧ ∃ arg, provides = rawTags w.query arg := by
  obtain ⟨α, ρ, q, arg, hq, hkey, rfl⟩ := h
  have hread : Endpoint.query q ∈ readings.map fun w => Endpoint.query w.query := by
    rw [query_readings]
    exact List.mem_filter.mpr ⟨hq, rfl⟩
  obtain ⟨w, hw, heq⟩ := List.mem_map.mp hread
  cases heq
  exact ⟨w, hw, (endpoint_of_key hkey).symm, arg, rfl⟩

section

variable {config : StoreConfig} {past : List (Moment TagKind ε)} {s : Store TagKind ε}
  {key : CacheKey} {e : Entry TagKind ε} {data : Json}

/-- The tags of a described view are those of the result that it shows. -/
theorem tags_of_reading (h : e.Described registry key) (hdata : e.snapshot.data = some data)
    {w : Reading} (hw : w ∈ readings)
    (hname : w.query.name = key.endpoint) :
    ∃ result arg, w.query.result.decode data = .ok result ∧
      ∀ t, t ∈ e.tags ↔ t ∈ w.query.provides result arg := by
  obtain ⟨v, hv, hvname, arg, hprovides⟩ := reading_of_serves h.provides
  obtain rfl := reading_eq_of_name hw hv (hname.trans hvname.symm)
  obtain ⟨tags, htags, hmem⟩ := h.tags data hdata
  rw [hprovides] at htags
  obtain ⟨result, hresult, rfl⟩ := rawTags_eq_ok.mp htags
  exact ⟨result, arg, hresult, hmem⟩

/-- **A link refreshes both of its sides everywhere.** In every run of the portal where patches are
made by mutations, whatever mutation of a link succeeds, every entry whose data mentions its data
product or its dataset is fetched again, and so is the inbox of requests. -/
theorem links_refresh (h : Run config past s) (hcalls : ∀ m ∈ past, m.action.Calls registry)
    (hmut : ByMutations past) {c : Change} (hc : c ∈ linkChanges) (arg : c.α)
    {answer : Except ε Json} {response : c.ρ}
    (hok : mutationResult c.mutation answer = .ok response) (start : Nat)
    (pairs : List PatchPair) (he : s.find? key = some e) (hdata : e.snapshot.data = some data)
    (hshows : (∃ t ∈ c.names arg, Mentioned key data t) ∨
      key.endpoint = getUserPendingActions.name) :
    ∃ e', (s.act (.endMutation start c.mutation arg pairs answer)).1.find? key = some e' ∧
      e.Renewed e' := by
  have hdescribed := (described_run h careful_registry hcalls hmut).1 key e he
  obtain ⟨p, d, hnames, hinvalidated⟩ := linkTags_invalidated hc response arg
  -- the entry provides one of the tags
  have hmeets : Meets (linkTags p d) e.tags := by
    rcases hshows with ⟨t, ht, w, hw, hname, result, hresult, hmentions⟩ | hinbox
    · rw [hnames] at ht
      obtain ⟨result', warg, hresult', htags⟩ := tags_of_reading hdescribed hdata hw hname
      rw [hresult] at hresult'
      obtain rfl := Except.ok.inj hresult'
      obtain ⟨u, hu, hprovided⟩ := linkTags_meets hw ht hmentions warg
      exact ⟨u, hu, (htags u).mpr hprovided⟩
    · have hview : Reading.many getUserPendingActions PendingAction.mentions userPendingActions ∈
          readings := by
        simp [readings]
      obtain ⟨result, warg, _, htags⟩ := tags_of_reading hdescribed hdata hview hinbox.symm
      exact ⟨userPendingActions.collection, by simp [linkTags],
        (htags _).mpr List.mem_cons_self⟩
  obtain ⟨t, ht, htag⟩ := hmeets
  simp only [act, endMutation, hok]
  exact renewed_of_tag (indexExact_run h) he (wellFormed_run h key e he) (hinvalidated t ht) htag

end

/-! ### A dataset of a user -/

namespace Sample

/-- Where the datasets of a user are cached. -/
def userKey : CacheKey := .ofArg "getUserDatasets" (.str "u-1")

/-- One dataset, with a link to a data product. -/
def userDatasets : Json :=
  .arr [.obj [("id", .str "ds-1"),
    ("data_product_links", .arr [.obj [("id", .str "l-1"), ("data_product_id", .str "dp-1")]])]]

/-- Someone looks at the datasets of a user. -/
def look : List (Action TagKind Unit) :=
  [.subscribe getUserDatasets "u-1", .complete userKey 0 (.ok userDatasets)]

/-- Another link of the same data product. -/
def link : DatasetLinkRef := ⟨"dp-1", "ds-2", "l-2"⟩

end Sample

/-- A link of the data product to another dataset is approved. -/
theorem links_refresh_user :
    let p := play {} Sample.look
    let m : Action TagKind Unit := .endMutation 2 approveDataOutputLink Sample.link [] (.ok .null)
    (∀ r ∈ p.1, r.action.Calls registry) ∧ ByMutations p.1 ∧
      (p.2.get? Sample.userKey).map (·.status) = some .success ∧
      Mentioned Sample.userKey Sample.userDatasets (dataProduct.entity "dp-1") ∧
      ∃ e e', p.2.find? Sample.userKey = some e ∧
        (p.2.act m).1.find? Sample.userKey = some e' ∧ e.Renewed e' ∧
          e'.snapshot.status = .loading := by
  intro p m
  have hcalls : ∀ r ∈ p.1, r.action.Calls registry := by
    simp [p, play, advance, Sample.look, Action.Calls, registry]
  have hmut : ByMutations p.1 := by decide +kernel
  have hmentioned : Mentioned Sample.userKey Sample.userDatasets (dataProduct.entity "dp-1") := by
    refine ⟨.many getUserDatasets Dataset.mentions TagKind.userDatasets, by simp [readings], rfl,
      [⟨"ds-1", "", "", "", .everyone, [⟨"l-1", "dp-1", .pending⟩]⟩], rfl, ?_⟩
    exact List.mem_cons_of_mem _ List.mem_cons_self
  have hlink : (⟨approveDataOutputLink, fun link =>
      [dataProduct.entity link.dataProductId, dataset.entity link.datasetId]⟩ : Change) ∈
      linkChanges := by
    simp [linkChanges]
  have hshown : (p.2.find? Sample.userKey).map (fun e => (e.snapshot.data, e.subscribers)) =
      some (some Sample.userDatasets, 1) := by
    decide +kernel
  obtain ⟨e, he, heq⟩ := Option.map_eq_some_iff.mp hshown
  obtain ⟨hdata, hsubs⟩ := Prod.mk.inj heq
  obtain ⟨e', he', hrenewed⟩ :=
    links_refresh (show Run {} p.1 p.2 from run_play _ _) hcalls hmut hlink Sample.link
      (show mutationResult approveDataOutputLink (.ok .null : Except Unit Json) = .ok () from rfl)
      2 [] he hdata (.inl ⟨_, List.mem_cons_self, hmentioned⟩)
  refine ⟨hcalls, hmut, by decide +kernel, hmentioned, e, e', he, he', hrenewed, ?_⟩
  exact (hrenewed.watched (by rw [hsubs]; decide)).1

end Portal

end TagCache
