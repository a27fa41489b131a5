import Mathlib.Data.List.Nodup
import TagCache.Portal.Registry
import TagCache.Proofs.Described
import TagCache.Proofs.Arguments
import TagCache.Proofs.RolePatch

/-!
# What the views of the portal show

The endpoints of the portal are careful: only the change of a role predicts anything, and it leaves
the tags of a data product. Their names are unique and a key tells the argument as far as the tags
depend on it, so what is under a key is a view of one query. Together this says that the tags of
every entry are those of what it shows, whatever has been patched and undone meanwhile.
-/

namespace TagCache.Portal

open Store Patch

/-! ## Keys and queries -/

/-- Arguments with the same key give the same tags. -/
def Keyed : Endpoint TagKind → Prop
  | .query q => ∀ a b key, q.key a = .ok key → q.key b = .ok key →
      (rawTags q a : Json → Except DecodeError (List (Tag TagKind))) = rawTags q b
  | .mutation _ => True

theorem keyed_registry : ∀ endpoint ∈ registry, Keyed endpoint := by
  intro endpoint h
  have hdistinguishes := distinguishes_registry endpoint h
  cases endpoint with
  | query q => exact fun a b key ha hb => congrArg _ (Query.key_injective hdistinguishes.2 ha hb)
  | mutation m => trivial

/-- All queries with a key read the tags of raw data alike. -/
theorem serves_unique {key : CacheKey}
    {provides provides' : Json → Except DecodeError (List (Tag TagKind))}
    (h : Serves registry key provides) (h' : Serves registry key provides') :
    provides = provides' := by
  obtain ⟨α, ρ, q, arg, hq, hkey, rfl⟩ := h
  obtain ⟨α', ρ', q', arg', hq', hkey', rfl⟩ := h'
  have hname : q.name = q'.name := (endpoint_of_key hkey).symm.trans (endpoint_of_key hkey')
  have heq := endpoint_eq_of_name hq hq' hname
  cases heq
  exact keyed_registry _ hq arg arg' key hkey hkey'

/-! ## Predictions -/

/-- A replaced role leaves the tags of a data product. -/
theorem keeps_of_replacesRole {p : Patch} (hp : ReplacesRole p) (arg : String) :
    p.Keeps (rawTags getDataProductById arg) := by
  intro d d' inverse tags hd happly
  obtain ⟨product, hproduct, htags⟩ := rawTags_eq_ok.mp hd
  obtain ⟨_, memberships, hproduct'⟩ := replacesRole_apply hp hproduct happly
  exact rawTags_eq_ok.mpr ⟨_, hproduct', htags⟩

theorem careful_updateMembershipRole :
    (Endpoint.mutation updateMembershipRole).Careful registry := by
  intro prediction hprediction update key hkey provides hserves d d' tags forward inverse hd
    hrecipe happly
  obtain rfl := Option.some.inj hprediction
  -- the target is a data product, and so is whatever else is found under its key
  have htarget : getDataProductById.key update.dataProductId = .ok key :=
    ok_of_toOption (Option.mem_toList.mp hkey)
  have hproduct : Serves registry key (rawTags getDataProductById update.dataProductId) :=
    ⟨_, _, getDataProductById, _, by simp [registry], htarget, rfl⟩
  obtain rfl := serves_unique hserves hproduct
  have hforward : ReplacesRole forward := replacesRole_membershipRolePatch hrecipe
  refine ⟨keeps_of_replacesRole hforward _ d d' inverse tags hd happly, fun g hg => ?_⟩
  obtain rfl := serves_unique hg hproduct
  obtain ⟨product, hdecode, _⟩ := rawTags_eq_ok.mp hd
  exact keeps_of_replacesRole (replacesRole_apply hforward hdecode happly).1 _

/-- No other endpoint predicts anything. -/
theorem careful_registry : ∀ endpoint ∈ registry, endpoint.Careful registry := by
  have hquiet : ∀ {α ρ : Type} (m : Mutation TagKind α ρ), m.prediction = none →
      (Endpoint.mutation m).Careful registry := by
    intro α ρ m hm p hp
    rw [hm] at hp
    exact absurd hp (by simp)
  simp only [registry, List.forall_mem_cons]
  and_intros
  all_goals first
    | exact trivial
    | exact careful_updateMembershipRole
    | exact hquiet _ rfl
    | exact fun _ h => absurd h List.not_mem_nil

/-! ## Views -/

section

variable {ε : Type} {config : StoreConfig} {past : List (Moment TagKind ε)}
  {s : Store TagKind ε} {key : CacheKey} {e : Entry TagKind ε}

/-- An entry of the portal reads its tags as any query with its key does. -/
theorem provides_of_key (h : e.Described registry key) {α ρ : Type} {q : Query TagKind α ρ}
    {arg : α} (hq : .query q ∈ registry) (hkey : q.key arg = .ok key) : e.provides = rawTags q arg :=
  serves_unique h.provides ⟨α, ρ, q, arg, hq, hkey, rfl⟩

/-- **The tags of an entry describe what it shows.** In every run of the portal where patches are
made by mutations, an entry belongs to a query of the portal. While it has no data it has no tags.
Otherwise the data decodes as the result of the query, the tags are those that the query provides
for that result, and whoever reads the entry sees the result. -/
theorem tags_describe_data (h : Run config past s) (hcalls : ∀ m ∈ past, m.action.Calls registry)
    (hmut : ByMutations past) (he : s.find? key = some e) :
    (∃ (α ρ : Type) (q : Query TagKind α ρ) (arg : α),
      .query q ∈ registry ∧ q.key arg = .ok key ∧ e.endpoint = q.name) ∧
    (e.snapshot.data = none → e.tags = []) ∧
    ∀ (α ρ : Type) (q : Query TagKind α ρ) (arg : α), .query q ∈ registry → q.key arg = .ok key →
      ∀ data, e.snapshot.data = some data → ∃ result, q.result.decode data = .ok result ∧
        (∀ t, t ∈ e.tags ↔ t ∈ q.provides result arg) ∧
        e.snapshot.decode q.name q.result =
          ⟨e.snapshot.status, some result, e.snapshot.error⟩ := by
  have hdescribed := (described_run h careful_registry hcalls hmut).1 key e he
  refine ⟨?_, ?_, ?_⟩
  · obtain ⟨α, ρ, q, arg, hq, hkey, _⟩ := hdescribed.provides
    exact ⟨α, ρ, q, arg, hq, hkey, hdescribed.endpoint.trans (endpoint_of_key hkey)⟩
  · intro hnone
    by_contra htags
    have hdata := (wellFormed_run h key e he).tagged htags
    rw [hnone] at hdata
    exact absurd hdata (by simp)
  · intro α ρ q arg hq hkey data hdata
    obtain ⟨tags, htags, hmem⟩ := hdescribed.tags data hdata
    rw [provides_of_key hdescribed hq hkey] at htags
    obtain ⟨result, hresult, rfl⟩ := rawTags_eq_ok.mp htags
    refine ⟨result, hresult, hmem, ?_⟩
    unfold Snapshot.decode
    rw [hdata, Option.map_some, hresult]

end

/-! ### A role that is put back elsewhere -/

namespace Sample

/-- A data product with a link, and with members of these roles. -/
def product (members : List (String × String)) : Json :=
  .obj [("id", .str "dp-1"),
    ("memberships", .arr (members.map fun (id, role) =>
      .obj [("id", .str id), ("role", .str role)])),
    ("dataset_links", .arr [.obj [("id", .str "l-1"), ("dataset_id", .str "ds-1")]])]

/-- Where the data product is cached. -/
def productKey : CacheKey := .ofArg "getDataProductById" (.str "dp-1")

/-- The request `id` of the data product is answered. -/
def answerProduct (id : Nat) (members : List (String × String)) : Action TagKind Unit :=
  .complete productKey id (.ok (product members))

/-- Makes a member an owner. -/
def promotion (member : String) : MembershipRoleUpdate := ⟨"dp-1", member, .owner⟩

/-- A promotion begins, and another; the memberships are fetched in another order; the first
promotion fails. -/
def promotions : List (Action TagKind Unit) :=
  [.subscribe getDataProductById "dp-1", answerProduct 0 [("m-1", "member"), ("m-2", "member")],
    .beginMutation updateMembershipRole (promotion "m-1"),
    .beginMutation updateMembershipRole (promotion "m-2"), .refetch productKey,
    answerProduct 1 [("m-2", "owner"), ("m-1", "owner")],
    .endMutation 2 updateMembershipRole (promotion "m-1")
      [⟨productKey, .replace "/memberships/0/role" (.str "owner"),
        .replace "/memberships/0/role" (.str "member")⟩] (.error ())]

end Sample

/-- The role is put back at its old place, where another membership is by now. -/
theorem tags_describe_data_misplaced :
    let p := play {} Sample.promotions
    (∀ m ∈ p.1, m.action.Calls registry) ∧ ByMutations p.1 ∧
      ∃ e, p.2.find? Sample.productKey = some e ∧
        e.snapshot.data = some (Sample.product [("m-2", "member"), ("m-1", "owner")]) ∧
        ∃ result, DataProduct.schema.decode
            (Sample.product [("m-2", "member"), ("m-1", "owner")]) = .ok result ∧
          ∀ t, t ∈ e.tags ↔ t ∈ getDataProductById.provides result "dp-1" := by
  intro p
  have hcalls : ∀ m ∈ p.1, m.action.Calls registry := by
    simp [p, play, advance, Sample.promotions, Sample.answerProduct, Action.Calls, registry]
  have hmut : ByMutations p.1 := by decide +kernel
  have hdata : (p.2.find? Sample.productKey).map (fun e => e.snapshot.data) =
      some (some (Sample.product [("m-2", "member"), ("m-1", "owner")])) := by
    decide +kernel
  obtain ⟨e, he, hdata⟩ := Option.map_eq_some_iff.mp hdata
  obtain ⟨_, _, hviews⟩ :=
    tags_describe_data (show Run {} p.1 p.2 from run_play _ _) hcalls hmut he
  obtain ⟨result, hresult, htags, _⟩ :=
    hviews _ _ getDataProductById "dp-1" (by simp [registry]) rfl _ hdata
  exact ⟨hcalls, hmut, e, he, hdata, result, hresult, htags⟩

end TagCache.Portal
