import TagCache.Portal.Catalog
import TagCache.Proofs.PointerText
import TagCache.Proofs.Records
import TagCache.Proofs.Undo

/-!
# Patches of a role

The only patch that the portal makes replaces the role of a membership. The patch and the patch that
undoes it name the place by position, and may meet another document than the one they were made
for: memberships may have moved, or may be written as lists. None of that matters to whoever reads
the data product. Wherever the place exists, it is the role of a membership, so what stands there is
a role, and after the replacement there is a role again.
-/

namespace TagCache.Portal

open Json Patch

/-! ## Along the place -/

/-- A token that is no index leads into an object. -/
theorem child?_of_name {j v : Json} {t : String} (ht : Pointer.index? t = none)
    (h : j.child? t = some v) : ∃ ms, j = .obj ms ∧ Members.get? ms t = some v := by
  cases j with
  | obj ms => exact ⟨ms, rfl, h⟩
  | arr xs =>
      rw [child?, ht] at h
      exact absurd h (by simp)
  | _ => exact absurd h (by simp [child?])

/-- What stands under the role of a membership is its role, and another may stand there. -/
theorem decode_role_child {m old : Json} {a : DataProductMembership}
    (h : DataProductMembership.schema.decode m = .ok a) (hold : m.child? "role" = some old) :
    MembershipRole.schema.decode old = .ok a.role ∧
      ∀ v r, MembershipRole.schema.decode v = .ok r →
        DataProductMembership.schema.decode (m.putChild "role" v) = .ok { a with role := r } := by
  obtain ⟨ms, rfl, hget⟩ := child?_of_name (by decide) hold
  constructor
  · obtain ⟨⟨id, userId, role, status, ⟨⟩⟩, rfl, hread⟩ := revised_of_decode h hget
    simpa [Shape.Revised] using hread
  · intro v r hv
    obtain ⟨⟨id, userId, role, status, ⟨⟩⟩, ⟨id', userId', role', status', ⟨⟩⟩, rfl, hrevised,
      ht'⟩ := decode_record_put h hget (by simpa [Shape.Reads] using ⟨r, hv⟩)
    obtain ⟨rfl, rfl, rfl, rfl⟩ :
        id' = id ∧ userId' = userId ∧ r = role' ∧ status' = status := by
      simpa [Shape.Revised, hv] using hrevised
    exact ht'

/-- What stands under an index of a list is the item there, and another may stand there. -/
theorem decode_item_child {α : Type} {s : Schema α} {j old : Json} {as : List α} {t : String}
    (h : (Schema.list s).decode j = .ok as) (hold : j.child? t = some old) :
    ∃ i a, Pointer.index? t = some i ∧ as[i]? = some a ∧ s.decode old = .ok a ∧
      ∀ v b, s.decode v = .ok b → (Schema.list s).decode (j.putChild t v) = .ok (as.set i b) := by
  obtain ⟨xs, rfl, hall⟩ := decode_list_eq_ok.mp h
  obtain ⟨i, hi, hget⟩ := Option.bind_eq_some_iff.mp hold
  obtain ⟨hlt, rfl⟩ := List.getElem?_eq_some_iff.mp hget
  have hlt' : i < as.length := hall.length_eq ▸ hlt
  refine ⟨i, as[i], hi, List.getElem?_eq_getElem hlt', hall.get hlt hlt', fun v b hv => ?_⟩
  rw [putChild, hi]
  exact decode_list_set h i hv

/-- What stands under the memberships of a data product are its memberships, and others may stand
there. -/
theorem decode_memberships_child {d old : Json} {p : DataProduct}
    (h : DataProduct.schema.decode d = .ok p) (hold : d.child? "memberships" = some old) :
    (Schema.list DataProductMembership.schema).decode old = .ok p.memberships ∧
      ∀ v as, (Schema.list DataProductMembership.schema).decode v = .ok as →
        DataProduct.schema.decode (d.putChild "memberships" v) =
          .ok { p with memberships := as } := by
  obtain ⟨ms, rfl, hget⟩ := child?_of_name (by decide) hold
  constructor
  · obtain ⟨⟨id, name, space, description, domainId, memberships, datasetLinks, ⟨⟩⟩, rfl, hread⟩ :=
      revised_of_decode h hget
    simpa [Shape.Revised] using hread
  · intro v as hv
    obtain ⟨t, t', rfl, hrevised, ht'⟩ :=
      decode_record_put h hget (by simpa [Shape.Reads] using ⟨as, hv⟩)
    obtain ⟨id, name, space, description, domainId, memberships, datasetLinks, ⟨⟩⟩ := t
    obtain ⟨id', name', space', description', domainId', memberships', datasetLinks', ⟨⟩⟩ := t'
    obtain ⟨rfl, rfl, rfl, rfl, rfl, rfl, rfl⟩ : id' = id ∧ name' = name ∧ space' = space ∧
        description' = description ∧ domainId' = domainId ∧ as = memberships' ∧
        datasetLinks' = datasetLinks := by
      simpa [Shape.Revised, hv] using hrevised
    exact ht'

/-- Where the role of a membership is, there is a role. -/
theorem decode_at?_role {d old : Json} {product : DataProduct} {index : String}
    (hd : DataProduct.schema.decode d = .ok product)
    (h : d.at? ["memberships", index, "role"] = some old) :
    ∃ role, MembershipRole.schema.decode old = .ok role := by
  obtain ⟨list, hlist, h⟩ := at?_cons_eq_some.mp h
  obtain ⟨item, hitem, h⟩ := at?_cons_eq_some.mp h
  obtain ⟨_, hrole, h⟩ := at?_cons_eq_some.mp h
  rw [at?_nil] at h
  obtain rfl := Option.some.inj h
  obtain ⟨_, a, _, _, hmembership, _⟩ :=
    decode_item_child (decode_memberships_child hd hlist).1 hitem
  exact ⟨a.role, (decode_role_child hmembership hrole).1⟩

/-- With a role put there, it is the same data product but for the role of that membership. -/
theorem decode_set?_role {d d' v : Json} {product : DataProduct} {index : String}
    {role : MembershipRole} (hd : DataProduct.schema.decode d = .ok product)
    (hv : MembershipRole.schema.decode v = .ok role)
    (h : set? v ["memberships", index, "role"] d = some d') :
    ∃ i a, Pointer.index? index = some i ∧ product.memberships[i]? = some a ∧
      DataProduct.schema.decode d' =
        .ok { product with memberships := product.memberships.set i { a with role } } := by
  obtain ⟨list, list', hlist, hset, rfl⟩ := set?_cons_eq_some.mp h
  obtain ⟨item, item', hitem, hset', rfl⟩ := set?_cons_eq_some.mp hset
  obtain ⟨_, _, hrole, hput, rfl⟩ := set?_cons_eq_some.mp hset'
  rw [set?_nil] at hput
  obtain rfl := Option.some.inj hput
  obtain ⟨hitems, hproduct'⟩ := decode_memberships_child hd hlist
  obtain ⟨i, a, hindex, hget, hmembership, hlist'⟩ := decode_item_child hitems hitem
  have hitem' := (decode_role_child hmembership hrole).2 _ _ hv
  exact ⟨i, a, hindex, hget, hproduct' _ _ (hlist' _ _ hitem')⟩

/-! ## The patch -/

/-- The patch replaces the role of one membership. -/
def ReplacesRole (p : Patch) : Prop :=
  ∃ index v role, p = .replace (Pointer.ofTokens ["memberships", index, "role"]) v ∧
    MembershipRole.schema.decode v = .ok role

/-- What the portal predicts is a role in the place of another. -/
theorem replacesRole_membershipRolePatch {update : MembershipRoleUpdate} {d : Json} {p : Patch}
    (h : membershipRolePatch update d = some p) : ReplacesRole p := by
  unfold membershipRolePatch at h
  simp only [bind, pure, Option.bind_eq_some_iff, Option.some.injEq] at h
  obtain ⟨_, _, _, _, index, _, rfl⟩ := h
  refine ⟨toString index, _, update.role, rfl, ?_⟩
  cases update.role with
  | owner => rfl
  | member => rfl

/-- **A replaced role leaves a data product.** It is the same but for its memberships, and what
undoes the patch replaces a role too. -/
theorem replacesRole_apply {p q : Patch} {d d' : Json} {product : DataProduct}
    (hp : ReplacesRole p) (hd : DataProduct.schema.decode d = .ok product)
    (h : p.apply d = .ok (d', q)) :
    ReplacesRole q ∧
      ∃ memberships, DataProduct.schema.decode d' = .ok { product with memberships } := by
  obtain ⟨index, v, role, rfl, hv⟩ := hp
  obtain ⟨ts, old, hts, hold, hset, rfl⟩ := apply_replace.mp h
  rw [Pointer.tokens?_ofTokens] at hts
  obtain rfl := Option.some.inj hts
  obtain ⟨role', hrole'⟩ := decode_at?_role hd hold
  obtain ⟨_, _, _, _, hproduct⟩ := decode_set?_role hd hv hset
  exact ⟨⟨index, old, role', rfl, hrole'⟩, _, hproduct⟩

end TagCache.Portal
