import Mathlib.Data.Nat.Find
import TagCache.Proofs.Replay
import TagCache.Proofs.RolePatch
import TagCache.Proofs.Walk

/-!
# The predicted role

What the portal predicts when the role of a member changes. The prediction looks for the member in
raw data, by the ids of memberships that are objects, and names the place by position; whoever reads
the data sees a data product. The two agree: the prediction applies wherever it is made, the data
product has the new role for that member and is otherwise the same, and so is the raw data.
-/

namespace TagCache.Portal

open Json Patch

/-! ## The first membership with an id -/

/-- The place of the role of a membership. -/
def rolePlace (i : Nat) : List String := ["memberships", toString i, "role"]

/-- The patch that gives a role to the membership at a position. -/
def rolePatch (i : Nat) (role : MembershipRole) : Patch :=
  .replace (Pointer.ofTokens (rolePlace i)) (MembershipRole.schema.encode role)

/-- A walk into the memberships arrives at this id below a position. The item there is an object, as
nothing else has a key. -/
def HasMember (v : Json) (id : String) (i : Nat) : Prop :=
  v.Reaches ["memberships", toString i, "id"] (.str id)

theorem get?_eq_child? {t : String} (ht : Pointer.index? t = none) (j : Json) :
    j.get? t = j.child? t := by
  cases j with
  | arr xs => rw [child?, ht]; rfl
  | _ => rfl

theorem isMembership_iff {id : String} {x : Json} :
    isMembership id x = true ↔ x.child? "id" = some (.str id) := by
  rw [isMembership, get?_eq_child? (by decide), decide_eq_true_iff, Option.bind_eq_some_iff]
  constructor
  · rintro ⟨j, hj, hstr⟩
    cases j with
    | str s => rw [hj, Option.some.inj hstr]
    | _ => exact absurd hstr (by simp [Json.str?])
  · exact fun h => ⟨_, h, rfl⟩

theorem hasMember_iff {v : Json} {id : String} {xs : List Json} {i : Nat}
    (h : v.child? "memberships" = some (.arr xs)) :
    HasMember v id i ↔ ∃ x, xs[i]? = some x ∧ isMembership id x = true := by
  rw [HasMember, reaches_iff, at?_cons, h, Option.bind_some, at?_cons, child?_toString,
    Option.bind_eq_some_iff]
  simp only [at?_cons, at?_nil, Option.bind_fun_some, isMembership_iff]

variable {v : Json} {product : DataProduct} {update : MembershipRoleUpdate} {id : String} {i : Nat}

/-- A prediction is made for the first membership with the id, if there is one. -/
theorem membershipRolePatch_eq_some {p : Patch} (hv : DataProduct.schema.decode v = .ok product) :
    membershipRolePatch update v = some p ↔
      ∃ i, HasMember v update.membershipId i ∧ (∀ l < i, ¬ HasMember v update.membershipId l) ∧
        p = rolePatch i update.role := by
  unfold membershipRolePatch
  simp only [bind, pure, Option.bind_eq_some_iff, Option.some.injEq,
    get?_eq_child? (t := "memberships") (by decide)]
  constructor
  · rintro ⟨list, hlist, xs, hxs, i, hi, rfl⟩
    cases list with
    | arr ys =>
        obtain rfl := Option.some.inj hxs
        obtain ⟨hlt, hhere, hbefore⟩ := List.findIdx?_eq_some_iff_getElem.mp hi
        refine ⟨i, (hasMember_iff hlist).mpr ⟨_, List.getElem?_eq_getElem hlt, hhere⟩, ?_, rfl⟩
        intro l hl hmember
        obtain ⟨x, hx, hid⟩ := (hasMember_iff hlist).mp hmember
        obtain ⟨_, rfl⟩ := List.getElem?_eq_some_iff.mp hx
        exact hbefore l hl hid
    | _ => exact absurd hxs (by simp [Json.arr?])
  · rintro ⟨i, hhere, hbefore, rfl⟩
    -- the walk alone could have gone through an object; the data product has a list there
    obtain ⟨list, hlist, _⟩ := at?_cons_eq_some.mp (reaches_iff.mp hhere)
    obtain ⟨xs, rfl, _⟩ := decode_list_eq_ok.mp (decode_memberships_child hv hlist).1
    obtain ⟨x, hx, hid⟩ := (hasMember_iff hlist).mp hhere
    obtain ⟨hlt, rfl⟩ := List.getElem?_eq_some_iff.mp hx
    refine ⟨_, hlist, xs, rfl, i, List.findIdx?_eq_some_iff_getElem.mpr ⟨hlt, hid, ?_⟩, rfl⟩
    intro l hl hid'
    exact hbefore l hl ((hasMember_iff hlist).mpr ⟨_, List.getElem?_eq_getElem _, hid'⟩)

/-! ## Its fields -/

/-- A field of a membership is a child of an item of the memberships. -/
theorem at?_field (v : Json) (i : Nat) (t : String) :
    v.at? ["memberships", toString i, t] =
      (v.at? ["memberships", toString i]).bind fun item => item.child? t := by
  have h := at?_append v ["memberships", toString i] [t]
  simpa only [List.cons_append, List.nil_append, at?_cons, at?_nil, Option.bind_fun_some] using h

/-- An item of the memberships is read as the membership at its position. -/
theorem decode_item {item : Json} (hv : DataProduct.schema.decode v = .ok product)
    (h : v.at? ["memberships", toString i] = some item) :
    ∃ m, product.memberships[i]? = some m ∧ DataProductMembership.schema.decode item = .ok m := by
  obtain ⟨list, hlist, h⟩ := at?_cons_eq_some.mp h
  obtain ⟨item, hitem, h⟩ := at?_cons_eq_some.mp h
  rw [at?_nil] at h
  obtain rfl := Option.some.inj h
  obtain ⟨l, m, hindex, hm, hdecode, _⟩ :=
    decode_item_child (decode_memberships_child hv hlist).1 hitem
  rw [Pointer.index?_toString] at hindex
  obtain rfl := Option.some.inj hindex
  exact ⟨m, hm, hdecode⟩

section

variable {ms : Members} {m : DataProductMembership}

/-- A membership that is an object has its id under its key. -/
theorem child?_id (h : DataProductMembership.schema.decode (.obj ms) = .ok m) :
    (Json.obj ms).child? "id" = some (.str m.id) := by
  obtain ⟨_, ⟨id, userId, role, status, ⟨⟩⟩, ht, rfl⟩ := decode_record_eq_ok.mp h
  obtain ⟨hid, _⟩ := collect_field.mp ht
  rw [child?]
  cases hget : Members.get? ms "id" with
  | none =>
      rw [hget] at hid
      exact absurd hid (by simp [Absence.required])
  | some value =>
      rw [hget] at hid
      cases value with
      | str s => rw [Except.ok.inj hid]
      | _ => cases hid

/-- A membership that is an object has a role. -/
theorem exists_role (h : DataProductMembership.schema.decode (.obj ms) = .ok m) :
    ∃ old, (Json.obj ms).child? "role" = some old := by
  obtain ⟨_, ⟨id, userId, role, status, ⟨⟩⟩, ht, _⟩ := decode_record_eq_ok.mp h
  obtain ⟨_, ht⟩ := collect_field.mp ht
  obtain ⟨_, ht⟩ := collect_field.mp ht
  obtain ⟨hrole, _⟩ := collect_field.mp ht
  rw [child?]
  cases hget : Members.get? ms "role" with
  | some old => exact ⟨old, rfl⟩
  | none =>
      rw [hget] at hrole
      exact absurd hrole (by simp [Absence.required])

end

/-- The membership with the id is one of the data product, is an object, and has a role. -/
theorem membership_of_hasMember (hv : DataProduct.schema.decode v = .ok product)
    (h : HasMember v id i) :
    ∃ m fields old, product.memberships[i]? = some m ∧ m.id = id ∧
      v.at? ["memberships", toString i] = some (.obj fields) ∧ v.at? (rolePlace i) = some old := by
  rw [HasMember, reaches_iff, at?_field, Option.bind_eq_some_iff] at h
  obtain ⟨item, hitem, hid⟩ := h
  obtain ⟨m, hm, hdecode⟩ := decode_item hv hitem
  obtain ⟨fields, rfl, _⟩ := child?_of_name (by decide) hid
  obtain ⟨old, hold⟩ := exists_role hdecode
  refine ⟨m, fields, old, hm, ?_, hitem, ?_⟩
  · exact Json.str.inj (Option.some.inj ((child?_id hdecode).symm.trans hid))
  · rw [rolePlace, at?_field, hitem, Option.bind_some, hold]

/-- The membership that is read at a position has this id, and is written as an object. -/
def ObjectMember (product : DataProduct) (v : Json) (id : String) (i : Nat) : Prop :=
  (∃ m, product.memberships[i]? = some m ∧ m.id = id) ∧
    ∃ fields, v.Reaches ["memberships", toString i] (.obj fields)

theorem objectMember_iff (hv : DataProduct.schema.decode v = .ok product) :
    ObjectMember product v id i ↔ HasMember v id i := by
  constructor
  · rintro ⟨⟨m, hm, rfl⟩, fields, hreaches⟩
    obtain ⟨a, ha, hdecode⟩ := decode_item hv (reaches_iff.mp hreaches)
    obtain rfl := Option.some.inj (hm.symm.trans ha)
    rw [HasMember, reaches_iff, at?_field, reaches_iff.mp hreaches, Option.bind_some,
      child?_id hdecode]
  · intro h
    obtain ⟨m, fields, _, hm, hid, hitem, _⟩ := membership_of_hasMember hv h
    exact ⟨⟨m, hm, hid⟩, fields, reaches_iff.mpr hitem⟩

theorem decode_encode_role (role : MembershipRole) :
    MembershipRole.schema.decode (MembershipRole.schema.encode role) = .ok role := by
  cases role with
  | owner => rfl
  | member => rfl

/-- The role of a membership is apart from the id of every membership. -/
theorem apart_rolePlace_id (i l : Nat) :
    Json.Apart (rolePlace i) ["memberships", toString l, "id"] := by
  simp [Json.Apart, rolePlace]

/-! ## The prediction -/

/-- A prediction applies, and gives the new role to the membership that it names. -/
theorem rolePatch_apply (hv : DataProduct.schema.decode v = .ok product) (h : HasMember v id i)
    (role : MembershipRole) :
    ∃ m v' old, product.memberships[i]? = some m ∧ m.id = id ∧
      (rolePatch i role).apply v = .ok (v', .replace (Pointer.ofTokens (rolePlace i)) old) ∧
      DataProduct.schema.decode v' =
        .ok { product with memberships := product.memberships.set i { m with role } } ∧
      ∀ ts, Json.Apart (rolePlace i) ts → ∀ w, v'.Reaches ts w ↔ v.Reaches ts w := by
  obtain ⟨m, _, old, hm, hid, _, hold⟩ := membership_of_hasMember hv h
  obtain ⟨v', hset⟩ := exists_set?_iff (a := MembershipRole.schema.encode role).mpr ⟨old, hold⟩
  have happly := apply_replace_ofTokens.mpr ⟨old, reaches_iff.mpr hold, hset, rfl⟩
  obtain ⟨l, a, hindex, ha, hproduct⟩ := decode_set?_role hv (decode_encode_role role) hset
  -- the index that the token names and the membership there are the ones of the id
  rw [Pointer.index?_toString] at hindex
  obtain rfl := Option.some.inj hindex
  obtain rfl := Option.some.inj (hm.symm.trans ha)
  exact ⟨m, v', old, hm, hid, happly, hproduct, fun ts hapart w => reaches_set?_iff hset hapart⟩

/-- One replacement descends. -/
theorem descends_rolePatch (i : Nat) (role : MembershipRole) : (rolePatch i role).Descends := by
  simp [Descends, places, rolePatch, Patch.replace, Pointer.tokens?_ofTokens]

/-- **The prediction means what it says.** A predicted patch applies to the data it was made from.
The patched data is the same data product but for one membership, which has the id of the update
and now its role; no other part of the data has changed, and undoing gives it back. From the patched
data the same patch is predicted, and applying it again changes nothing. A patch is predicted as
soon as a membership that is an object has the id, and names the first of them. -/
theorem prediction_gives_role (hv : DataProduct.schema.decode v = .ok product)
    (update : MembershipRoleUpdate) :
    (∀ p, membershipRolePatch update v = some p → ∃ i m v' q,
      p = rolePatch i update.role ∧ product.memberships[i]? = some m ∧
      m.id = update.membershipId ∧ p.apply v = .ok (v', q) ∧
      DataProduct.schema.decode v' = .ok { product with
        memberships := product.memberships.set i { m with role := update.role } } ∧
      (∀ ts, Json.Apart (rolePlace i) ts → ∀ w, v'.Reaches ts w ↔ v.Reaches ts w) ∧
      q.apply v' = .ok (v, p) ∧ membershipRolePatch update v' = some p ∧
      ∃ again, p.apply v' = .ok (v', again)) ∧
    ∀ i, ObjectMember product v update.membershipId i →
      ∃ k ≤ i, ObjectMember product v update.membershipId k ∧
        (∀ l < k, ¬ ObjectMember product v update.membershipId l) ∧
        membershipRolePatch update v = some (rolePatch k update.role) := by
  simp only [objectMember_iff hv]
  constructor
  · intro p hp
    obtain ⟨i, hhere, hbefore, rfl⟩ := (membershipRolePatch_eq_some hv).mp hp
    obtain ⟨m, v', old, hm, hid, happly, hproduct, hrest⟩ := rolePatch_apply hv hhere update.role
    refine ⟨i, m, v', _, rfl, hm, hid, happly, hproduct, hrest, apply_undo happly, ?_,
      apply_twice_of_descends (descends_rolePatch i _) happly⟩
    -- the patched data has the same ids at the same positions
    have hsame : ∀ l, HasMember v' update.membershipId l ↔ HasMember v update.membershipId l :=
      fun l => hrest _ (apart_rolePlace_id i l) _
    exact (membershipRolePatch_eq_some hproduct).mpr
      ⟨i, (hsame i).mpr hhere, fun l hl hmember => hbefore l hl ((hsame l).mp hmember), rfl⟩
  · intro i hi
    classical
    have hfound : ∃ k, HasMember v update.membershipId k := ⟨i, hi⟩
    refine ⟨Nat.find hfound, Nat.find_min' hfound hi, Nat.find_spec hfound,
      fun l hl => Nat.find_min hfound hl, ?_⟩
    exact (membershipRolePatch_eq_some hv).mpr
      ⟨_, Nat.find_spec hfound, fun l hl => Nat.find_min hfound hl, rfl⟩

/-- A membership written as a list has the id first. The role is an object, and there are members
that no data product has. -/
theorem prediction_gives_role_mixed :
    let v : Json := .obj [("id", .str "dp-1"), ("memberships", .arr [
      .arr [.str "m-2", .str "u-1", .str "owner"],
      .obj [("id", .str "m-2"), ("role", .obj [("owner", .null)]), ("since", .int 7)],
      .obj [("id", .str "m-2"), ("role", .str "owner")]]), ("x", .arr [])]
    let product : DataProduct := ⟨"dp-1", "", "", "", none, [⟨"m-2", "u-1", .owner, .pending⟩,
      ⟨"m-2", "", .owner, .pending⟩, ⟨"m-2", "", .owner, .pending⟩], []⟩
    let update : MembershipRoleUpdate := ⟨"dp-1", "m-2", .member⟩
    DataProduct.schema.decode v = .ok product ∧
      membershipRolePatch update v = some (rolePatch 1 .member) ∧
      ∃ v' q, (rolePatch 1 .member).apply v = .ok (v', q) ∧
        membershipRolePatch update v' = some (rolePatch 1 .member) := by
  intro v product update
  have hv : DataProduct.schema.decode v = .ok product := rfl
  have hp : membershipRolePatch update v = some (rolePatch 1 .member) := by decide
  obtain ⟨_, _, v', q, _, _, _, happly, _, _, _, hagain, _⟩ :=
    (prediction_gives_role hv update).1 _ hp
  exact ⟨hv, hp, v', q, happly, hagain⟩

end TagCache.Portal
