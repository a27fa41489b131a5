import Mathlib.Data.List.Forall2
import Mathlib.Data.String.Basic
import TagCache.CacheKey
import TagCache.Proofs.Separable

/-!
# Values up to the order of members

Two values are the same up to the order of object members, at any depth, if and only if they have
the same normal form; and if their numbers are integers, if and only if they have the same canonical
text. So a cache key tells arguments apart exactly as far as they differ by more than the order of
members.

`Json.Same` says what it is for two values to be the same without speaking of any order of their
members: objects have the same keys and the same value under each. Where an object has several
members with one key the last counts, as it does for the normal form.
-/

namespace TagCache.Json

/-! ## Values from the inside out -/

/-- What holds of a list or an object if it holds of the values in it holds of every value. -/
@[elab_as_elim]
theorem induction {motive : Json → Prop} (null : motive null) (bool : ∀ b, motive (bool b))
    (num : ∀ n, motive (num n)) (str : ∀ s, motive (str s))
    (arr : ∀ xs : List Json, (∀ x ∈ xs, motive x) → motive (arr xs))
    (obj : ∀ ms : Members, (∀ m ∈ ms, motive m.2) → motive (obj ms)) (j : Json) : motive j := by
  refine @Json.rec motive (fun xs => ∀ x ∈ xs, motive x) (fun ms => ∀ m ∈ ms, motive m.2)
    (fun m => motive m.2) null bool num str arr obj ?_ ?_ ?_ ?_ ?_ j
  · exact fun _ hx => nomatch hx
  · exact fun _ _ hx hxs => List.forall_mem_cons.mpr ⟨hx, hxs⟩
  · exact fun _ hm => nomatch hm
  · exact fun _ _ hm hms => List.forall_mem_cons.mpr ⟨hm, hms⟩
  · exact fun _ _ hv => hv

/-! ## Two values that are the same -/

/-- The value of the last member with this key. -/
def Members.value? : Members → String → Option Json
  | [], _ => none
  | (k, v) :: ms, key => (Members.value? ms key).or (if key = k then some v else none)

/-- The values are equal up to the order of the members of the objects in them. -/
inductive Same : Json → Json → Prop
  | null : Same null null
  | bool (b : Bool) : Same (bool b) (bool b)
  | num (n : Number) : Same (num n) (num n)
  | str (s : String) : Same (str s) (str s)
  | arr {xs ys : List Json} (length : xs.length = ys.length)
      (items : ∀ (i : Nat) (x y : Json), xs[i]? = some x → ys[i]? = some y → Same x y) :
      Same (arr xs) (arr ys)
  | obj {ms ns : Members} (keys : ∀ key, (ms.value? key).isSome = (ns.value? key).isSome)
      (values : ∀ (key : String) (x y : Json),
        ms.value? key = some x → ns.value? key = some y → Same x y) :
      Same (obj ms) (obj ns)

theorem Members.mem_of_value? {ms : Members} {key : String} {v : Json}
    (h : ms.value? key = some v) : (key, v) ∈ ms := by
  induction ms with
  | nil => exact absurd h (by simp [Members.value?])
  | cons m ms ih =>
      obtain ⟨k, w⟩ := m
      rw [Members.value?, Option.or_eq_some_iff] at h
      rcases h with h | ⟨_, h⟩
      · exact List.mem_cons_of_mem _ (ih h)
      · split at h
        · rename_i hk
          rw [hk, Option.some.inj h]
          exact List.mem_cons_self
        · exact absurd h (by simp)

/-! ## Members in the order of their keys -/

/-- The keys are strictly ascending. -/
def Members.Ascending (ms : Members) : Prop := ms.Pairwise fun m n => m.1 < n.1

theorem Members.Ascending.nodup {ms : Members} (h : ms.Ascending) : ms.Nodup := by
  refine h.imp ?_
  intro m n hlt heq
  rw [heq] at hlt
  exact String.lt_irrefl _ hlt

theorem Members.mem_insert {key : String} {value : Json} {ms : Members} {m : String × Json}
    (h : m ∈ Members.insert key value ms) : m = (key, value) ∨ m ∈ ms := by
  induction ms with
  | nil => exact .inl (List.mem_singleton.mp h)
  | cons first ms ih =>
      unfold Members.insert at h
      split at h
      · exact List.mem_cons.mp h
      · split at h
        · exact (List.mem_cons.mp h).imp_right (List.mem_cons_of_mem _)
        · rcases List.mem_cons.mp h with rfl | h
          · exact .inr List.mem_cons_self
          · exact (ih h).imp_right (List.mem_cons_of_mem _)

theorem Members.Ascending.insert {ms : Members} (h : ms.Ascending) (key : String) (value : Json) :
    (Members.insert key value ms).Ascending := by
  induction ms with
  | nil => exact List.pairwise_singleton _ _
  | cons first ms ih =>
      obtain ⟨k, v⟩ := first
      obtain ⟨hfirst, hrest⟩ := List.pairwise_cons.mp h
      unfold Members.insert
      split
      · rename_i hlt
        refine List.pairwise_cons.mpr ⟨fun m hm => ?_, h⟩
        rcases List.mem_cons.mp hm with rfl | hm
        · exact hlt
        · exact String.lt_trans hlt (hfirst m hm)
      · split
        · rename_i heq
          exact List.pairwise_cons.mpr ⟨heq ▸ hfirst, hrest⟩
        · rename_i hlt hne
          refine List.pairwise_cons.mpr ⟨fun m hm => ?_, ih hrest⟩
          rcases Members.mem_insert hm with rfl | hm
          · exact ((lt_trichotomy key k).resolve_left hlt).resolve_left hne
          · exact hfirst m hm

theorem Members.get?_insert (key other : String) (value : Json) (ms : Members) :
    (Members.insert key value ms).get? other =
      if other = key then some value else ms.get? other := by
  induction ms with
  | nil => exact Members.get?_cons key value [] other
  | cons first ms ih =>
      obtain ⟨k, v⟩ := first
      unfold Members.insert
      split
      · rw [Members.get?_cons]
      · split
        · rename_i heq
          subst heq
          rw [Members.get?_cons, Members.get?_cons]
          split <;> rfl
        · rename_i hne
          rw [Members.get?_cons, Members.get?_cons, ih]
          by_cases hk : other = k
          · rw [if_pos hk, if_pos hk, if_neg (hk ▸ Ne.symm hne)]
          · rw [if_neg hk, if_neg hk]

/-- Members with different keys are found under their keys. -/
theorem Members.Ascending.get?_eq_some_iff {ms : Members} (h : ms.Ascending) {key : String}
    {v : Json} : ms.get? key = some v ↔ (key, v) ∈ ms := by
  induction ms with
  | nil => simp [Members.get?]
  | cons first ms ih =>
      obtain ⟨k, w⟩ := first
      obtain ⟨hfirst, hrest⟩ := List.pairwise_cons.mp h
      rw [Members.get?_cons, List.mem_cons]
      split
      · rename_i hk
        subst hk
        have hnot : (key, v) ∉ ms := fun hm => String.lt_irrefl key (hfirst _ hm)
        simp [hnot, eq_comm]
      · rename_i hk
        simp [ih hrest, hk]

/-- Ascending members are known by what is found under each key. -/
theorem Members.Ascending.ext {ms ns : Members} (hm : ms.Ascending) (hn : ns.Ascending)
    (h : ∀ key, ms.get? key = ns.get? key) : ms = ns := by
  refine List.Perm.eq_of_pairwise (fun a b _ _ hab hba => ?_) hm hn ?_
  · exact absurd (String.lt_trans hab hba) (String.lt_irrefl _)
  · refine (List.perm_ext_iff_of_nodup hm.nodup hn.nodup).mpr fun ⟨key, v⟩ => ?_
    rw [← hm.get?_eq_some_iff, ← hn.get?_eq_some_iff, h]

/-! ## The normal form -/

/-- Sorting members into sorted ones. -/
theorem Members.foldl_insert (ms sorted : Members) (hsorted : sorted.Ascending) :
    (ms.foldl (fun sorted (k, v) => Members.insert k v sorted) sorted).Ascending ∧
      ∀ key, (ms.foldl (fun sorted (k, v) => Members.insert k v sorted) sorted).get? key =
        (ms.value? key).or (sorted.get? key) := by
  induction ms generalizing sorted with
  | nil => exact ⟨hsorted, fun _ => rfl⟩
  | cons m ms ih =>
      obtain ⟨k, v⟩ := m
      obtain ⟨hascending, hget⟩ := ih (Members.insert k v sorted) (hsorted.insert k v)
      refine ⟨hascending, fun key => ?_⟩
      rw [List.foldl_cons, hget, Members.get?_insert, Members.value?, Option.or_assoc]
      split <;> rfl

theorem Members.ascending_sorted (ms : Members) : ms.sorted.Ascending :=
  (Members.foldl_insert ms [] List.Pairwise.nil).1

theorem Members.get?_sorted (ms : Members) (key : String) : ms.sorted.get? key = ms.value? key := by
  unfold Members.sorted
  rw [(Members.foldl_insert ms [] List.Pairwise.nil).2]
  exact Option.or_none

/-- Sorted members are the same if and only if the values of all keys are. -/
theorem Members.sorted_eq_iff {ms ns : Members} :
    ms.sorted = ns.sorted ↔ ∀ key, ms.value? key = ns.value? key := by
  constructor
  · intro h key
    rw [← Members.get?_sorted, h, Members.get?_sorted]
  · intro h
    refine ms.ascending_sorted.ext ns.ascending_sorted fun key => ?_
    rw [Members.get?_sorted, Members.get?_sorted, h]

theorem normalizeItems_eq (xs : List Json) : normalizeItems xs = xs.map normalize := by
  induction xs with
  | nil => rfl
  | cons x xs ih => rw [normalizeItems, ih, List.map_cons]

theorem normalizeMembers_eq (ms : Members) :
    normalizeMembers ms = ms.map fun m => (m.1, m.2.normalize) := by
  induction ms with
  | nil => rfl
  | cons m ms ih => rw [normalizeMembers, ih, List.map_cons]

theorem value?_normalizeMembers (ms : Members) (key : String) :
    (show Members from normalizeMembers ms).value? key = (ms.value? key).map normalize := by
  induction ms with
  | nil => rfl
  | cons m ms ih =>
      obtain ⟨k, v⟩ := m
      change (Members.value? (normalizeMembers ms) key).or _ = _
      rw [ih, Members.value?, Option.map_or]
      split <;> rfl

theorem normalize_eq_of_same {a b : Json} (h : a.Same b) : a.normalize = b.normalize := by
  induction h with
  | null | bool | num | str => rfl
  | arr length items ih =>
      rename_i xs ys
      rw [normalize, normalize, normalizeItems_eq, normalizeItems_eq]
      congr 1
      refine List.ext_getElem? fun i => ?_
      rw [List.getElem?_map, List.getElem?_map]
      cases hx : xs[i]? with
      | none =>
          rw [List.getElem?_eq_none_iff, length, ← List.getElem?_eq_none_iff] at hx
          rw [hx]
      | some x =>
          have hi : i < ys.length := length ▸ (List.getElem?_eq_some_iff.mp hx).1
          rw [List.getElem?_eq_getElem hi]
          exact congrArg some (ih i x _ hx (List.getElem?_eq_getElem hi))
  | obj keys values ih =>
      rename_i ms ns
      rw [normalize, normalize, obj.injEq, Members.sorted_eq_iff]
      intro key
      rw [value?_normalizeMembers, value?_normalizeMembers]
      have hkey := keys key
      cases hx : ms.value? key with
      | none =>
          rw [hx, Option.isSome_none, eq_comm, Option.isSome_eq_false_iff,
            Option.isNone_iff_eq_none] at hkey
          rw [hkey]
      | some x =>
          rw [hx, Option.isSome_some, eq_comm, Option.isSome_iff_exists] at hkey
          obtain ⟨y, hy⟩ := hkey
          rw [hy]
          exact congrArg some (ih key x y hx hy)

theorem same_of_normalize_eq {a b : Json} (h : a.normalize = b.normalize) : a.Same b := by
  induction a using induction generalizing b with
  | null =>
      cases b with
      | null => exact .null
      | _ => exact absurd h (by simp [normalize])
  | bool x =>
      cases b with
      | bool y =>
          obtain rfl := Json.bool.inj h
          exact .bool x
      | _ => exact absurd h (by simp [normalize])
  | num x =>
      cases b with
      | num y =>
          obtain rfl := Json.num.inj h
          exact .num x
      | _ => exact absurd h (by simp [normalize])
  | str x =>
      cases b with
      | str y =>
          obtain rfl := Json.str.inj h
          exact .str x
      | _ => exact absurd h (by simp [normalize])
  | arr xs ih =>
      cases b with
      | arr ys =>
          have hitems : xs.map normalize = ys.map normalize := by
            rw [← normalizeItems_eq, ← normalizeItems_eq]
            exact Json.arr.inj h
          refine .arr (by simpa using congrArg List.length hitems) fun i x y hx hy => ?_
          have hi : (xs.map normalize)[i]? = (ys.map normalize)[i]? := by rw [hitems]
          rw [List.getElem?_map, List.getElem?_map, hx, hy] at hi
          exact ih x (List.mem_of_getElem? hx) (Option.some.inj hi)
      | _ => exact absurd h (by simp [normalize])
  | obj ms ih =>
      cases b with
      | obj ns =>
          have hvalue : ∀ key,
              (Members.value? ms key).map normalize = (Members.value? ns key).map normalize := by
            intro key
            rw [← value?_normalizeMembers, ← value?_normalizeMembers]
            exact Members.sorted_eq_iff.mp (Json.obj.inj h) key
          refine .obj (fun key => by simpa using congrArg Option.isSome (hvalue key))
            fun key x y hx hy => ?_
          have hkey := hvalue key
          rw [hx, hy] at hkey
          exact ih (key, x) (Members.mem_of_value? hx) (Option.some.inj hkey)
      | _ => exact absurd h (by simp [normalize])

/-- **Two values are the same if and only if they have the same normal form.** -/
theorem same_iff {a b : Json} : a.Same b ↔ a.normalize = b.normalize :=
  ⟨normalize_eq_of_same, same_of_normalize_eq⟩

/-! ### Objects without repeated keys -/

theorem Members.value?_isSome {ms : Members} {key : String} :
    (ms.value? key).isSome ↔ key ∈ ms.map Prod.fst := by
  induction ms with
  | nil => simp [Members.value?]
  | cons m ms ih =>
      obtain ⟨k, v⟩ := m
      rw [Members.value?, Option.isSome_or, Bool.or_eq_true, ih, List.map_cons, List.mem_cons]
      by_cases hk : k = key
      · simp [hk]
      · simp [Ne.symm hk]

/-- The value of a key that occurs once. -/
theorem Members.value?_eq_some_iff {ms : Members} (h : (ms.map Prod.fst).Nodup) {key : String}
    {v : Json} : ms.value? key = some v ↔ (key, v) ∈ ms := by
  refine ⟨Members.mem_of_value?, fun hmem => ?_⟩
  induction ms with
  | nil => exact absurd hmem (by simp)
  | cons m ms ih =>
      obtain ⟨k, w⟩ := m
      obtain ⟨hk, hrest⟩ := List.nodup_cons.mp h
      rw [Members.value?]
      rcases List.mem_cons.mp hmem with heq | hmem
      · obtain ⟨rfl, rfl⟩ := Prod.mk.inj heq
        have hnone : Members.value? ms key = none := by
          rw [← Option.not_isSome_iff_eq_none, Members.value?_isSome]
          exact hk
        rw [hnone, if_pos rfl, Option.none_or]
      · rw [ih hrest hmem, Option.some_or]

theorem same_obj_iff_mem {ms ns : Members} (hm : (ms.map Prod.fst).Nodup)
    (hn : (ns.map Prod.fst).Nodup) : (obj ms).Same (obj ns) ↔
      (∀ key, key ∈ ms.map Prod.fst ↔ key ∈ ns.map Prod.fst) ∧
        ∀ key x y, (key, x) ∈ ms → (key, y) ∈ ns → x.Same y := by
  simp only [← Members.value?_isSome, ← Members.value?_eq_some_iff hm,
    ← Members.value?_eq_some_iff hn, ← Bool.eq_iff_iff]
  exact ⟨fun | .obj keys values => ⟨keys, values⟩, fun ⟨keys, values⟩ => .obj keys values⟩

theorem exists_of_forall₂ {α β : Type} {R : α → β → Prop} {xs : List α} {ys : List β}
    (h : List.Forall₂ R xs ys) {x : α} (hx : x ∈ xs) : ∃ y ∈ ys, R x y := by
  obtain ⟨hlength, hget⟩ := List.forall₂_iff_get.mp h
  obtain ⟨i, hi, rfl⟩ := List.mem_iff_getElem.mp hx
  exact ⟨_, List.getElem_mem (hlength ▸ hi), hget i hi (hlength ▸ hi)⟩

/-- **Objects without repeated keys are the same if and only if** the members of one can be put into
an order in which they have the keys of the other, and the same values. -/
theorem same_obj_iff {ms ns : Members} (hm : (ms.map Prod.fst).Nodup)
    (hn : (ns.map Prod.fst).Nodup) : (obj ms).Same (obj ns) ↔
      ∃ ls : Members, ls.Perm ns ∧ List.Forall₂ (fun m l => m.1 = l.1 ∧ m.2.Same l.2) ms ls := by
  rw [same_obj_iff_mem hm hn]
  constructor
  · rintro ⟨hkeys, hvalues⟩
    induction ms generalizing ns with
    | nil =>
        have hnil : ns = [] := by
          refine List.eq_nil_iff_forall_not_mem.mpr fun n hmem => ?_
          exact absurd ((hkeys n.1).mpr (List.mem_map_of_mem hmem)) (by simp)
        exact ⟨[], hnil ▸ .refl _, .nil⟩
    | cons m ms ih =>
        obtain ⟨k, v⟩ := m
        obtain ⟨hk, hms⟩ := List.nodup_cons.mp hm
        -- the member with the key of the first goes to the front
        obtain ⟨⟨l, w⟩, hmem, rfl⟩ := List.mem_map.mp ((hkeys k).mp List.mem_cons_self)
        obtain ⟨before, after, rfl⟩ := List.append_of_mem hmem
        have hperm : ((l, w) :: (before ++ after)).Perm (before ++ (l, w) :: after) :=
          List.perm_middle.symm
        obtain ⟨hl, hrest⟩ := List.nodup_cons.mp ((hperm.map Prod.fst).nodup_iff.mpr hn)
        have hkeys' : ∀ key, key ∈ ms.map Prod.fst ↔ key ∈ (before ++ after).map Prod.fst := by
          intro key
          have hkey := hkeys key
          rw [← (hperm.map Prod.fst).mem_iff, List.map_cons, List.map_cons, List.mem_cons,
            List.mem_cons] at hkey
          constructor
          · exact fun h => (hkey.mp (.inr h)).resolve_left fun heq => hk (heq ▸ h)
          · exact fun h => (hkey.mpr (.inr h)).resolve_left fun heq => hl (heq ▸ h)
        obtain ⟨ls, hls, hall⟩ := ih hms hrest hkeys' fun key x y hx hy =>
          hvalues key x y (List.mem_cons_of_mem _ hx)
            (hperm.mem_iff.mp (List.mem_cons_of_mem _ hy))
        exact ⟨(l, w) :: ls, (hls.cons _).trans hperm,
          .cons ⟨rfl, hvalues l v w List.mem_cons_self hmem⟩ hall⟩
  · rintro ⟨ls, hperm, hall⟩
    have hfst : ms.map Prod.fst = ls.map Prod.fst := by
      rw [← List.forall₂_eq_eq_eq, List.forall₂_map_left_iff, List.forall₂_map_right_iff]
      exact hall.imp fun _ _ h => h.1
    refine ⟨fun key => by rw [hfst, (hperm.map Prod.fst).mem_iff], fun key x y hx hy => ?_⟩
    obtain ⟨⟨_, z⟩, hz, rfl, hsame⟩ := exists_of_forall₂ hall hx
    have hzy := (Members.value?_eq_some_iff hn).mpr (hperm.mem_iff.mp hz)
    rw [(Members.value?_eq_some_iff hn).mpr hy] at hzy
    exact Option.some.inj hzy ▸ hsame

/-! ## The canonical text -/

theorem integralItems_iff {xs : List Json} :
    integralItems xs = true ↔ ∀ x ∈ xs, x.integral = true := by
  induction xs with
  | nil => simp [integralItems]
  | cons x xs ih => rw [integralItems, Bool.and_eq_true, ih, List.forall_mem_cons]

theorem integralMembers_iff {ms : Members} :
    integralMembers ms = true ↔ ∀ m ∈ ms, m.2.integral = true := by
  induction ms with
  | nil => simp [integralMembers]
  | cons m ms ih => rw [integralMembers, Bool.and_eq_true, ih, List.forall_mem_cons]

/-- Sorting members makes none up. -/
theorem Members.mem_of_mem_sorted {ms : Members} {m : String × Json} (h : m ∈ ms.sorted) :
    m ∈ ms := by
  refine Members.mem_of_value? ?_
  rw [← Members.get?_sorted]
  exact ms.ascending_sorted.get?_eq_some_iff.mpr h

theorem integral_normalize {a : Json} (h : a.integral = true) : a.normalize.integral = true := by
  induction a using induction with
  | null | bool | num | str => exact h
  | arr xs ih =>
      have hitems := integralItems_iff.mp h
      refine integralItems_iff.mpr fun x hx => ?_
      rw [normalizeItems_eq] at hx
      obtain ⟨y, hy, rfl⟩ := List.mem_map.mp hx
      exact ih y hy (hitems y hy)
  | obj ms ih =>
      have hmembers := integralMembers_iff.mp h
      refine integralMembers_iff.mpr fun m hm => ?_
      have hmem := Members.mem_of_mem_sorted hm
      rw [normalizeMembers_eq] at hmem
      obtain ⟨n, hn, rfl⟩ := List.mem_map.mp hmem
      exact ih n hn (hmembers n hn)

/-- **Values whose numbers are integers have the same canonical text if and only if they are the
same up to the order of members.** -/
theorem canonical_eq_iff {a b : Json} (ha : a.integral = true) (hb : b.integral = true) :
    a.canonical = b.canonical ↔ a.Same b := by
  rw [same_iff]
  constructor
  · exact text_injective (integral_normalize ha) (integral_normalize hb)
  · exact congrArg text

end TagCache.Json

namespace TagCache

/-- A key says which endpoint was called, and the argument up to the order of members. -/
theorem CacheKey.ofArg_eq_iff {e f : String} {a b : Json} (ha : a.integral = true)
    (hb : b.integral = true) : ofArg e a = ofArg f b ↔ e = f ∧ a.Same b := by
  rw [ofArg, ofArg, CacheKey.mk.injEq, Json.canonical_eq_iff ha hb]

end TagCache
