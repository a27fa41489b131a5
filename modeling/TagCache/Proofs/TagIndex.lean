import TagCache.Proofs.Operations

/-!
# The tag index is exact

The index is a second copy of the tags of all entries, turned around: for a tag, the keys of the
entries that provide it. It is never rebuilt. Two operations move a key in it, an answer that
brings new tags and an eviction, and both do so by the difference of two tag sets.

An index that has lost a key shows only later, when an invalidation passes an entry by; one that
has kept a key too long shows as an invalidation of nothing. Neither happens: in every store that a
run reaches, the index is what the entries say, and a tag without entries is not in it.
-/

namespace TagCache

variable {κ ε : Type} [DecidableEq κ]

namespace Store

/-! ## Buckets -/

/-- The keys under a tag of an index. -/
def bucket (index : Table (Tag κ) (List CacheKey)) (tag : Tag κ) : List CacheKey :=
  (index.get? tag).getD []

/-- No tag of the index is without keys, and none has a key twice. -/
structure Tidy (index : Table (Tag κ) (List CacheKey)) : Prop where
  nonempty : ∀ t, index.get? t ≠ some []
  nodup : ∀ t, (bucket index t).Nodup

variable {index : Table (Tag κ) (List CacheKey)}

theorem get?_unlink (key : CacheKey) (index : Table (Tag κ) (List CacheKey)) (tag t : Tag κ) :
    (unlink key index tag).get? t =
      if t = tag ∧ (bucket index t).filter (· ≠ key) = [] then none
      else if t = tag then some ((bucket index t).filter (· ≠ key))
      else index.get? t := by
  unfold unlink bucket
  by_cases ht : t = tag
  · subst ht
    cases hq : index.get? t with
    | none => simp [hq]
    | some keys =>
        dsimp only
        -- the tag goes with its last key
        by_cases hempty : keys.filter (· ≠ key) = []
        · rw [if_pos (by rw [hempty]; rfl), Table.get?_erase]
          simp only [Option.getD_some, true_and, if_true, if_pos hempty]
        · rw [if_neg (by rwa [List.isEmpty_iff]), Table.get?_insert]
          simp only [Option.getD_some, true_and, if_true, if_neg hempty]
  · rw [if_neg (fun h => ht h.1), if_neg ht]
    cases hq : index.get? tag with
    | none => rfl
    | some keys =>
        dsimp only
        split
        · rw [Table.get?_erase, if_neg ht]
        · rw [Table.get?_insert, if_neg ht]

theorem bucket_unlink (key : CacheKey) (index : Table (Tag κ) (List CacheKey)) (tag t : Tag κ) :
    bucket (unlink key index tag) t =
      if t = tag then (bucket index t).filter (· ≠ key) else bucket index t := by
  have h := get?_unlink key index tag t
  rw [bucket, h]
  by_cases ht : t = tag
  · by_cases hempty : (bucket index t).filter (· ≠ key) = []
    · rw [if_pos ⟨ht, hempty⟩, if_pos ht, hempty]; rfl
    · rw [if_neg (fun h => hempty h.2), if_pos ht, if_pos ht]; rfl
  · rw [if_neg (fun h => ht h.1), if_neg ht, if_neg ht]; rfl

theorem get?_link (key : CacheKey) (index : Table (Tag κ) (List CacheKey)) (tag t : Tag κ) :
    (link key index tag).get? t =
      if t = tag ∧ key ∉ bucket index t then some (key :: bucket index t) else index.get? t := by
  unfold link bucket
  dsimp only
  by_cases hmem : key ∈ (index.get? tag).getD []
  · rw [if_pos hmem]
    by_cases ht : t = tag
    · subst ht
      rw [if_neg (fun h => h.2 hmem)]
    · rw [if_neg (fun h => ht h.1)]
  · rw [if_neg hmem, Table.get?_insert]
    by_cases ht : t = tag
    · subst ht
      rw [if_pos rfl, if_pos ⟨rfl, hmem⟩]
    · rw [if_neg ht, if_neg (fun h => ht h.1)]

theorem bucket_link (key : CacheKey) (index : Table (Tag κ) (List CacheKey)) (tag t : Tag κ) :
    bucket (link key index tag) t =
      if t = tag ∧ key ∉ bucket index t then key :: bucket index t else bucket index t := by
  rw [bucket, get?_link]
  split
  · rfl
  · rfl

theorem Tidy.unlink (h : Tidy index) (key : CacheKey) (tag : Tag κ) :
    Tidy (unlink key index tag) where
  nonempty := by
    intro t
    rw [get?_unlink]
    split
    · simp
    · split
      · rename_i hne ht
        exact fun hnil => hne ⟨ht, Option.some.inj hnil⟩
      · exact h.nonempty t
  nodup := by
    intro t
    rw [bucket_unlink]
    split
    · exact (h.nodup t).filter _
    · exact h.nodup t

theorem Tidy.link (h : Tidy index) (key : CacheKey) (tag : Tag κ) : Tidy (link key index tag) where
  nonempty := by
    intro t
    rw [get?_link]
    split
    · simp
    · exact h.nonempty t
  nodup := by
    intro t
    rw [bucket_link]
    split
    · rename_i hnew
      exact List.nodup_cons.mpr ⟨hnew.2, h.nodup t⟩
    · exact h.nodup t

theorem mem_bucket_unlinkAll (key k : CacheKey) (tags : List (Tag κ)) (t : Tag κ) :
    k ∈ bucket (tags.foldl (unlink key) index) t ↔
      k ∈ bucket index t ∧ ¬ (k = key ∧ t ∈ tags) := by
  induction tags generalizing index with
  | nil => simp
  | cons tag tags ih =>
      rw [List.foldl_cons, ih, bucket_unlink]
      by_cases ht : t = tag
      · simp only [ht, if_true, List.mem_filter, decide_eq_true_eq, List.mem_cons, true_or]
        tauto
      · simp only [ht, if_false, List.mem_cons, false_or]

theorem mem_bucket_linkAll (key k : CacheKey) (tags : List (Tag κ)) (t : Tag κ) :
    k ∈ bucket (tags.foldl (link key) index) t ↔ k ∈ bucket index t ∨ (k = key ∧ t ∈ tags) := by
  induction tags generalizing index with
  | nil => simp
  | cons tag tags ih =>
      rw [List.foldl_cons, ih, bucket_link]
      by_cases ht : t = tag
      · by_cases hmem : key ∈ bucket index t
        · -- the key was there before, and is not linked twice
          rw [if_neg (fun h => h.2 hmem)]
          simp only [ht, List.mem_cons, true_or, and_true]
          constructor
          · rintro (h | ⟨h, _⟩)
            · exact Or.inl h
            · exact Or.inr h
          · rintro (h | h)
            · exact Or.inl h
            · rw [h, ← ht]; exact Or.inl hmem
        · rw [if_pos ⟨ht, hmem⟩]
          simp only [ht, List.mem_cons, true_or, and_true]
          tauto
      · rw [if_neg (fun h => ht h.1)]
        simp only [ht, List.mem_cons, false_or]

/-- Moving a key from the tags `previous` to the tags `next`. -/
theorem mem_bucket_reindex (key k : CacheKey) (previous next : List (Tag κ)) (t : Tag κ) :
    k ∈ bucket (reindex index key previous next) t ↔
      (k ∈ bucket index t ∧ ¬ (k = key ∧ t ∈ previous ∧ t ∉ next)) ∨
        (k = key ∧ t ∈ next ∧ t ∉ previous) := by
  unfold reindex
  rw [mem_bucket_linkAll, mem_bucket_unlinkAll]
  simp only [List.mem_filter, decide_eq_true_eq]

theorem Tidy.reindex (h : Tidy index) (key : CacheKey) (previous next : List (Tag κ)) :
    Tidy (reindex index key previous next) := by
  unfold Store.reindex
  have hun : ∀ (tags : List (Tag κ)) (index : Table (Tag κ) (List CacheKey)),
      Tidy index → Tidy (tags.foldl (Store.unlink key) index) := by
    intro tags
    induction tags with
    | nil => exact fun _ h => h
    | cons tag tags ih => exact fun index h => ih _ (h.unlink key tag)
  have hlink : ∀ (tags : List (Tag κ)) (index : Table (Tag κ) (List CacheKey)),
      Tidy index → Tidy (tags.foldl (Store.link key) index) := by
    intro tags
    induction tags with
    | nil => exact fun _ h => h
    | cons tag tags ih => exact fun index h => ih _ (h.link key tag)
  exact hlink _ _ (hun _ _ h)

/-! ## Exactness -/

omit [DecidableEq κ] in
/-- There is an entry under the key, and it provides the tag. -/
def Provides (s : Store κ ε) (key : CacheKey) (tag : Tag κ) : Prop :=
  ∃ e, s.find? key = some e ∧ tag ∈ e.tags

/-- The index says of every tag which entries provide it. -/
structure IndexExact (s : Store κ ε) : Prop where
  mem : ∀ t k, k ∈ s.keysOf t ↔ s.Provides k t
  tidy : Tidy s.index

theorem indexExact_new (config : StoreConfig) : IndexExact (new config : Store κ ε) where
  mem := by
    intro t k
    constructor
    · intro h; exact absurd h (by simp [keysOf, new])
    · rintro ⟨e, he, _⟩; exact absurd he (by simp)
  tidy := ⟨fun t => by simp [new], fun t => by simp [bucket, new]⟩

variable {s s' : Store κ ε} {effects : List (Effect κ ε)} {key : CacheKey}

/-- The index names the entries that a scan would find. -/
theorem IndexExact.mem_hits (h : s.IndexExact) (tags : List (Tag κ)) (k : CacheKey) :
    k ∈ s.hits tags ↔ ∃ e, s.find? k = some e ∧ ∃ t ∈ tags, t ∈ e.tags := by
  unfold hits
  rw [CacheKey.mem_sorted, List.mem_flatMap]
  constructor
  · rintro ⟨t, ht, hk⟩
    obtain ⟨e, he, hprovides⟩ := (h.mem t k).mp hk
    exact ⟨e, he, t, ht, hprovides⟩
  · rintro ⟨e, he, t, ht, hprovides⟩
    exact ⟨t, ht, (h.mem t k).mpr ⟨e, he, hprovides⟩⟩

omit [DecidableEq κ] in
/-- Entries with the same tags provide the same. -/
theorem provides_congr {k : CacheKey}
    (h : (s'.find? k).map (fun e => e.tags) = (s.find? k).map fun e => e.tags) (t : Tag κ) :
    s'.Provides k t ↔ s.Provides k t := by
  have hiff : ∀ s : Store κ ε, s.Provides k t ↔
      ∃ tags, (s.find? k).map (fun e => e.tags) = some tags ∧ t ∈ tags := by
    intro s
    simp [Provides]
  rw [hiff s', hiff s, h]

/-- The index and the tags of the entries are all that exactness looks at. -/
theorem IndexExact.congr (h : IndexExact s) (hindex : s'.index = s.index)
    (htags : ∀ k, (s'.find? k).map (fun e => e.tags) = (s.find? k).map fun e => e.tags) :
    IndexExact s' where
  mem := by
    intro t k
    rw [provides_congr (htags k), ← h.mem]
    unfold keysOf
    rw [hindex]
  tidy := hindex ▸ h.tidy

theorem IndexExact.drifts (h : IndexExact s) (hd : s.Drifts effects s') : IndexExact s' := by
  refine h.congr hd.index fun k => ?_
  cases he : s.find? k with
  | none => rw [hd.absent k he]
  | some e =>
      obtain ⟨e', he', hdrift⟩ := hd.present k e he
      rw [he', Option.map_some, Option.map_some, hdrift.tags]

theorem IndexExact.invalidates {keys : List CacheKey} (h : IndexExact s)
    (hi : s.Invalidates keys effects s') : IndexExact s' := by
  refine h.congr hi.index fun k => ?_
  cases he : s.find? k with
  | none => rw [hi.absent k he]
  | some e =>
      by_cases hk : k ∈ keys
      · -- a hit marks the entry; what it provides stays as it was
        obtain ⟨id, _, hfind, _⟩ := hi.hit k e hk he
        rw [hfind, Option.map_some, Option.map_some, (e.invalidated_frame id).2.1]
      · rw [hi.other k hk, he]

/-- Writing an entry with the tags it had. -/
theorem IndexExact.set {e e' : Entry κ ε} (h : IndexExact s) (he : s.find? key = some e)
    (hindex : s'.index = s.index)
    (hfind : ∀ k, s'.find? k = if k = key then some e' else s.find? k)
    (htags : e'.tags = e.tags) : IndexExact s' := by
  refine h.congr hindex fun k => ?_
  rw [hfind]
  by_cases hk : k = key
  · rw [if_pos hk, hk, he, Option.map_some, Option.map_some, htags]
  · rw [if_neg hk]

/-- A new entry provides nothing, as nothing did before it. -/
theorem IndexExact.add (h : IndexExact s) (habsent : s.find? key = none) (endpoint : String)
    (request : Request) (provides : Json → Except DecodeError (List (Tag κ))) :
    IndexExact (s.add key endpoint request provides) where
  mem := by
    intro t k
    have hkeys : k ∈ (s.add key endpoint request provides).keysOf t ↔ s.Provides k t := h.mem t k
    rw [hkeys]
    unfold Provides
    rw [find?_add]
    by_cases hk : k = key
    · subst hk
      simp [habsent, Entry.new]
    · rw [if_neg hk]
  tidy := h.tidy

/-- An entry takes other tags, and its key is moved by the difference. -/
theorem IndexExact.reindex {e e' : Entry κ ε} (h : IndexExact s) (he : s.find? key = some e)
    (hindex : s'.index = Store.reindex s.index key e.tags e'.tags)
    (hfind : ∀ k, s'.find? k = if k = key then some e' else s.find? k) : IndexExact s' where
  mem := by
    intro t k
    have hold : k ∈ bucket s.index t ↔ s.Provides k t := h.mem t k
    have hnew : k ∈ s'.keysOf t ↔ k ∈ bucket (Store.reindex s.index key e.tags e'.tags) t := by
      rw [← hindex]; exact Iff.rfl
    rw [hnew, mem_bucket_reindex, hold]
    unfold Provides
    rw [hfind]
    by_cases hk : k = key
    · -- what was linked before is what the entry had
      subst hk
      simp only [he, Option.some.injEq, exists_eq_left', if_true]
      tauto
    · simp only [hk, if_false, false_and, not_false_eq_true, and_true, or_false]
  tidy := hindex ▸ h.tidy.reindex key e.tags e'.tags

theorem IndexExact.without {e : Entry κ ε} (h : IndexExact s) (he : s.find? key = some e) :
    IndexExact (s.without key e) where
  mem := by
    intro t k
    have hold : k ∈ bucket s.index t ↔ s.Provides k t := h.mem t k
    have hnew : k ∈ (s.without key e).keysOf t ↔
        k ∈ bucket (Store.reindex s.index key e.tags []) t := Iff.rfl
    rw [hnew, mem_bucket_reindex, hold]
    unfold Provides
    rw [find?_without]
    by_cases hk : k = key
    · subst hk
      simp [he]
    · simp [hk]
  tidy := h.tidy.reindex key e.tags []

theorem IndexExact.answers {e : Entry κ ε} {answer : Except ε Json} (h : IndexExact s)
    (he : s.find? key = some e) (ha : s.Answers key e answer effects s') : IndexExact s' := by
  have hindex := ha.index
  cases ho : outcome e answer with
  | ok r =>
      have hmoved : s'.index
          = Store.reindex s.index key e.tags (e.answered answer s.nextRequest).tags := by
        rw [hindex, (e.answered_frame answer _).2.1, ho]; rfl
      exact h.reindex he hmoved ha.find
  | error error =>
      -- a failure leaves the data, and with it the tags
      have htags : (e.answered answer s.nextRequest).tags = e.tags := by
        rw [(e.answered_frame answer _).2.1, ho]; rfl
      exact h.set he (hindex.trans (by rw [ho]; rfl)) ha.find htags

/-- **Every step keeps the index exact.** -/
theorem indexExact_step {a : Action κ ε} (h : IndexExact s) (hs : s.Step a effects s') :
    IndexExact s' := by
  cases hs with
  | drift _ _ hd => exact h.drifts hd
  | add habsent hd => exact (h.add habsent _ _ _).drifts hd
  | evict _ _ hd he _ => exact (h.drifts hd).without he
  | invalidate _ hi => exact h.invalidates hi
  | discard he _ _ => exact h.set he rfl (fun k => find?_setEntry _ _ k _) rfl
  | answer he _ _ ha => exact h.answers he ha

/-! ## What the index is known by -/

/-- The two indices have the same tags, and the same keys under each. -/
def SameIndex (s s' : Store κ ε) : Prop :=
  ∀ t, Option.Rel List.Perm (s.index.get? t) (s'.index.get? t)

/-- An exact index is known by the tags of the entries, but for the order under a tag. -/
theorem IndexExact.sameIndex (h : IndexExact s) (h' : IndexExact s')
    (htags : ∀ k, (s'.find? k).map (fun e => e.tags) = (s.find? k).map fun e => e.tags) :
    s.SameIndex s' := by
  intro t
  have hperm : (bucket s.index t).Perm (bucket s'.index t) := by
    refine (List.perm_ext_iff_of_nodup (h.tidy.nodup t) (h'.tidy.nodup t)).mpr fun k => ?_
    exact (h.mem t k).trans ((provides_congr (htags k) t).symm.trans (h'.mem t k).symm)
  have hne := h.tidy.nonempty t
  have hne' := h'.tidy.nonempty t
  unfold bucket at hperm
  cases hq : s.index.get? t with
  | none =>
      rw [hq, Option.getD_none, List.nil_perm] at hperm
      cases hq' : s'.index.get? t with
      | none => exact .none
      | some keys =>
          rw [hq', Option.getD_some] at hperm
          rw [hq', hperm] at hne'
          exact absurd rfl hne'
  | some keys =>
      cases hq' : s'.index.get? t with
      | none =>
          rw [hq, hq', Option.getD_none, Option.getD_some, List.perm_nil] at hperm
          rw [hq, hperm] at hne
          exact absurd rfl hne
      | some keys' =>
          rw [hq, hq', Option.getD_some, Option.getD_some] at hperm
          exact .some hperm

end Store

open Store

theorem indexExact_run {config : StoreConfig} {past : List (Moment κ ε)} {s : Store κ ε}
    (h : Run config past s) : s.IndexExact := by
  induction h with
  | init => exact indexExact_new config
  | tail _ a ih => exact indexExact_step ih (step_act _ a)

/-- **The index says who provides a tag, and nothing else.** After every run a key is listed under
a tag if and only if its entry is there and provides the tag; it is listed once; and no tag is left
with an empty list. -/
theorem tagIndex_exact {config : StoreConfig} {past : List (Moment κ ε)} {s : Store κ ε}
    (h : Run config past s) (t : Tag κ) (k : CacheKey) :
    ((∃ keys, s.index.get? t = some keys ∧ k ∈ keys) ↔ ∃ e, s.find? k = some e ∧ t ∈ e.tags) ∧
      ∀ keys, s.index.get? t = some keys → keys ≠ [] ∧ keys.Nodup := by
  have hx := indexExact_run h
  have hmem : k ∈ bucket s.index t ↔ s.Provides k t := hx.mem t k
  have hempty := hx.tidy.nonempty t
  have hnodup := hx.tidy.nodup t
  unfold bucket at hmem hnodup
  cases hq : s.index.get? t with
  | none =>
      rw [hq] at hmem
      refine ⟨⟨?_, fun he => ?_⟩, ?_⟩
      · rintro ⟨_, hkeys, _⟩
        exact absurd hkeys (by simp)
      · exact absurd (hmem.mpr he) (by simp)
      · exact fun _ hkeys => absurd hkeys (by simp)
  | some keys =>
      rw [hq] at hmem hempty hnodup
      refine ⟨⟨?_, fun he => ⟨keys, rfl, hmem.mpr he⟩⟩, ?_⟩
      · rintro ⟨_, hkeys, hk⟩
        obtain rfl := Option.some.inj hkeys
        exact hmem.mp hk
      · intro _ hkeys
        obtain rfl := Option.some.inj hkeys
        exact ⟨fun hnil => hempty (by rw [hnil]), hnodup⟩

/-- An entry that was evicted is created again, and provides another tag than before. -/
theorem tagIndex_exact_recreated :
    let s := (play {} [Sample.ask, Sample.answer 0 ["a", "b"], .unsubscribe Sample.key true,
      .evict Sample.key 2, Sample.ask, Sample.answer 1 ["b", "c"]]).2
    ((∃ keys, s.index.get? (Sample.tag "a") = some keys ∧ Sample.key ∈ keys) ↔
      ∃ e, s.find? Sample.key = some e ∧ Sample.tag "a" ∈ e.tags) ∧
      s.index.get? (Sample.tag "a") = none ∧ s.index.get? (Sample.tag "c") = some [Sample.key] :=
  ⟨(tagIndex_exact (run_play _ _) (Sample.tag "a") Sample.key).1, by decide, by decide⟩

end TagCache
