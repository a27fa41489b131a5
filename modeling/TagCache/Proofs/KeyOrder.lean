import TagCache.CacheKey
import Mathlib.Data.String.Basic

/-!
# Keys in ascending order

`CacheKey.sorted` makes a set of a list of keys: it keeps every key, in ascending order, each once.
An invalidation goes through the keys it hits in this order, and would ask twice for an entry that
it met twice.
-/

namespace TagCache.CacheKey

theorem lt_iff {a b : CacheKey} :
    a.lt b = true ↔ a.endpoint < b.endpoint ∨ a.endpoint = b.endpoint ∧ a.arg < b.arg := by
  simp [lt]

theorem lt_irrefl (a : CacheKey) : ¬ a.lt a = true := by
  rw [lt_iff]
  rintro (h | ⟨_, h⟩)
  · exact String.lt_irrefl _ h
  · exact String.lt_irrefl _ h

theorem lt_trans {a b c : CacheKey} (hab : a.lt b = true) (hbc : b.lt c = true) :
    a.lt c = true := by
  rw [lt_iff] at hab hbc ⊢
  rcases hab with hab | ⟨hab, hab'⟩ <;> rcases hbc with hbc | ⟨hbc, hbc'⟩
  · exact Or.inl (String.lt_trans hab hbc)
  · exact Or.inl (hbc ▸ hab)
  · exact Or.inl (hab ▸ hbc)
  · exact Or.inr ⟨hab.trans hbc, String.lt_trans hab' hbc'⟩

/-- Of two different keys one comes first. -/
theorem lt_of_not_lt {a b : CacheKey} (h : ¬ a.lt b = true) (hne : a ≠ b) : b.lt a = true := by
  rw [lt_iff] at h ⊢
  rw [not_or, not_and] at h
  rcases lt_trichotomy a.endpoint b.endpoint with he | he | he
  · exact absurd he h.1
  · refine Or.inr ⟨he.symm, ?_⟩
    rcases lt_trichotomy a.arg b.arg with ha | ha | ha
    · exact absurd ha (h.2 he)
    · exact absurd (by cases a; cases b; simp_all) hne
    · exact ha
  · exact Or.inl he

/-- Strictly ascending. -/
def Ascending (ks : List CacheKey) : Prop := ks.Pairwise fun a b => a.lt b = true

theorem Ascending.nodup {ks : List CacheKey} (h : Ascending ks) : ks.Nodup := by
  refine h.imp ?_
  intro a b hab heq
  rw [heq] at hab
  exact lt_irrefl b hab

theorem mem_insertSorted {k l : CacheKey} {ls : List CacheKey} :
    l ∈ insertSorted k ls ↔ l = k ∨ l ∈ ls := by
  induction ls with
  | nil => simp [insertSorted]
  | cons x xs ih =>
      unfold insertSorted
      split
      · simp
      · split
        · rename_i _ heq
          rw [heq]; simp
        · simp only [List.mem_cons, ih]
          exact or_left_comm

theorem ascending_insertSorted {k : CacheKey} {ls : List CacheKey} (h : Ascending ls) :
    Ascending (insertSorted k ls) := by
  induction ls with
  | nil => exact List.pairwise_singleton _ _
  | cons x xs ih =>
      obtain ⟨hx, hxs⟩ := List.pairwise_cons.mp h
      unfold insertSorted
      split
      · rename_i hlt
        refine List.pairwise_cons.mpr ⟨fun l hl => ?_, h⟩
        rcases List.mem_cons.mp hl with hl | hl
        · rw [hl]; exact hlt
        · exact lt_trans hlt (hx l hl)
      · split
        · exact h
        · rename_i hlt hne
          refine List.pairwise_cons.mpr ⟨fun l hl => ?_, ih hxs⟩
          rcases mem_insertSorted.mp hl with hl | hl
          · rw [hl]; exact lt_of_not_lt hlt hne
          · exact hx l hl

@[simp] theorem mem_sorted {k : CacheKey} {ks : List CacheKey} : k ∈ sorted ks ↔ k ∈ ks := by
  induction ks with
  | nil => simp [sorted]
  | cons x xs ih =>
      have hcons : sorted (x :: xs) = insertSorted x (sorted xs) := rfl
      rw [hcons, mem_insertSorted, ih, List.mem_cons]

theorem ascending_sorted (ks : List CacheKey) : Ascending (sorted ks) := by
  induction ks with
  | nil => exact List.Pairwise.nil
  | cons x xs ih => exact ascending_insertSorted ih

/-- Keys in ascending order are known by what is among them. -/
theorem Ascending.ext {ks ls : List CacheKey} (hk : Ascending ks) (hl : Ascending ls)
    (h : ∀ k, k ∈ ks ↔ k ∈ ls) : ks = ls := by
  refine List.Perm.eq_of_pairwise (fun a b _ _ hab hba => ?_) hk hl ?_
  · exact absurd (lt_trans hab hba) (lt_irrefl a)
  · exact (List.perm_ext_iff_of_nodup hk.nodup hl.nodup).mpr h

theorem sorted_congr {ks ls : List CacheKey} (h : ∀ k, k ∈ ks ↔ k ∈ ls) :
    sorted ks = sorted ls := by
  refine (ascending_sorted ks).ext (ascending_sorted ls) fun k => ?_
  rw [mem_sorted, mem_sorted, h]

end TagCache.CacheKey
