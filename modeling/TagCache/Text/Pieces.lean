/-!
# Splitting at separators

A list with separators in it is split into the parts between them. There is always one part more
than there are separators, and a part holds none.
-/

namespace TagCache

/-- The parts between the items with a property. -/
def pieces {α : Type} (sep : α → Bool) : List α → List (List α)
  | [] => [[]]
  | x :: xs =>
    if sep x then [] :: pieces sep xs
    else match pieces sep xs with
      | part :: parts => (x :: part) :: parts
      | [] => [[x]]

/-- What stands before the last occurrence of an item, and behind it. -/
def splitLast? {α : Type} [DecidableEq α] (x : α) (xs : List α) : Option (List α × List α) :=
  let back := xs.reverse
  match back.dropWhile (· ≠ x) with
  | _ :: front => some (front.reverse, (back.takeWhile (· ≠ x)).reverse)
  | [] => none

variable {α : Type} {sep : α → Bool}

theorem pieces_ne_nil (xs : List α) : pieces sep xs ≠ [] := by
  cases xs with
  | nil => simp [pieces]
  | cons x xs =>
    unfold pieces
    split
    · simp
    · split <;> simp

theorem exists_pieces_eq (sep : α → Bool) (xs : List α) :
    ∃ part parts, pieces sep xs = part :: parts :=
  List.exists_cons_of_ne_nil (pieces_ne_nil xs)

theorem pieces_congr {sep' : α → Bool} {xs : List α} (h : ∀ x ∈ xs, sep x = sep' x) :
    pieces sep xs = pieces sep' xs := by
  induction xs with
  | nil => rfl
  | cons x xs ih =>
    have hxs := ih fun y hy => h y (List.mem_cons_of_mem _ hy)
    simp only [pieces, hxs, h x List.mem_cons_self]

/-- There is nothing in a part that was not in the list. -/
theorem mem_of_mem_pieces {xs part : List α} (hpart : part ∈ pieces sep xs) {x : α}
    (hx : x ∈ part) : x ∈ xs := by
  induction xs generalizing part with
  | nil =>
    rw [List.mem_singleton.mp hpart] at hx
    exact absurd hx List.not_mem_nil
  | cons y xs ih =>
    obtain ⟨first, parts, hparts⟩ := exists_pieces_eq sep xs
    simp only [pieces, hparts] at hpart
    rw [hparts] at ih
    split at hpart
    · obtain rfl | hpart := List.mem_cons.mp hpart
      · exact absurd hx List.not_mem_nil
      · exact List.mem_cons_of_mem _ (ih hpart hx)
    · obtain rfl | hpart := List.mem_cons.mp hpart
      · obtain rfl | hx := List.mem_cons.mp hx
        · exact List.mem_cons_self
        · exact List.mem_cons_of_mem _ (ih List.mem_cons_self hx)
      · exact List.mem_cons_of_mem _ (ih (List.mem_cons_of_mem _ hpart) hx)

/-- The parts of two lists with a separator between them are those of the one and of the other. -/
theorem pieces_append_sep {s : α} (hs : sep s = true) (xs ys : List α) :
    pieces sep (xs ++ s :: ys) = pieces sep xs ++ pieces sep ys := by
  induction xs with
  | nil => simp [pieces, hs]
  | cons x xs ih =>
    obtain ⟨part, parts, hparts⟩ := exists_pieces_eq sep xs
    rw [List.cons_append, pieces, pieces, ih, hparts]
    split <;> rfl

/-- A list without separators is its only part. -/
theorem pieces_of_clean {xs : List α} (h : ∀ x ∈ xs, sep x = false) : pieces sep xs = [xs] := by
  induction xs with
  | nil => rfl
  | cons x xs ih =>
    have hx := h x List.mem_cons_self
    have hxs := ih fun y hy => h y (List.mem_cons_of_mem _ hy)
    simp [pieces, hx, hxs]

/-- What stands before the first separator is the first part. -/
theorem pieces_append_cons {xs : List α} {s : α} {ys : List α} (h : ∀ x ∈ xs, sep x = false)
    (hs : sep s = true) : pieces sep (xs ++ s :: ys) = xs :: pieces sep ys := by
  rw [pieces_append_sep hs, pieces_of_clean h, List.singleton_append]

end TagCache
