/-!
# Finite tables

A table maps finitely many keys to values. It is kept as a list of bindings; what a table *is*
for its users is `get?`, and the lemmas of this file say what every operation does to it.
-/

namespace TagCache

/-- Finitely many keys and their values. The first binding of a key counts. -/
structure Table (α β : Type) where
  bindings : List (α × β)

namespace Table

variable {α β : Type} [DecidableEq α]

/-- The table without keys. -/
def empty : Table α β := ⟨[]⟩

instance : Inhabited (Table α β) := ⟨empty⟩

/-- The value of a key. -/
def get? (t : Table α β) (key : α) : Option β := t.bindings.lookup key

/-- Whether a key has a value. -/
def contains (t : Table α β) (key : α) : Bool := (t.get? key).isSome

/-- Replaces the value of a key in a list of bindings, or adds a binding behind them. -/
def insertBinding (key : α) (value : β) : List (α × β) → List (α × β)
  | [] => [(key, value)]
  | (k, v) :: rest =>
    if key = k then (key, value) :: rest else (k, v) :: insertBinding key value rest

/-- The table with a value for a key. -/
def insert (t : Table α β) (key : α) (value : β) : Table α β :=
  ⟨insertBinding key value t.bindings⟩

/-- The table without a key. -/
def erase (t : Table α β) (key : α) : Table α β :=
  ⟨t.bindings.filter fun (k, _) => k ≠ key⟩

/-! ## What is found after an operation -/

@[simp] theorem get?_empty (key : α) : (empty : Table α β).get? key = none := rfl

@[simp] theorem get?_insert (t : Table α β) (key other : α) (value : β) :
    (t.insert key value).get? other = if other = key then some value else t.get? other := by
  obtain ⟨bs⟩ := t
  simp only [get?, insert]
  induction bs with
  | nil =>
    by_cases h : other = key
    · simp [insertBinding, h]
    · have : (other == key) = false := by simpa using h
      simp [insertBinding, h, List.lookup_cons, this]
  | cons b bs ih =>
    obtain ⟨k, v⟩ := b
    by_cases hk : key = k
    · subst hk
      by_cases ho : other = key
      · simp [insertBinding, ho]
      · have : (other == key) = false := by simpa using ho
        simp [insertBinding, ho, List.lookup_cons, this]
    · by_cases ho : other = k
      · have : other ≠ key := fun h => hk (h ▸ ho)
        simp [insertBinding, hk, ho, Ne.symm hk]
      · have : (other == k) = false := by simpa using ho
        simp [insertBinding, hk, List.lookup_cons, this, ih]

@[simp] theorem get?_erase (t : Table α β) (key other : α) :
    (t.erase key).get? other = if other = key then none else t.get? other := by
  obtain ⟨bs⟩ := t
  simp only [get?, erase]
  induction bs with
  | nil => simp
  | cons b bs ih =>
    obtain ⟨k, v⟩ := b
    by_cases hk : k = key
    · subst hk
      by_cases ho : other = k
      · simp [ho] at ih ⊢
        simpa using ih
      · have : (other == k) = false := by simpa using ho
        simp [List.lookup_cons, this, ho] at ih ⊢
        simpa using ih
    · by_cases ho : other = k
      · have : other ≠ key := fun h => hk (ho ▸ h)
        simp [hk, ho]
      · have : (other == k) = false := by simpa using ho
        simp only [ne_eq, hk, not_false_eq_true, decide_true, List.filter_cons_of_pos,
          List.lookup_cons, this]
        simpa using ih

end Table

end TagCache
