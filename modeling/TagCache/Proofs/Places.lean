import TagCache.Json.Pointer

/-!
# Replacing values at places of a document

What `set?` does to a document, said by what `at?` finds afterwards and by what a second `set?`
does. Replacing a value at a place twice is replacing it once; putting back what was there changes
nothing; and at two places of which neither is inside the other, replacements do not see each other
and may be exchanged.

An object and a list are not told apart above their first section. Both have children under tokens,
and a token names at most one child, a list's because an index is spelled in one way only.
-/

namespace TagCache.Json

/-! ## The spelling of an index -/

namespace Pointer

/-- The number that a digit stands for. -/
def digit (c : Char) : Nat := c.toNat - '0'.toNat

theorem isDigit_iff {c : Char} : c.isDigit = true ↔ 48 ≤ c.toNat ∧ c.toNat ≤ 57 := by
  simp only [Char.isDigit, Bool.and_eq_true, decide_eq_true_eq, ge_iff_le, UInt32.le_iff_toNat_le]
  exact Iff.rfl

theorem digit_lt {c : Char} (h : c.isDigit = true) : digit c < 10 := by
  have hc := isDigit_iff.mp h
  change c.toNat - 48 < 10
  omega

theorem toDigits_digit {c : Char} (h : c.isDigit = true) : Nat.toDigits 10 (digit c) = [c] := by
  have hc := isDigit_iff.mp h
  rw [Nat.toDigits_of_lt_base (digit_lt h), List.cons.injEq, ← Char.toNat_inj,
    Nat.toNat_digitChar_of_lt_ten (digit_lt h)]
  refine ⟨?_, rfl⟩
  change 48 + (c.toNat - 48) = c.toNat
  omega

/-- Digits behind the spelling of a number go on spelling a number. -/
theorem toDigits_append {cs : List Char} (h : ∀ c ∈ cs, c.isDigit = true) {n : Nat} (hn : 0 < n) :
    Nat.toDigits 10 n ++ cs =
      Nat.toDigits 10 (cs.foldl (fun n d => n * 10 + (d.toNat - '0'.toNat)) n) := by
  induction cs generalizing n with
  | nil => rw [List.append_nil, List.foldl_nil]
  | cons c cs ih =>
      have hc : c.isDigit = true := h c List.mem_cons_self
      have hnext : Nat.toDigits 10 n ++ [c] = Nat.toDigits 10 (n * 10 + digit c) := by
        rw [← toDigits_digit hc, Nat.toDigits_append_toDigits (by omega) hn (digit_lt hc),
          Nat.mul_comm]
      calc Nat.toDigits 10 n ++ c :: cs
          = (Nat.toDigits 10 n ++ [c]) ++ cs := by rw [List.append_assoc]; rfl
        _ = Nat.toDigits 10 (n * 10 + digit c) ++ cs := by rw [hnext]
        _ = _ := ih (fun d hd => h d (List.mem_cons_of_mem _ hd)) (by omega)

/-- A token that names an index is its decimal spelling. -/
theorem toList_of_index? {token : String} {i : Nat} (h : index? token = some i) :
    token.toList = Nat.toDigits 10 i := by
  unfold index? at h
  split at h
  · rename_i htoken
    rw [htoken, ← Option.some.inj h]
    rfl
  · rename_i c cs _ htoken
    split at h
    · rename_i hdigits
      rw [Bool.and_eq_true, List.all_eq_true, List.forall_mem_cons] at hdigits
      obtain ⟨hhead, hc, hcs⟩ := hdigits
      -- the first digit is a number above zero, which the others continue
      have hpos : 0 < digit c := by
        have hlow := (isDigit_iff.mp hc).1
        have hne : c.toNat ≠ 48 := fun heq => of_decide_eq_true hhead (Char.toNat_inj.mp heq)
        change 0 < c.toNat - 48
        omega
      have hspelled := toDigits_append hcs hpos
      rw [toDigits_digit hc] at hspelled
      rw [htoken, ← Option.some.inj h, List.foldl_cons, Nat.zero_mul, Nat.zero_add]
      exact hspelled
    · exact absurd h (by simp)
  · exact absurd h (by simp)

/-- An index has one spelling. -/
theorem index?_injective {t u : String} {i : Nat} (ht : index? t = some i)
    (hu : index? u = some i) : t = u :=
  String.toList_inj.mp ((toList_of_index? ht).trans (toList_of_index? hu).symm)

/-- The digits of a number begin with a zero only if it is their only digit. -/
theorem head?_toDigits {i : Nat} (h : i ≠ 0) : (Nat.toDigits 10 i).head? ≠ some '0' := by
  induction i using Nat.strongRecOn with
  | ind i ih =>
      rcases Nat.lt_or_ge i 10 with hsmall | hlarge
      · rw [Nat.toDigits_of_lt_base hsmall, List.head?_cons]
        intro hzero
        exact h (Nat.digitChar_eq_zero.mp (Option.some.inj hzero))
      · rw [Nat.toDigits_of_base_le (by omega) hlarge, List.head?_append]
        have hfront := ih (i / 10) (by omega) (by omega)
        cases hlist : Nat.toDigits 10 (i / 10) with
        | nil => exact absurd hlist Nat.toDigits_ne_nil
        | cons c cs =>
            rw [hlist] at hfront
            exact hfront

/-- An index is named by its decimal digits. -/
theorem index?_toString (i : Nat) : index? (toString i) = some i := by
  have hspelled : (toString i).toList = Nat.toDigits 10 i := Nat.toList_repr
  by_cases hi : i = 0
  · rw [hi]
    decide
  · -- any other number is read by the second case, which wants no zero in front
    have hhead := head?_toDigits hi
    have hdigits : (Nat.toDigits 10 i).all Char.isDigit = true :=
      List.all_eq_true.mpr fun c hc => Nat.isDigit_of_mem_toDigits (by omega) (by omega) hc
    have hvalue : (Nat.toDigits 10 i).foldl (fun n d => n * 10 + (d.toNat - '0'.toNat)) 0 = i := by
      simp only [Nat.mul_comm _ 10, ← Nat.ofDigitChars_eq_foldl]
      exact Nat.ofDigitChars_ten_toDigits
    unfold index?
    rw [hspelled]
    split
    · rename_i hzero
      rw [hzero] at hhead
      exact absurd rfl hhead
    · rename_i c cs _ hlist
      rw [hlist] at hhead hdigits hvalue
      have hc : c ≠ '0' := fun hc => hhead (by rw [hc]; rfl)
      rw [if_pos (by simp [hc, hdigits]), hvalue]
    · rename_i hnil
      exact absurd hnil Nat.toDigits_ne_nil

/-- A token names an index if and only if it is its decimal spelling. -/
theorem index?_eq_some_iff {t : String} {i : Nat} : index? t = some i ↔ t = toString i := by
  constructor
  · exact fun h => index?_injective h (index?_toString i)
  · rintro rfl
    exact index?_toString i

end Pointer

/-! ## Children -/

/-- The members with the value of the first member of this key replaced. -/
def Members.put (key : String) (v : Json) : Members → Members
  | [] => []
  | (k, w) :: ms => if key = k then (k, v) :: ms else (k, w) :: Members.put key v ms

/-- The value under a token. -/
def child? (j : Json) (t : String) : Option Json :=
  match j with
  | obj ms => Members.get? ms t
  | arr xs => (Pointer.index? t).bind fun i => xs[i]?
  | _ => none

/-- The document with the value under a token replaced. -/
def putChild (j : Json) (t : String) (v : Json) : Json :=
  match j with
  | obj ms => obj (Members.put t v ms)
  | arr xs => match Pointer.index? t with
    | some i => arr (xs.set i v)
    | none => arr xs
  | j => j

theorem Members.get?_cons (k : String) (w : Json) (ms : Members) (key : String) :
    Members.get? ((k, w) :: ms) key = if key = k then some w else Members.get? ms key := by
  unfold Members.get?
  rw [List.lookup_cons]
  by_cases hk : key = k
  · rw [if_pos hk, hk, beq_self_eq_true]
  · rw [if_neg hk, beq_false_of_ne hk]

theorem Members.modify?_eq (key : String) (f : Json → Option Json) (ms : Members) :
    Members.modify? key f ms =
      (Members.get? ms key).bind fun v => (f v).map fun v => Members.put key v ms := by
  induction ms with
  | nil => rfl
  | cons m ms ih =>
      obtain ⟨k, w⟩ := m
      rw [Members.get?_cons]
      by_cases hk : key = k
      · simp only [Members.modify?, Members.put, if_pos hk, Option.bind_some]
      · simp only [Members.modify?, Members.put, if_neg hk, ih, Option.map_bind, Option.map_map,
          Function.comp_def]

theorem modifyItem?_eq (f : Json → Option Json) (i : Nat) (xs : List Json) :
    modifyItem? f i xs = xs[i]?.bind fun v => (f v).map fun v => xs.set i v := by
  induction xs generalizing i with
  | nil => simp [modifyItem?]
  | cons x xs ih =>
      cases i with
      | zero => rfl
      | succ i =>
          simp only [modifyItem?, ih, List.getElem?_cons_succ, List.set_cons_succ, Option.map_bind,
            Option.map_map, Function.comp_def]

theorem at?_cons (j : Json) (t : String) (ts : List String) :
    j.at? (t :: ts) = (j.child? t).bind fun v => v.at? ts := by
  cases j with
  | arr xs => simp only [at?, child?, bind, Option.bind_assoc]
  | _ => rfl

theorem set?_cons (new : Json) (t : String) (ts : List String) (j : Json) :
    set? new (t :: ts) j = (j.child? t).bind fun v => (set? new ts v).map (j.putChild t) := by
  cases j with
  | obj ms =>
      simp only [set?, child?, Members.modify?_eq, Option.map_bind, Option.map_map,
        Function.comp_def]
      rfl
  | arr xs =>
      simp only [set?, child?, modifyItem?_eq, bind]
      cases hi : Pointer.index? t with
      | none => rfl
      | some i =>
          have hput : (arr xs).putChild t = fun v => arr (xs.set i v) := by
            funext v
            simp only [putChild, hi]
          rw [hput]
          simp only [Option.bind_some, Option.map_bind, Option.map_map, Function.comp_def]
  | _ => rfl

@[simp] theorem at?_nil (j : Json) : j.at? [] = some j := by
  cases j with
  | _ => rfl

@[simp] theorem set?_nil (new j : Json) : set? new [] j = some new := by
  cases j with
  | _ => rfl

/-! ### What was put is found, and nothing else has moved -/

theorem Members.get?_put (key other : String) (v : Json) (ms : Members) :
    Members.get? (Members.put key v ms) other =
      if other = key then (Members.get? ms key).map fun _ => v else Members.get? ms other := by
  induction ms with
  | nil => simp [Members.put, Members.get?]
  | cons m ms ih =>
      obtain ⟨k, w⟩ := m
      by_cases hk : key = k
      · subst hk
        simp only [Members.put, if_true, Members.get?_cons, Option.map_some]
        split
        · rfl
        · rfl
      · simp only [Members.put, if_neg hk, Members.get?_cons, ih]
        by_cases ho : other = key
        · subst ho
          simp only [if_neg hk, if_true]
        · simp only [if_neg ho]

theorem Members.put_put (key : String) (v w : Json) (ms : Members) :
    Members.put key w (Members.put key v ms) = Members.put key w ms := by
  induction ms with
  | nil => rfl
  | cons m ms ih =>
      obtain ⟨k, x⟩ := m
      by_cases hk : key = k
      · simp only [Members.put, if_pos hk]
      · simp only [Members.put, if_neg hk, ih]

theorem Members.put_comm {key other : String} (h : key ≠ other) (v w : Json) (ms : Members) :
    Members.put other w (Members.put key v ms) = Members.put key v (Members.put other w ms) := by
  induction ms with
  | nil => rfl
  | cons m ms ih =>
      obtain ⟨k, x⟩ := m
      by_cases hk : key = k
      · have ho : other ≠ k := fun ho => h (hk.trans ho.symm)
        simp only [Members.put, if_pos hk, if_neg ho]
      · by_cases ho : other = k
        · simp only [Members.put, if_neg hk, if_pos ho]
        · simp only [Members.put, if_neg hk, if_neg ho, ih]

theorem Members.put_get? {key : String} {v : Json} {ms : Members}
    (h : Members.get? ms key = some v) : Members.put key v ms = ms := by
  induction ms with
  | nil => rfl
  | cons m ms ih =>
      obtain ⟨k, x⟩ := m
      rw [Members.get?_cons] at h
      by_cases hk : key = k
      · rw [if_pos hk] at h
        simp only [Members.put, if_pos hk, Option.some.inj h]
      · rw [if_neg hk] at h
        simp only [Members.put, if_neg hk, ih h]

theorem child?_putChild (j : Json) (t : String) (v : Json) :
    (j.putChild t v).child? t = (j.child? t).map fun _ => v := by
  cases j with
  | obj ms => simp only [putChild, child?, Members.get?_put, if_true]
  | arr xs =>
      unfold putChild
      cases hi : Pointer.index? t with
      | none => simp [child?, hi]
      | some i =>
          simp only [child?, hi, Option.bind_some, List.getElem?_set_self']
          rfl
  | _ => rfl

theorem child?_putChild_ne {t u : String} (h : t ≠ u) (j : Json) (v : Json) :
    (j.putChild t v).child? u = j.child? u := by
  cases j with
  | obj ms => simp only [putChild, child?, Members.get?_put, if_neg h.symm]
  | arr xs =>
      unfold putChild
      cases hi : Pointer.index? t with
      | none => rfl
      | some i =>
          simp only [child?]
          cases hk : Pointer.index? u with
          | none => rfl
          | some k =>
              have hne : i ≠ k := fun heq => h (Pointer.index?_injective hi (heq ▸ hk))
              simp only [Option.bind_some, List.getElem?_set_ne hne]
  | _ => rfl

theorem putChild_putChild (j : Json) (t : String) (v w : Json) :
    (j.putChild t v).putChild t w = j.putChild t w := by
  cases j with
  | obj ms => simp only [putChild, Members.put_put]
  | arr xs =>
      cases hi : Pointer.index? t with
      | none => simp only [putChild, hi]
      | some i => simp only [putChild, hi, List.set_set]
  | _ => rfl

theorem putChild_comm {t u : String} (h : t ≠ u) (j v w : Json) :
    (j.putChild t v).putChild u w = (j.putChild u w).putChild t v := by
  cases j with
  | obj ms => simp only [putChild, Members.put_comm h]
  | arr xs =>
      cases hi : Pointer.index? t with
      | none =>
          cases hk : Pointer.index? u with
          | none => simp only [putChild, hi, hk]
          | some k => simp only [putChild, hi, hk]
      | some i =>
          cases hk : Pointer.index? u with
          | none => simp only [putChild, hi, hk]
          | some k =>
              have hne : i ≠ k := fun heq => h (Pointer.index?_injective hi (heq ▸ hk))
              simp only [putChild, hi, hk, List.set_comm v w hne]
  | _ => rfl

theorem putChild_child? {j v : Json} {t : String} (h : j.child? t = some v) :
    j.putChild t v = j := by
  cases j with
  | obj ms => simp only [putChild, Members.put_get? h]
  | arr xs =>
      unfold child? at h
      cases hi : Pointer.index? t with
      | none => simp only [putChild, hi]
      | some i =>
          simp only [hi, Option.bind_some] at h
          obtain ⟨hlt, hv⟩ := List.getElem?_eq_some_iff.mp h
          simp only [putChild, hi, ← hv, List.set_getElem_self]
  | _ => rfl

/-! ## Places -/

/-- Neither place is inside the other. -/
def Apart (ts us : List String) : Prop := ¬ ts <+: us ∧ ¬ us <+: ts

instance (ts us : List String) : Decidable (Apart ts us) := inferInstanceAs (Decidable (_ ∧ _))

theorem Apart.symm {ts us : List String} (h : Apart ts us) : Apart us ts := ⟨h.2, h.1⟩

theorem not_apart_nil (us : List String) : ¬ Apart [] us := fun h => h.1 us.nil_prefix

/-- Places that begin alike are apart further down. -/
theorem apart_cons {t u : String} {ts us : List String} (h : Apart (t :: ts) (u :: us)) :
    t ≠ u ∨ Apart ts us := by
  by_cases ht : t = u
  · subst ht
    refine Or.inr ⟨fun hp => h.1 ?_, fun hp => h.2 ?_⟩
    · exact List.cons_prefix_cons.mpr ⟨rfl, hp⟩
    · exact List.cons_prefix_cons.mpr ⟨rfl, hp⟩
  · exact Or.inl ht

section

variable {a b j j' old : Json} {t : String} {ts us : List String}

theorem set?_cons_eq_some : set? a (t :: ts) j = some j' ↔
    ∃ v v', j.child? t = some v ∧ set? a ts v = some v' ∧ j' = j.putChild t v' := by
  rw [set?_cons]
  constructor
  · intro h
    obtain ⟨v, hv, h⟩ := Option.bind_eq_some_iff.mp h
    obtain ⟨v', hv', h⟩ := Option.map_eq_some_iff.mp h
    exact ⟨v, v', hv, hv', h.symm⟩
  · rintro ⟨v, v', hv, hv', rfl⟩
    rw [hv, Option.bind_some, hv', Option.map_some]

theorem at?_cons_eq_some : j.at? (t :: ts) = some old ↔
    ∃ v, j.child? t = some v ∧ v.at? ts = some old := by
  rw [at?_cons, Option.bind_eq_some_iff]

theorem child?_putChild_of_some {v w : Json} (h : j.child? t = some v) :
    (j.putChild t w).child? t = some w := by
  rw [child?_putChild, h, Option.map_some]

/-- A value can be put where there is one, and nowhere else. -/
theorem exists_set?_iff : (∃ j', set? a ts j = some j') ↔ ∃ old, j.at? ts = some old := by
  induction ts generalizing j with
  | nil => exact ⟨fun _ => ⟨j, at?_nil j⟩, fun _ => ⟨a, set?_nil a j⟩⟩
  | cons t ts ih =>
      constructor
      · rintro ⟨j', h⟩
        obtain ⟨v, v', hv, hset, _⟩ := set?_cons_eq_some.mp h
        obtain ⟨old, hold⟩ := ih.mp ⟨v', hset⟩
        exact ⟨old, at?_cons_eq_some.mpr ⟨v, hv, hold⟩⟩
      · rintro ⟨old, h⟩
        obtain ⟨v, hv, hat⟩ := at?_cons_eq_some.mp h
        obtain ⟨v', hv'⟩ := ih.mpr ⟨old, hat⟩
        exact ⟨_, set?_cons_eq_some.mpr ⟨v, v', hv, hv', rfl⟩⟩

/-- What was put is found. -/
theorem at?_set? (h : set? a ts j = some j') : j'.at? ts = some a := by
  induction ts generalizing j j' with
  | nil =>
      rw [set?_nil] at h
      rw [at?_nil, h]
  | cons t ts ih =>
      obtain ⟨v, v', hv, hset, rfl⟩ := set?_cons_eq_some.mp h
      exact at?_cons_eq_some.mpr ⟨v', child?_putChild_of_some hv, ih hset⟩

/-- Only the last value put at a place counts. -/
theorem set?_set? (h : set? a ts j = some j') : set? b ts j' = set? b ts j := by
  induction ts generalizing j j' with
  | nil => rw [set?_nil, set?_nil]
  | cons t ts ih =>
      obtain ⟨v, v', hv, hset, rfl⟩ := set?_cons_eq_some.mp h
      have hput : (j.putChild t v').putChild t = j.putChild t := by
        funext w
        exact putChild_putChild j t v' w
      rw [set?_cons, set?_cons, child?_putChild_of_some hv, hv, Option.bind_some, Option.bind_some,
        ih hset, hput]

/-- Putting what is there changes nothing. -/
theorem set?_at? (h : j.at? ts = some old) : set? old ts j = some j := by
  induction ts generalizing j with
  | nil =>
      rw [at?_nil] at h
      rw [set?_nil, h]
  | cons t ts ih =>
      obtain ⟨v, hv, hat⟩ := at?_cons_eq_some.mp h
      exact set?_cons_eq_some.mpr ⟨v, v, hv, ih hat, (putChild_child? hv).symm⟩

/-- What is apart from a place does not see what is put there. -/
theorem at?_set?_of_apart (h : set? a ts j = some j') (hapart : Apart ts us) :
    j'.at? us = j.at? us := by
  induction ts generalizing us j j' with
  | nil => exact absurd hapart (not_apart_nil us)
  | cons t ts ih =>
      cases us with
      | nil => exact absurd hapart.symm (not_apart_nil _)
      | cons u us =>
          obtain ⟨v, v', hv, hset, rfl⟩ := set?_cons_eq_some.mp h
          rw [at?_cons, at?_cons]
          by_cases ht : t = u
          · subst ht
            have hrest : Apart ts us := (apart_cons hapart).resolve_left fun hne => hne rfl
            rw [child?_putChild_of_some hv, hv, Option.bind_some, Option.bind_some, ih hset hrest]
          · rw [child?_putChild_ne ht]

/-- Values put at places that are apart may be put in either order. -/
theorem set?_comm {j₁ j₂ : Json} (ha : set? a ts j = some j₁) (hb : set? b us j₁ = some j₂)
    (hapart : Apart ts us) : ∃ j₁', set? b us j = some j₁' ∧ set? a ts j₁' = some j₂ := by
  induction ts generalizing us j j₁ j₂ with
  | nil => exact absurd hapart (not_apart_nil us)
  | cons t ts ih =>
      cases us with
      | nil => exact absurd hapart.symm (not_apart_nil _)
      | cons u us =>
          obtain ⟨v, v₁, hv, hseta, rfl⟩ := set?_cons_eq_some.mp ha
          obtain ⟨w, w₁, hw, hsetb, rfl⟩ := set?_cons_eq_some.mp hb
          by_cases ht : t = u
          · -- both are below one child, and are exchanged there
            subst ht
            have hrest : Apart ts us := (apart_cons hapart).resolve_left fun hne => hne rfl
            rw [child?_putChild_of_some hv] at hw
            obtain rfl := Option.some.inj hw
            obtain ⟨v₁', hb', ha'⟩ := ih hseta hsetb hrest
            refine ⟨j.putChild t v₁', set?_cons_eq_some.mpr ⟨v, v₁', hv, hb', rfl⟩, ?_⟩
            refine set?_cons_eq_some.mpr ⟨v₁', w₁, child?_putChild_of_some hv, ha', ?_⟩
            rw [putChild_putChild, putChild_putChild]
          · rw [child?_putChild_ne ht] at hw
            refine ⟨j.putChild u w₁, set?_cons_eq_some.mpr ⟨w, w₁, hw, hsetb, rfl⟩, ?_⟩
            refine set?_cons_eq_some.mpr ⟨v, v₁, ?_, hseta, putChild_comm ht j v₁ w₁⟩
            rw [child?_putChild_ne (Ne.symm ht), hv]

end

end TagCache.Json
