import Mathlib.Data.List.Forall2
import TagCache.Proofs.Places
import TagCache.Schema.Basic

/-!
# Changes inside a decoded value

A value that decodes still decodes after one of its children has been replaced, if the replacement
decodes the way that child is read. For an object this means every field with the name of the
child; for a list, the schema of its items. The decoded value changes in that field or at that
index, and nowhere else.
-/

namespace TagCache

open Json

theorem bind_eq_ok {α β ε : Type} {x : Except ε α} {f : α → Except ε β} {b : β} :
    x >>= f = .ok b ↔ ∃ a, x = .ok a ∧ f a = .ok b := by
  cases x with
  | error e => simp [bind, Except.bind]
  | ok a => simp [bind, Except.bind]

/-! ## Lists -/

theorem mapM_eq_ok {α β ε : Type} {f : α → Except ε β} {xs : List α} {ys : List β} :
    xs.mapM f = .ok ys ↔ List.Forall₂ (fun x y => f x = .ok y) xs ys := by
  induction xs generalizing ys with
  | nil => simp [pure, Except.pure, eq_comm]
  | cons x xs ih =>
      simp only [List.mapM_cons, bind_eq_ok, ih, pure, Except.pure, Except.ok.injEq,
        List.forall₂_cons_left_iff]
      constructor
      · rintro ⟨y, hx, zs, hxs, rfl⟩
        exact ⟨y, zs, hx, hxs, rfl⟩
      · rintro ⟨y, zs, hx, hxs, rfl⟩
        exact ⟨y, hx, zs, hxs, rfl⟩

theorem forM_eq_ok {α ε : Type} {f : α → Except ε Unit} {xs : List α} :
    xs.forM f = .ok () ↔ ∀ x ∈ xs, f x = .ok () := by
  induction xs with
  | nil => simp [pure, Except.pure]
  | cons x xs ih =>
      rw [List.forM_eq_forM, List.forM_cons, ← List.forM_eq_forM, bind_eq_ok, List.forall_mem_cons]
      constructor
      · rintro ⟨_, hx, hxs⟩
        exact ⟨hx, ih.mp hxs⟩
      · rintro ⟨hx, hxs⟩
        exact ⟨(), hx, ih.mpr hxs⟩

theorem decode_list_eq_ok {α : Type} {s : Schema α} {j : Json} {as : List α} :
    (Schema.list s).decode j = .ok as ↔
      ∃ xs, j = .arr xs ∧ List.Forall₂ (fun x a => s.decode x = .ok a) xs as := by
  cases j with
  | arr xs =>
      change xs.mapM (fun x => s.decode x) = .ok as ↔ _
      simpa using mapM_eq_ok
  | _ =>
      -- nothing else is a list
      constructor
      · exact fun h => nomatch h
      · exact fun ⟨_, h, _⟩ => nomatch h

/-- An item may be replaced by whatever decodes as an item. -/
theorem decode_list_set {α : Type} {s : Schema α} {xs : List Json} {as : List α}
    (h : (Schema.list s).decode (.arr xs) = .ok as) (i : Nat) {v : Json} {a : α}
    (hv : s.decode v = .ok a) : (Schema.list s).decode (.arr (xs.set i v)) = .ok (as.set i a) := by
  obtain ⟨_, hxs, hall⟩ := decode_list_eq_ok.mp h
  obtain rfl := Json.arr.inj hxs
  refine decode_list_eq_ok.mpr ⟨_, rfl, ?_⟩
  clear h hxs
  induction hall generalizing i with
  | nil => exact .nil
  | cons hx hrest ih =>
      cases i with
      | zero => exact .cons hv hrest
      | succ i => exact .cons hx (ih i)

/-! ## Records -/

/-- Every field with this name can be read from the value. -/
def Shape.Reads : {τ : Type} → Shape τ → String → Json → Prop
  | _, .done, _, _ => True
  | _, .field n s _ rest, name, v => (name = n → ∃ a, s.decode v = .ok a) ∧ rest.Reads name v

/-- The fields `as'` are the fields `as`, but those with this name have been read from the value. -/
def Shape.Revised : {τ : Type} → Shape τ → String → Json → τ → τ → Prop
  | _, .done, _, _, _, _ => True
  | _, .field n s _ rest, name, v, (a, as), (a', as') =>
    (if name = n then s.decode v = .ok a' else a' = a) ∧ rest.Revised name v as as'

theorem collect_field {α τ : Type} {n : String} {s : Schema α} {absence : Absence α}
    {rest : Shape τ} {ms : Members} {a : α} {as : τ} :
    (Shape.field n s absence rest).collect ms = .ok (a, as) ↔
      (match ms.get? n with
        | some v => s.decode v = .ok a
        | none => absence.inObject = some a) ∧ rest.collect ms = .ok as := by
  rw [Shape.collect]
  cases ms.get? n with
  | some v => simp [bind_eq_ok, pure, Except.pure]
  | none =>
      cases absence.inObject with
      | some b => simp [bind_eq_ok, pure, Except.pure, and_comm]
      | none => simp [bind_eq_ok]

/-- The fields of a name have been read from what stands under it. -/
theorem revised_of_collect {ms : Members} {name : String} {v : Json}
    (hget : ms.get? name = some v) :
    ∀ {τ : Type} {shape : Shape τ} {t : τ}, shape.collect ms = .ok t → shape.Revised name v t t
  | _, .done, _, _ => trivial
  | _, .field n s absence rest, (a, as), h => by
    obtain ⟨ha, hrest⟩ := collect_field.mp h
    refine ⟨?_, revised_of_collect hget hrest⟩
    split
    · rename_i hname
      rw [← hname, hget] at ha
      exact ha
    · rfl

theorem check_of_reads {name : String} {v : Json} :
    ∀ {τ : Type} {shape : Shape τ}, shape.Reads name v → shape.check name v = .ok ()
  | _, .done, _ => rfl
  | _, .field n s _ rest, h => by
    obtain ⟨hhere, hrest⟩ := h
    rw [Shape.check]
    split
    · rename_i hname
      obtain ⟨a, ha⟩ := hhere hname
      rw [ha]
      rfl
    · exact check_of_reads hrest

/-- The fields after a member has got a value that can be read. -/
theorem collect_put {ms : Members} {name : String} {v w : Json} (hget : ms.get? name = some w) :
    ∀ {τ : Type} {shape : Shape τ} {t : τ}, shape.collect ms = .ok t → shape.Reads name v →
      ∃ t', shape.collect (ms.put name v) = .ok t' ∧ shape.Revised name v t t'
  | _, .done, _, _, _ => ⟨(), rfl, trivial⟩
  | _, .field n s absence rest, (a, as), h, hreads => by
    obtain ⟨hhere, hthere⟩ := hreads
    obtain ⟨ha, hrest⟩ := collect_field.mp h
    obtain ⟨as', has', hrevised⟩ := collect_put hget hrest hthere
    by_cases hname : name = n
    · subst hname
      obtain ⟨a', ha'⟩ := hhere rfl
      refine ⟨(a', as'), collect_field.mpr ⟨?_, has'⟩, ?_, hrevised⟩
      · rw [Members.get?_put, if_pos rfl, hget]
        exact ha'
      · rw [if_pos rfl]
        exact ha'
    · refine ⟨(a, as'), collect_field.mpr ⟨?_, has'⟩, ?_, hrevised⟩
      · rw [Members.get?_put, if_neg (Ne.symm hname)]
        exact ha
      · rw [if_neg hname]

theorem decode_record_eq_ok {α τ : Type} {label : String} {shape : Shape τ} {make : τ → α}
    {parts : α → τ} {ms : Members} {r : α} :
    (Schema.record label shape make parts).decode (.obj ms) = .ok r ↔
      (∀ m ∈ ms, shape.check m.1 m.2 = .ok ()) ∧ ∃ t, shape.collect ms = .ok t ∧ make t = r := by
  change (ms.forM (fun m => shape.check m.1 m.2) >>= fun _ =>
    shape.collect ms >>= fun t => pure (make t)) = .ok r ↔ _
  simp only [bind_eq_ok]
  constructor
  · rintro ⟨⟨⟩, hcheck, t, ht, hr⟩
    exact ⟨forM_eq_ok.mp hcheck, t, ht, Except.ok.inj hr⟩
  · rintro ⟨hcheck, t, ht, rfl⟩
    exact ⟨(), forM_eq_ok.mpr hcheck, t, ht, rfl⟩

theorem Json.Members.mem_put {ms : Members} {name : String} {v : Json} {m : String × Json}
    (h : m ∈ ms.put name v) : m ∈ ms ∨ m = (name, v) := by
  induction ms with
  | nil => exact absurd h (by simp [Members.put])
  | cons first ms ih =>
      obtain ⟨k, x⟩ := first
      rw [Members.put] at h
      split at h
      · rename_i hk
        rcases List.mem_cons.mp h with rfl | h
        · exact .inr (by rw [hk])
        · exact .inl (List.mem_cons_of_mem _ h)
      · rcases List.mem_cons.mp h with rfl | h
        · exact .inl List.mem_cons_self
        · exact (ih h).imp_left (List.mem_cons_of_mem _)

/-- **A member of an object may be replaced by whatever its field reads.** -/
theorem decode_record_put {α τ : Type} {label : String} {shape : Shape τ} {make : τ → α}
    {parts : α → τ} {ms : Members} {r : α} {name : String} {v w : Json}
    (h : (Schema.record label shape make parts).decode (.obj ms) = .ok r)
    (hget : ms.get? name = some w) (hreads : shape.Reads name v) :
    ∃ t t', make t = r ∧ shape.Revised name v t t' ∧
      (Schema.record label shape make parts).decode (.obj (ms.put name v)) = .ok (make t') := by
  obtain ⟨hcheck, t, ht, rfl⟩ := decode_record_eq_ok.mp h
  obtain ⟨t', ht', hrevised⟩ := collect_put hget ht hreads
  refine ⟨t, t', rfl, hrevised, decode_record_eq_ok.mpr ⟨fun m hm => ?_, t', ht', rfl⟩⟩
  rcases Members.mem_put hm with hm | rfl
  · exact hcheck m hm
  · exact check_of_reads hreads

/-- The fields of a decoded object with the name of a member have been read from the member. -/
theorem revised_of_decode {α τ : Type} {label : String} {shape : Shape τ} {make : τ → α}
    {parts : α → τ} {ms : Members} {r : α} {name : String} {v : Json}
    (h : (Schema.record label shape make parts).decode (.obj ms) = .ok r)
    (hget : ms.get? name = some v) : ∃ t, make t = r ∧ shape.Revised name v t t := by
  obtain ⟨_, t, ht, hmake⟩ := decode_record_eq_ok.mp h
  exact ⟨t, hmake, revised_of_collect hget ht⟩

end TagCache
