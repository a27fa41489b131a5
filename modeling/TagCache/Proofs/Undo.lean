import Mathlib.Data.List.Basic
import TagCache.Patch
import TagCache.Proofs.Places

/-!
# Patches and what undoes them

A patch that was applied comes with the patch that undoes it. Undoing gives back the document
exactly, and the patch.

The two need not follow each other at once. A patch may be undone after others have been applied,
and none of it matters as long as the places are apart: patches on places that are apart apply or
fail regardless of each other, replace the same values, and lead to the same document in either
order.
-/

namespace TagCache

/-! ## One replacement -/

namespace Replacement

/-- The two replacements are at places that are apart. -/
def Apart (a b : Replacement) : Prop :=
  ∀ ts ∈ Json.Pointer.tokens? a.path, ∀ us ∈ Json.Pointer.tokens? b.path, Json.Apart ts us

instance (a b : Replacement) : Decidable (a.Apart b) :=
  inferInstanceAs (Decidable (∀ _ ∈ _, ∀ _ ∈ _, _))

theorem Apart.symm {a b : Replacement} (h : a.Apart b) : b.Apart a :=
  fun ts hts us hus => (h us hus ts hts).symm

variable {a b : Replacement} {d d₁ d₂ old : Json}

theorem replaced_iff : a.apply? d = some (d₁, old) ↔
    ∃ ts, Json.Pointer.tokens? a.path = some ts ∧ d.at? ts = some old ∧
      Json.set? a.value ts d = some d₁ := by
  unfold Replacement.apply?
  simp only [bind, pure, Option.bind_eq_some_iff, Option.some.injEq, Prod.mk.injEq]
  constructor
  · rintro ⟨ts, hts, v, hv, new, hnew, rfl, rfl⟩
    exact ⟨ts, hts, hv, hnew⟩
  · rintro ⟨ts, hts, hold, hset⟩
    exact ⟨ts, hts, old, hold, d₁, hset, rfl, rfl⟩

/-- Putting the old value back undoes a replacement, and is undone by it. -/
theorem replaced_undo (h : a.apply? d = some (d₁, old)) :
    Replacement.apply? ⟨a.path, old⟩ d₁ = some (d, a.value) := by
  obtain ⟨ts, hts, hold, hset⟩ := replaced_iff.mp h
  refine replaced_iff.mpr ⟨ts, hts, Json.at?_set? hset, ?_⟩
  rw [Json.set?_set? hset]
  exact Json.set?_at? hold

/-- Replacements that are apart close the square. -/
theorem replaced_square {old₁ old₂ : Json} (hapart : a.Apart b) (ha : a.apply? d = some (d₁, old₁))
    (hb : b.apply? d = some (d₂, old₂)) :
    ∃ d₃, a.apply? d₂ = some (d₃, old₁) ∧ b.apply? d₁ = some (d₃, old₂) := by
  obtain ⟨ts, hts, hold₁, hset₁⟩ := replaced_iff.mp ha
  obtain ⟨us, hus, hold₂, hset₂⟩ := replaced_iff.mp hb
  have hplaces := hapart ts hts us hus
  have hthere : d₁.at? us = some old₂ := (Json.at?_set?_of_apart hset₁ hplaces).trans hold₂
  obtain ⟨d₃, hset₃⟩ := (Json.exists_set?_iff (a := b.value)).mpr ⟨old₂, hthere⟩
  obtain ⟨e, he, hset₃'⟩ := Json.set?_comm hset₁ hset₃ hplaces
  rw [hset₂] at he
  obtain rfl := Option.some.inj he
  have hthere' : d₂.at? ts = some old₁ := (Json.at?_set?_of_apart hset₂ hplaces.symm).trans hold₁
  exact ⟨d₃, replaced_iff.mpr ⟨ts, hts, hthere', hset₃'⟩,
    replaced_iff.mpr ⟨us, hus, hthere, hset₃⟩⟩

end Replacement

/-! ## Patches -/

namespace Patch

section

variable {op : Replacement} {ops qs : List Replacement} {inverse : List Replacement}
  {d d' d₁ d₂ : Json}

theorem applyOps_cons : applyOps (op :: ops) d = .ok (d', inverse) ↔
    ∃ d₁ old rest, op.apply? d = some (d₁, old) ∧ applyOps ops d₁ = .ok (d', rest) ∧
      inverse = rest ++ [⟨op.path, old⟩] := by
  rw [applyOps]
  cases hop : op.apply? d with
  | none => simp
  | some r =>
      obtain ⟨d₁, old⟩ := r
      cases hops : applyOps ops d₁ with
      | error e => simp [bind, Except.bind, hops]
      | ok r =>
          obtain ⟨d₂, rest⟩ := r
          simp [bind, Except.bind, pure, Except.pure, hops, eq_comm]

theorem applyOps_append {rest rest' : List Replacement} (h : applyOps ops d = .ok (d₁, rest))
    (h' : applyOps qs d₁ = .ok (d', rest')) :
    applyOps (ops ++ qs) d = .ok (d', rest' ++ rest) := by
  induction ops generalizing d rest with
  | nil =>
      obtain ⟨rfl, rfl⟩ : d = d₁ ∧ [] = rest := by simpa [applyOps] using h
      rw [List.append_nil]
      exact h'
  | cons op ops ih =>
      obtain ⟨d₀, old, tail, hop, hops, rfl⟩ := applyOps_cons.mp h
      refine applyOps_cons.mpr ⟨d₀, old, rest' ++ tail, hop, ih hops, ?_⟩
      rw [List.append_assoc]

/-- Undoing a list of replacements gives back the document and the replacements. -/
theorem applyOps_undo (h : applyOps ops d = .ok (d', inverse)) :
    applyOps inverse d' = .ok (d, ops) := by
  induction ops generalizing d inverse with
  | nil =>
      obtain ⟨rfl, rfl⟩ : d = d' ∧ [] = inverse := by simpa [applyOps] using h
      rfl
  | cons op ops ih =>
      obtain ⟨d₁, old, rest, hop, hops, rfl⟩ := applyOps_cons.mp h
      have hlast : applyOps [⟨op.path, old⟩] d₁ = .ok (d, [op]) :=
        applyOps_cons.mpr ⟨d, op.value, [], Replacement.replaced_undo hop, rfl, rfl⟩
      exact applyOps_append (ih hops) hlast

/-- What undoes replacements is at their places. -/
theorem path_of_mem_inverse (h : applyOps ops d = .ok (d', inverse)) :
    ∀ b ∈ inverse, ∃ a ∈ ops, a.path = b.path := by
  induction ops generalizing d inverse with
  | nil =>
      obtain ⟨_, rfl⟩ : d = d' ∧ [] = inverse := by simpa [applyOps] using h
      exact fun b hb => absurd hb (by simp)
  | cons op ops ih =>
      obtain ⟨d₁, old, rest, _, hops, rfl⟩ := applyOps_cons.mp h
      intro b hb
      rcases List.mem_append.mp hb with hb | hb
      · obtain ⟨a, ha, hpath⟩ := ih hops b hb
        exact ⟨a, List.mem_cons_of_mem _ ha, hpath⟩
      · rw [List.mem_singleton.mp hb]
        exact ⟨op, List.mem_cons_self, rfl⟩

/-- A replacement and a list of replacements apart from it close the square. -/
theorem applyOps_cons_square {old : Json} (hapart : ∀ b ∈ ops, op.Apart b)
    (hop : op.apply? d = some (d₁, old)) (hops : applyOps ops d = .ok (d₂, inverse)) :
    ∃ d₃, op.apply? d₂ = some (d₃, old) ∧ applyOps ops d₁ = .ok (d₃, inverse) := by
  induction ops generalizing d d₁ inverse with
  | nil =>
      obtain ⟨rfl, rfl⟩ : d = d₂ ∧ [] = inverse := by simpa [applyOps] using hops
      exact ⟨d₁, hop, rfl⟩
  | cons b ops ih =>
      obtain ⟨e, oldb, rest, hb, hrest, rfl⟩ := applyOps_cons.mp hops
      obtain ⟨e', hop', hb'⟩ :=
        Replacement.replaced_square (hapart b List.mem_cons_self) hop hb
      obtain ⟨d₃, hop₃, hrest₃⟩ :=
        ih (fun c hc => hapart c (List.mem_cons_of_mem _ hc)) hop' hrest
      exact ⟨d₃, hop₃, applyOps_cons.mpr ⟨e', oldb, rest, hb', hrest₃, rfl⟩⟩

/-- Lists of replacements that are apart close the square. -/
theorem applyOps_square {inverse' : List Replacement} (hapart : ∀ a ∈ ops, ∀ b ∈ qs, a.Apart b)
    (hops : applyOps ops d = .ok (d₁, inverse)) (hqs : applyOps qs d = .ok (d₂, inverse')) :
    ∃ d₃, applyOps ops d₂ = .ok (d₃, inverse) ∧ applyOps qs d₁ = .ok (d₃, inverse') := by
  induction ops generalizing d d₂ inverse with
  | nil =>
      obtain ⟨rfl, rfl⟩ : d = d₁ ∧ [] = inverse := by simpa [applyOps] using hops
      exact ⟨d₂, rfl, hqs⟩
  | cons a ops ih =>
      obtain ⟨e, old, rest, ha, hrest, rfl⟩ := applyOps_cons.mp hops
      -- the first replacement passes the whole of the other list, then the rest does
      obtain ⟨e', ha', hqs'⟩ := applyOps_cons_square (hapart a List.mem_cons_self) ha hqs
      obtain ⟨d₃, hrest₃, hqs₃⟩ :=
        ih (fun c hc => hapart c (List.mem_cons_of_mem _ hc)) hrest hqs'
      exact ⟨d₃, applyOps_cons.mpr ⟨e', old, rest, ha', hrest₃, rfl⟩, hqs₃⟩

end

/-- No replacement of one patch is inside a place of the other. -/
def Apart (p q : Patch) : Prop := ∀ a ∈ p.ops, ∀ b ∈ q.ops, a.Apart b

instance (p q : Patch) : Decidable (p.Apart q) :=
  inferInstanceAs (Decidable (∀ _ ∈ _, ∀ _ ∈ _, _))

theorem Apart.symm {p q : Patch} (h : p.Apart q) : q.Apart p :=
  fun a ha b hb => (h b hb a ha).symm

variable {p q inverse inverse' : Patch} {d d' d₁ d₂ : Json}

theorem apply_eq_ok : p.apply d = .ok (d', q) ↔ applyOps p.ops d = .ok (d', q.ops) := by
  unfold apply
  cases happly : applyOps p.ops d with
  | error e => simp [Except.map]
  | ok r =>
      obtain ⟨e, ops⟩ := r
      obtain ⟨qs⟩ := q
      simp [Except.map]

/-- One replacement, by its place. -/
theorem apply_replace {path : String} {a : Json} :
    (replace path a).apply d = .ok (d', q) ↔
      ∃ ts old, Json.Pointer.tokens? path = some ts ∧ d.at? ts = some old ∧
        Json.set? a ts d = some d' ∧ q = replace path old := by
  rw [apply_eq_ok, replace, applyOps_cons]
  constructor
  · rintro ⟨d₁, old, rest, hop, hnil, hq⟩
    obtain ⟨rfl, rfl⟩ : d₁ = d' ∧ [] = rest := by simpa [applyOps] using hnil
    obtain ⟨ts, hts, hold, hset⟩ := Replacement.replaced_iff.mp hop
    obtain ⟨ops⟩ := q
    exact ⟨ts, old, hts, hold, hset, congrArg Patch.mk hq⟩
  · rintro ⟨ts, old, hts, hold, hset, rfl⟩
    exact ⟨d', old, [], Replacement.replaced_iff.mpr ⟨ts, hts, hold, hset⟩, rfl, rfl⟩

/-- Undoing a patch gives back the document and the patch. -/
theorem apply_undo (h : p.apply d = .ok (d', q)) : q.apply d' = .ok (d, p) :=
  apply_eq_ok.mpr (applyOps_undo (apply_eq_ok.mp h))

/-- **A patch and its inverse undo each other.** Any number of replacements, at places that are
equal, inside each other or the whole document: what one of the two patches leads to, the other
leads back from, and each is the inverse that the other gives. -/
theorem apply_involution (p q : Patch) (d d' : Json) :
    p.apply d = .ok (d', q) ↔ q.apply d' = .ok (d, p) :=
  ⟨apply_undo, apply_undo⟩

/-- A place, the place above it, the document, and the place in what came instead. The values that
the inverse puts back were never together in one document. -/
example :
    let p : Patch := ⟨[⟨"/a/0", .bool true⟩, ⟨"/a", .null⟩, ⟨"", .obj [("a", .arr [])]⟩,
      ⟨"/a", .bool false⟩]⟩
    p.apply (.obj [("a", .arr [.null])]) = .ok (.obj [("a", .bool false)],
      ⟨[⟨"/a", .arr []⟩, ⟨"", .obj [("a", .null)]⟩, ⟨"/a", .arr [.bool true]⟩,
        ⟨"/a/0", .null⟩]⟩) := by
  decide

/-- What undoes a patch is apart from what the patch is apart from. -/
theorem Apart.of_apply {r : Patch} (h : p.Apart r) (happly : p.apply d = .ok (d', q)) :
    q.Apart r := by
  intro b hb c hc ts hts
  obtain ⟨a, ha, hpath⟩ := path_of_mem_inverse (apply_eq_ok.mp happly) b hb
  exact h a ha c hc ts (by rw [hpath]; exact hts)

/-- Patches that are apart close the square. -/
theorem apply_square (hapart : p.Apart q) (hp : p.apply d = .ok (d₁, inverse))
    (hq : q.apply d = .ok (d₂, inverse')) :
    ∃ d₃, p.apply d₂ = .ok (d₃, inverse) ∧ q.apply d₁ = .ok (d₃, inverse') := by
  obtain ⟨d₃, hp₃, hq₃⟩ := applyOps_square hapart (apply_eq_ok.mp hp) (apply_eq_ok.mp hq)
  exact ⟨d₃, apply_eq_ok.mpr hp₃, apply_eq_ok.mpr hq₃⟩

/-- A patch that applies after one apart from it applies before it. -/
theorem apply_before (hapart : p.Apart q) (hq : q.apply d = .ok (d₁, inverse'))
    (hp : p.apply d₁ = .ok (d₂, inverse)) : ∃ d₃, p.apply d = .ok (d₃, inverse) := by
  -- it is a square whose other side undoes `q`
  obtain ⟨d₃, hp₃, _⟩ := apply_square (hapart.symm.of_apply hq).symm hp (apply_undo hq)
  exact ⟨d₃, hp₃⟩

/-- Patches that are apart and were applied one after the other may be applied the other way
round. -/
theorem apply_swap (hapart : p.Apart q) (hp : p.apply d = .ok (d₁, inverse))
    (hq : q.apply d₁ = .ok (d', inverse')) :
    ∃ d₂, q.apply d = .ok (d₂, inverse') ∧ p.apply d₂ = .ok (d', inverse) := by
  obtain ⟨d₂, hq₂⟩ := apply_before hapart.symm hp hq
  obtain ⟨d₃, hp₃, hq₃⟩ := apply_square hapart hp hq₂
  rw [hq] at hq₃
  obtain ⟨rfl, _⟩ := Prod.mk.inj (Except.ok.inj hq₃)
  exact ⟨d₂, hq₂, hp₃⟩

/-- **Patches that are apart do not notice each other.** Each applies or fails, and gives the same
inverse, whether or not the other has been applied; the two lead to the same document in either
order; and they may be undone in the order in which they were applied. -/
theorem apply_apart (hapart : p.Apart q) (d : Json) :
    (∀ e q', q.apply d = .ok (e, q') →
      ∀ p', (∃ d₁, p.apply d = .ok (d₁, p')) ↔ ∃ e₁, p.apply e = .ok (e₁, p')) ∧
    (∀ d' p' q', (∃ d₁, p.apply d = .ok (d₁, p') ∧ q.apply d₁ = .ok (d', q')) ↔
      ∃ d₂, q.apply d = .ok (d₂, q') ∧ p.apply d₂ = .ok (d', p')) ∧
    (∀ d₁ d' p' q', p.apply d = .ok (d₁, p') → q.apply d₁ = .ok (d', q') →
      ∃ d₂, p'.apply d' = .ok (d₂, p) ∧ q'.apply d₂ = .ok (d, q)) := by
  refine ⟨fun e q' hq p' => ⟨?_, ?_⟩, fun d' p' q' => ⟨?_, ?_⟩, ?_⟩
  · rintro ⟨d₁, hp⟩
    obtain ⟨e₁, hp₁, _⟩ := apply_square hapart hp hq
    exact ⟨e₁, hp₁⟩
  · rintro ⟨e₁, hp⟩
    exact apply_before hapart hq hp
  · rintro ⟨d₁, hp, hq⟩
    exact apply_swap hapart hp hq
  · rintro ⟨d₂, hq, hp⟩
    exact apply_swap hapart.symm hq hp
  · intro d₁ d' p' q' hp hq
    obtain ⟨d₂, hq₂, hp₂⟩ := apply_swap hapart hp hq
    exact ⟨d₂, apply_undo hp₂, apply_undo hq₂⟩

/-- Several replacements each, below one list whose key is spelled with an escape; the first patch
is undone first. -/
theorem apply_apart_siblings :
    let p : Patch := ⟨[⟨"/a~1b/0", .arr []⟩, ⟨"/0", .bool true⟩, ⟨"/a~1b/0", .str "p"⟩]⟩
    let q : Patch := ⟨[⟨"/a~1b/1", .obj [("~1", .null)]⟩, ⟨"/a~1b/1/~01", .str "q"⟩]⟩
    let p' : Patch := ⟨[⟨"/a~1b/0", .arr []⟩, ⟨"/0", .null⟩, ⟨"/a~1b/0", .bool false⟩]⟩
    let q' : Patch := ⟨[⟨"/a~1b/1/~01", .null⟩, ⟨"/a~1b/1", .arr [.null]⟩]⟩
    let d : Json := .obj [("0", .null), ("a/b", .arr [.bool false, .arr [.null]])]
    let d' : Json :=
      .obj [("0", .bool true), ("a/b", .arr [.str "p", .obj [("~1", .str "q")]])]
    p.Apart q ∧ (∃ d₁, p.apply d = .ok (d₁, p') ∧ q.apply d₁ = .ok (d', q')) ∧
      ∃ d₂, p'.apply d' = .ok (d₂, p) ∧ q'.apply d₂ = .ok (d, q) := by
  intro p q p' q' d d'
  have hp : p.apply d = .ok (.obj [("0", .bool true),
      ("a/b", .arr [.str "p", .arr [.null]])], p') := by decide
  have hq : q.apply (.obj [("0", .bool true), ("a/b", .arr [.str "p", .arr [.null]])]) =
      .ok (d', q') := by decide
  have hapart : p.Apart q := by decide
  exact ⟨hapart, ⟨_, hp, hq⟩, (apply_apart hapart d).2.2 _ _ _ _ hp hq⟩

/-! ### Undoing what may not be there

A store undoes a patch where the places are still there, and leaves the data alone otherwise. -/

/-- The document after a patch; a patch that does not apply changes nothing. -/
def applyOr (p : Patch) (d : Json) : Json :=
  match p.apply d with
  | .ok (d, _) => d
  | .error _ => d

theorem applyOr_of_ok (h : p.apply d = .ok (d', q)) : p.applyOr d = d' := by
  unfold applyOr
  rw [h]

theorem applyOr_of_error {e : PatchError} (h : p.apply d = .error e) : p.applyOr d = d := by
  unfold applyOr
  rw [h]

theorem applyOr_undo (h : p.apply d = .ok (d', q)) : q.applyOr d' = d :=
  applyOr_of_ok (apply_undo h)

/-- A patch that fails still fails after one apart from it. -/
theorem apply_error_after {e : PatchError} (hapart : p.Apart q)
    (hq : q.apply d = .ok (d₁, inverse)) (hp : p.apply d = .error e) :
    ∃ e', p.apply d₁ = .error e' := by
  cases hp₁ : p.apply d₁ with
  | error e' => exact ⟨e', rfl⟩
  | ok r =>
      obtain ⟨d₃, hp₃⟩ := apply_before hapart hq hp₁
      rw [hp] at hp₃
      exact absurd hp₃ (by simp)

/-- **Patches that are apart may be applied in either order**, also where one of them fails. -/
theorem applyOr_comm (hapart : p.Apart q) (d : Json) :
    p.applyOr (q.applyOr d) = q.applyOr (p.applyOr d) := by
  cases hp : p.apply d with
  | ok rp =>
      cases hq : q.apply d with
      | ok rq =>
          obtain ⟨d₃, hp₃, hq₃⟩ := apply_square hapart hp hq
          rw [applyOr_of_ok hp, applyOr_of_ok hq, applyOr_of_ok hp₃, applyOr_of_ok hq₃]
      | error e =>
          obtain ⟨e', hq'⟩ := apply_error_after hapart.symm hp hq
          rw [applyOr_of_error hq, applyOr_of_ok hp, applyOr_of_error hq']
  | error e =>
      cases hq : q.apply d with
      | ok rq =>
          obtain ⟨e', hp'⟩ := apply_error_after hapart hq hp
          rw [applyOr_of_ok hq, applyOr_of_error hp, applyOr_of_error hp', applyOr_of_ok hq]
      | error e' =>
          rw [applyOr_of_error hp, applyOr_of_error hq, applyOr_of_error hp]

/-- The document after patches, each applied if it can be. -/
def applyAll (ps : List Patch) (d : Json) : Json := ps.foldl (fun d p => p.applyOr d) d

@[simp] theorem applyAll_nil (d : Json) : applyAll [] d = d := rfl

@[simp] theorem applyAll_cons (p : Patch) (ps : List Patch) (d : Json) :
    applyAll (p :: ps) d = applyAll ps (p.applyOr d) := rfl

theorem applyAll_append (ps qs : List Patch) (d : Json) :
    applyAll (ps ++ qs) d = applyAll qs (applyAll ps d) :=
  List.foldl_append

theorem applyAll_comm_applyOr {ps : List Patch} (h : ∀ p ∈ ps, p.Apart q) (d : Json) :
    applyAll ps (q.applyOr d) = q.applyOr (applyAll ps d) := by
  induction ps generalizing d with
  | nil => rfl
  | cons p ps ih =>
      rw [applyAll_cons, applyAll_cons, applyOr_comm (h p List.mem_cons_self),
        ih fun p hp => h p (List.mem_cons_of_mem _ hp)]

/-- Two lists of patches that are apart may be exchanged. -/
theorem applyAll_comm {ps qs : List Patch} (h : ∀ p ∈ ps, ∀ q ∈ qs, p.Apart q) (d : Json) :
    applyAll ps (applyAll qs d) = applyAll qs (applyAll ps d) := by
  induction qs generalizing d with
  | nil => rfl
  | cons q qs ih =>
      rw [applyAll_cons, applyAll_cons, ih fun p hp q hq => h p hp q (List.mem_cons_of_mem _ hq),
        applyAll_comm_applyOr fun p hp => h p hp q List.mem_cons_self]

end Patch

end TagCache
