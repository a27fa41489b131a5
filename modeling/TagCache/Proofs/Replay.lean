import TagCache.Proofs.PointerText
import TagCache.Proofs.Undo

/-!
# Applying a patch again

The replacements of a patch are made one after another, and a later one may take away the place of
an earlier one. A patch that applied to a document need not apply to the document that it left; a
patch whose places lie ever deeper does. Where it does apply, it leaves the document as it is,
whatever its places are.

Both halves come from what a replacement forgets. A value put at a place erases everything that was
put inside before, so a value put there beforehand makes no difference in the end; and whether a
patch applies is a question about those of its places that no earlier replacement has made.
-/

namespace TagCache

namespace Json

/-! ## Values put where they can be -/

/-- The document with a value put at a place; without such a place it is the same. -/
def putAt (new : Json) (ts : List String) (j : Json) : Json := (set? new ts j).getD j

variable {a b j j' : Json} {t : String} {ts us rest : List String}

theorem putAt_of_set? (h : set? a ts j = some j') : putAt a ts j = j' := by
  rw [putAt, h, Option.getD_some]

@[simp] theorem putAt_nil (a j : Json) : putAt a [] j = a := by
  rw [putAt, set?_nil, Option.getD_some]

theorem putAt_of_no_child (h : j.child? t = none) : putAt a (t :: ts) j = j := by
  rw [putAt, set?_cons, h, Option.bind_none, Option.getD_none]

theorem putAt_child {v : Json} (h : j.child? t = some v) :
    putAt a (t :: ts) j = j.putChild t (putAt a ts v) := by
  rw [putAt, set?_cons, h, Option.bind_some]
  cases hset : set? a ts v with
  | some v' => rw [Option.map_some, Option.getD_some, putAt_of_set? hset]
  | none =>
      rw [Option.map_none, Option.getD_none, putAt, hset, Option.getD_none, putChild_child? h]

/-- What is put at a place erases what was put at it or inside before. -/
theorem putAt_above (a b : Json) (ts rest : List String) (j : Json) :
    putAt a ts (putAt b (ts ++ rest) j) = putAt a ts j := by
  induction ts generalizing j with
  | nil => rw [putAt_nil, putAt_nil]
  | cons t ts ih =>
      rw [List.cons_append]
      cases hv : j.child? t with
      | none => rw [putAt_of_no_child hv]
      | some v =>
          rw [putAt_child hv, putAt_child (child?_putChild_of_some hv), putAt_child hv, ih,
            putChild_putChild]

/-- What is put inside a place goes along with what was put at the place before. -/
theorem putAt_inside (a b : Json) (ts rest : List String) (j : Json) :
    putAt a (ts ++ rest) (putAt b ts j) = putAt (putAt a rest b) ts (putAt a (ts ++ rest) j) := by
  induction ts generalizing j with
  | nil => simp only [List.nil_append, putAt_nil]
  | cons t ts ih =>
      rw [List.cons_append]
      cases hv : j.child? t with
      | none => rw [putAt_of_no_child hv, putAt_of_no_child hv, putAt_of_no_child hv]
      | some v =>
          have hput : ∀ w, (j.putChild t w).child? t = some w :=
            fun w => child?_putChild_of_some hv
          rw [putAt_child hv, putAt_child (hput _), putAt_child hv, putAt_child (hput _), ih,
            putChild_putChild, putChild_putChild]

/-! ## Which places are left -/

/-- Inside a place the document is what stands there. -/
theorem at?_append (j : Json) (ts rest : List String) :
    j.at? (ts ++ rest) = (j.at? ts).bind fun v => v.at? rest := by
  induction ts generalizing j with
  | nil => rw [List.nil_append, at?_nil, Option.bind_some]
  | cons t ts ih =>
      rw [List.cons_append, at?_cons, at?_cons, Option.bind_assoc]
      simp only [ih]

/-- A document that has a place has every place above it. -/
theorem exists_at?_of_prefix {v : Json} (hunder : ts <+: us) (h : j.at? us = some v) :
    ∃ w, j.at? ts = some w := by
  obtain ⟨rest, rfl⟩ := hunder
  rw [at?_append] at h
  obtain ⟨w, hw, _⟩ := Option.bind_eq_some_iff.mp h
  exact ⟨w, hw⟩

/-- What is put at a place neither makes nor takes away a place that is not inside. -/
theorem exists_at?_set?_iff (h : set? a ts j = some j') (hinside : ts <+: us → us = ts) :
    (∃ v, j'.at? us = some v) ↔ ∃ v, j.at? us = some v := by
  have hat' := at?_set? h
  obtain ⟨old, hat⟩ := exists_set?_iff.mp ⟨j', h⟩
  by_cases habove : us <+: ts
  · exact ⟨fun _ => exists_at?_of_prefix habove hat, fun _ => exists_at?_of_prefix habove hat'⟩
  · by_cases hbelow : ts <+: us
    · rw [hinside hbelow]
      exact ⟨fun _ => ⟨old, hat⟩, fun _ => ⟨a, hat'⟩⟩
    · rw [at?_set?_of_apart h ⟨hbelow, habove⟩]

end Json

namespace Patch

open Json

variable {op : Replacement} {ops qs inverse : List Replacement} {p : Patch} {d d' e : Json}
  {ts us : List String}

/-! ## Replacements one by one -/

theorem applyOr_replace {path : String} (hplace : Pointer.tokens? path = some ts) (a d : Json) :
    (replace path a).applyOr d = putAt a ts d := by
  cases happly : (replace path a).apply d with
  | ok r =>
      obtain ⟨d', q⟩ := r
      obtain ⟨us, old, hus, _, hset, _⟩ := apply_replace.mp happly
      rw [hplace] at hus
      obtain rfl := Option.some.inj hus
      rw [applyOr_of_ok happly, putAt_of_set? hset]
  | error _ =>
      rw [applyOr_of_error happly, putAt]
      cases hset : set? a ts d with
      | none => rfl
      | some d' =>
          obtain ⟨old, hold⟩ := exists_set?_iff.mp ⟨d', hset⟩
          rw [apply_replace.mpr ⟨ts, old, hplace, hold, hset, rfl⟩] at happly
          exact absurd happly (by simp)

theorem applyOr_replace_of_no_place {path : String} (hplace : Pointer.tokens? path = none)
    (a d : Json) : (replace path a).applyOr d = d := by
  cases happly : (replace path a).apply d with
  | ok r =>
      obtain ⟨us, _, hus, _⟩ := apply_replace.mp happly
      rw [hplace] at hus
      exact absurd hus (by simp)
  | error _ => exact applyOr_of_error happly

/-- Values are put at places that are apart in either order. -/
theorem putAt_comm (h : Json.Apart ts us) (a b d : Json) :
    putAt a ts (putAt b us d) = putAt b us (putAt a ts d) := by
  have hapart : (replace (Pointer.ofTokens ts) a).Apart (replace (Pointer.ofTokens us) b) := by
    simpa [Patch.Apart, Replacement.Apart, replace, Pointer.tokens?_ofTokens] using h
  have hcomm := applyOr_comm hapart d
  simpa only [applyOr_replace (Pointer.tokens?_ofTokens _)] using hcomm

/-- Each replacement as a patch of its own. -/
def singles (ops : List Replacement) : List Patch := ops.map fun op => replace op.path op.value

@[simp] theorem singles_cons (op : Replacement) (ops : List Replacement) :
    singles (op :: ops) = replace op.path op.value :: singles ops := rfl

/-- A patch that applies does what its replacements do one by one. -/
theorem applyAll_singles (h : applyOps ops d = .ok (d', inverse)) :
    applyAll (singles ops) d = d' := by
  induction ops generalizing d inverse with
  | nil =>
      obtain ⟨rfl, _⟩ : d = d' ∧ [] = inverse := by simpa [applyOps] using h
      rfl
  | cons op ops ih =>
      obtain ⟨d₁, old, rest, hop, hops, _⟩ := applyOps_cons.mp h
      obtain ⟨ts, hts, hold, hset⟩ := Replacement.replaced_iff.mp hop
      rw [singles_cons, applyAll_cons,
        applyOr_of_ok (apply_replace.mpr ⟨ts, old, hts, hold, hset, rfl⟩)]
      exact ih hops

/-- **A value put beforehand at the place of a replacement makes no difference.** It is erased where
the replacement is made, if not before. -/
theorem applyAll_singles_putAt (hop : op ∈ ops) (hplace : Pointer.tokens? op.path = some us)
    (b d : Json) : applyAll (singles ops) (putAt b us d) = applyAll (singles ops) d := by
  -- for every value `b`: a replacement inside its place goes into it before it is erased
  induction ops generalizing b d with
  | nil => exact absurd hop (by simp)
  | cons a ops ih =>
      rw [singles_cons, applyAll_cons, applyAll_cons]
      cases hts : Pointer.tokens? a.path with
      | none =>
          have htail : op ∈ ops := (List.mem_cons.mp hop).resolve_left fun heq => by
            rw [heq, hts] at hplace
            exact absurd hplace (by simp)
          rw [applyOr_replace_of_no_place hts, applyOr_replace_of_no_place hts, ih htail]
      | some ts =>
          rw [applyOr_replace hts, applyOr_replace hts]
          by_cases hbelow : ts <+: us
          · -- this replacement erases it, whether or not it is `op`
            obtain ⟨rest, rfl⟩ := hbelow
            rw [putAt_above]
          · -- the replacement is a later one
            have htail : op ∈ ops := (List.mem_cons.mp hop).resolve_left fun heq => by
              rw [heq, hts] at hplace
              exact hbelow (Option.some.inj hplace ▸ List.prefix_rfl)
            by_cases habove : us <+: ts
            · obtain ⟨rest, rfl⟩ := habove
              rw [putAt_inside, ih htail]
            · rw [putAt_comm ⟨hbelow, habove⟩, ih htail]

/-- Replacements made before, among the same, make no difference. -/
theorem applyAll_singles_again (h : ∀ op ∈ qs, op ∈ ops) (d : Json) :
    applyAll (singles ops) (applyAll (singles qs) d) = applyAll (singles ops) d := by
  induction qs generalizing d with
  | nil => rfl
  | cons op qs ih =>
      rw [singles_cons, applyAll_cons, ih fun q hq => h q (List.mem_cons_of_mem _ hq)]
      cases hts : Pointer.tokens? op.path with
      | none => rw [applyOr_replace_of_no_place hts]
      | some ts =>
          rw [applyOr_replace hts, applyAll_singles_putAt (h op List.mem_cons_self) hts]

/-! ## Where a patch applies -/

/-- The places of a patch, first to last. -/
def places (p : Patch) : List (List String) :=
  p.ops.filterMap fun op => Pointer.tokens? op.path

/-- Places without those that are at or inside an earlier one. -/
def unmade : List (List String) → List (List String)
  | [] => []
  | ts :: places => ts :: (unmade places).filter fun us => ¬ ts <+: us

/-- The places that a document needs for the patch: those that no earlier replacement makes. -/
def needs (p : Patch) : List (List String) := unmade p.places

theorem mem_unmade_cons {places : List (List String)} :
    us ∈ unmade (ts :: places) ↔ us = ts ∨ us ∈ unmade places ∧ ¬ ts <+: us := by
  simp [unmade]

theorem mem_of_mem_unmade {places : List (List String)} (h : us ∈ unmade places) :
    us ∈ places := by
  induction places with
  | nil => exact h
  | cons ts places ih =>
      rcases mem_unmade_cons.mp h with rfl | ⟨h, _⟩
      · exact List.mem_cons_self
      · exact List.mem_cons_of_mem _ (ih h)

theorem exists_applyOps_cons : (∃ r, applyOps (op :: ops) d = .ok r) ↔
    ∃ ts d₁, Pointer.tokens? op.path = some ts ∧ set? op.value ts d = some d₁ ∧
      ∃ r, applyOps ops d₁ = .ok r := by
  constructor
  · rintro ⟨⟨d', inverse⟩, h⟩
    obtain ⟨d₁, old, rest, hop, hops, _⟩ := applyOps_cons.mp h
    obtain ⟨ts, hts, _, hset⟩ := Replacement.replaced_iff.mp hop
    exact ⟨ts, d₁, hts, hset, _, hops⟩
  · rintro ⟨ts, d₁, hts, hset, ⟨d', inverse⟩, hops⟩
    obtain ⟨old, hold⟩ := exists_set?_iff.mp ⟨d₁, hset⟩
    have hop := Replacement.replaced_iff.mpr ⟨ts, hts, hold, hset⟩
    exact ⟨_, applyOps_cons.mpr ⟨d₁, old, inverse, hop, hops, rfl⟩⟩

/-- A patch that applies somewhere applies to the documents that have the places it needs. -/
theorem exists_applyOps_iff (h : ∃ r, applyOps ops d = .ok r) :
    (∃ r, applyOps ops e = .ok r) ↔ ∀ ts ∈ needs ⟨ops⟩, ∃ v, e.at? ts = some v := by
  induction ops generalizing d e with
  | nil => exact ⟨fun _ _ hts => absurd hts (by simp [needs, places, unmade]), fun _ => ⟨_, rfl⟩⟩
  | cons op ops ih =>
      obtain ⟨ts, d₁, hts, hset, hops⟩ := exists_applyOps_cons.mp h
      have hneeds : needs ⟨op :: ops⟩ = unmade (ts :: places ⟨ops⟩) := by
        simp [needs, places, hts]
      simp only [hneeds, mem_unmade_cons, forall_eq_or_imp]
      constructor
      · intro h'
        obtain ⟨ts', e₁, hts', hset', hops'⟩ := exists_applyOps_cons.mp h'
        obtain rfl := Option.some.inj (hts.symm.trans hts')
        refine ⟨exists_set?_iff.mp ⟨e₁, hset'⟩, fun us ⟨hus, hinside⟩ => ?_⟩
        exact (exists_at?_set?_iff hset' fun hunder => absurd hunder hinside).mp
          ((ih hops).mp hops' us hus)
      · rintro ⟨hthere, hrest⟩
        obtain ⟨e₁, hset'⟩ := exists_set?_iff (a := op.value).mpr hthere
        refine exists_applyOps_cons.mpr ⟨ts, e₁, hts, hset', (ih hops).mpr fun us hus => ?_⟩
        by_cases hunder : ts <+: us
        · -- inside what the replacement puts there, as in the document where the patch applies
          obtain ⟨below, rfl⟩ := hunder
          have hbelow := (ih hops).mp hops _ hus
          rw [at?_append, at?_set? hset] at hbelow
          rw [at?_append, at?_set? hset']
          exact hbelow
        · exact (exists_at?_set?_iff hset' fun h => absurd h hunder).mpr (hrest us ⟨hus, hunder⟩)

/-- No replacement is at a place above that of an earlier one. -/
def Descends (p : Patch) : Prop := p.places.Pairwise fun ts us => us <+: ts → us = ts

instance (p : Patch) : Decidable p.Descends := inferInstanceAs (Decidable (List.Pairwise _ _))

/-- Replacements that are not at places above it leave a place. -/
theorem exists_at?_applyOps {v : Json} (h : applyOps ops d = .ok (d', inverse))
    (habove : ∀ us ∈ places ⟨ops⟩, us <+: ts → us = ts) (hv : d.at? ts = some v) :
    ∃ w, d'.at? ts = some w := by
  induction ops generalizing d v inverse with
  | nil =>
      obtain ⟨rfl, _⟩ : d = d' ∧ [] = inverse := by simpa [applyOps] using h
      exact ⟨v, hv⟩
  | cons op ops ih =>
      obtain ⟨d₁, old, rest, hop, hops, _⟩ := applyOps_cons.mp h
      obtain ⟨us, hus, _, hset⟩ := Replacement.replaced_iff.mp hop
      simp only [places, List.filterMap_cons, hus, List.forall_mem_cons] at habove
      obtain ⟨hhere, hlater⟩ := habove
      obtain ⟨w, hw⟩ := (exists_at?_set?_iff hset fun h => (hhere h).symm).mpr ⟨v, hv⟩
      exact ih hops hlater hw

/-- Descending replacements leave all their places. -/
theorem exists_at?_of_descends (h : applyOps ops d = .ok (d', inverse))
    (hdown : Descends ⟨ops⟩) : ∀ ts ∈ places ⟨ops⟩, ∃ v, d'.at? ts = some v := by
  induction ops generalizing d inverse with
  | nil => exact fun _ hts => absurd hts (by simp [places])
  | cons op ops ih =>
      obtain ⟨d₁, old, rest, hop, hops, _⟩ := applyOps_cons.mp h
      obtain ⟨ts, hts, _, hset⟩ := Replacement.replaced_iff.mp hop
      simp only [Descends, places, List.filterMap_cons, hts, List.pairwise_cons] at hdown
      obtain ⟨hhere, hlater⟩ := hdown
      simp only [places, List.filterMap_cons, hts, List.forall_mem_cons]
      exact ⟨exists_at?_applyOps hops hhere (at?_set? hset), ih hops hlater⟩

/-! ## The second application -/

variable {inv again : Patch}

theorem exists_apply_iff : (∃ r, p.apply d = .ok r) ↔ ∃ r, applyOps p.ops d = .ok r := by
  unfold apply
  cases applyOps p.ops d with
  | error e => simp [Except.map]
  | ok r => simp [Except.map]

/-- Where a patch applies once more, it leads to where it led before. -/
theorem eq_of_apply_twice {d'' : Json} (h : p.apply d = .ok (d', inv))
    (h' : p.apply d' = .ok (d'', again)) : d'' = d' := by
  have honce := applyAll_singles (apply_eq_ok.mp h)
  have htwice := applyAll_singles (apply_eq_ok.mp h')
  rw [← htwice, ← honce]
  exact applyAll_singles_again (fun _ h => h) d

theorem exists_apply_twice_iff (h : p.apply d = .ok (d', inv)) :
    (∃ again, p.apply d' = .ok (d', again)) ↔ ∀ ts ∈ p.needs, ∃ v, d'.at? ts = some v := by
  have hneeds := exists_applyOps_iff (e := d') (exists_apply_iff.mp ⟨_, h⟩)
  rw [← exists_apply_iff] at hneeds
  refine Iff.trans ⟨fun ⟨again, hagain⟩ => ⟨_, hagain⟩, ?_⟩ hneeds
  rintro ⟨⟨d'', again⟩, hagain⟩
  obtain rfl := eq_of_apply_twice h hagain
  exact ⟨again, hagain⟩

/-- A patch whose replacements descend can be applied again. -/
theorem apply_twice_of_descends (hdown : p.Descends) (h : p.apply d = .ok (d', inv)) :
    ∃ again, p.apply d' = .ok (d', again) :=
  (exists_apply_twice_iff h).mpr fun ts hts =>
    exists_at?_of_descends (apply_eq_ok.mp h) hdown ts (mem_of_mem_unmade hts)

/-- **Applying a patch again changes nothing**, if the document that it left still has the places
that the patch needs: those of its replacements that are not at or inside the place of an earlier
one. Otherwise it does not apply. A patch applies again, in particular, if no replacement is at a
place above that of an earlier one. -/
theorem apply_again (h : p.apply d = .ok (d', inv)) :
    ((∃ again, p.apply d' = .ok (d', again)) ↔ ∀ ts ∈ p.needs, ∃ v, d'.at? ts = some v) ∧
      (∀ d'' again, p.apply d' = .ok (d'', again) → d'' = d') ∧
        (p.Descends → ∃ again, p.apply d' = .ok (d', again)) :=
  ⟨exists_apply_twice_iff h, fun _ _ h' => eq_of_apply_twice h h',
    fun hdown => apply_twice_of_descends hdown h⟩

/-- Places that are equal, inside each other and apart, and a replacement above an earlier one whose
value has the place that is needed. -/
theorem apply_again_nested :
    let p : Patch := ⟨[⟨"/a/b", .bool true⟩, ⟨"/a", .obj [("b", .arr [.null])]⟩,
      ⟨"/a/b/0", .bool false⟩, ⟨"/c", .null⟩, ⟨"/c", .str "c"⟩]⟩
    let d : Json := .obj [("a", .obj [("b", .null)]), ("c", .bool true)]
    let d' : Json := .obj [("a", .obj [("b", .arr [.bool false])]), ("c", .str "c")]
    (∃ inv, p.apply d = .ok (d', inv)) ∧ p.needs = [["a", "b"], ["a"], ["c"]] ∧ ¬ p.Descends ∧
      ∃ again, p.apply d' = .ok (d', again) := by
  intro p d d'
  have happly : p.apply d = .ok (d', ⟨[⟨"/c", .null⟩, ⟨"/c", .bool true⟩, ⟨"/a/b/0", .null⟩,
      ⟨"/a", .obj [("b", .bool true)]⟩, ⟨"/a/b", .null⟩]⟩) := by decide
  refine ⟨⟨_, happly⟩, by decide, by decide, ?_⟩
  refine (apply_again happly).1.mpr fun ts hts => Option.isSome_iff_exists.mp ?_
  revert ts
  decide

/-- A later replacement may take away the place of an earlier one, so applying a patch again is not
always possible. -/
theorem place_taken_away :
    ¬ ∀ (p inv : Patch) (d d' : Json), p.apply d = .ok (d', inv) →
      ∃ again, p.apply d' = .ok (d', again) := by
  intro h
  obtain ⟨again, hagain⟩ := h ⟨[⟨"/a/b", .int 1⟩, ⟨"/a", .null⟩]⟩
    ⟨[⟨"/a", .obj [("b", .int 1)]⟩, ⟨"/a/b", .int 0⟩]⟩ (.obj [("a", .obj [("b", .int 0)])])
    (.obj [("a", .null)]) (by decide)
  have hfails : Patch.apply ⟨[⟨"/a/b", .int 1⟩, ⟨"/a", .null⟩]⟩ (.obj [("a", .null)]) =
      .error (.pathNotFound "/a/b") := by decide
  rw [hfails] at hagain
  exact absurd hagain (by simp)

end Patch

end TagCache
