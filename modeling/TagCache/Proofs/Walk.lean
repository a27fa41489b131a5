import TagCache.Proofs.PointerText
import TagCache.Proofs.Undo

/-!
# Walks through a document

A walk goes from a document down along tokens, into an object by a key and into a list by the
decimal spelling of an index. Where a walk arrives is what `at?` finds. The pointer written from a
list of segments leads to where the walk along the segments arrives: a value can be replaced there
if the walk arrives at all, the walk then arrives at the new value, and no walk that leaves it on
the way or goes elsewhere notices.
-/

namespace TagCache.Json

/-- A walk along tokens arrives at a value. -/
inductive Reaches : Json → List String → Json → Prop where
  /-- The walk that stays. -/
  | here (j : Json) : Reaches j [] j
  /-- Into an object by a key. -/
  | member {ms : Members} {key : String} {ts : List String} {v w : Json} :
    ms.get? key = some v → Reaches v ts w → Reaches (.obj ms) (key :: ts) w
  /-- Into a list by an index, without a sign or a leading zero. -/
  | item {xs : List Json} {i : Nat} {ts : List String} {v w : Json} :
    xs[i]? = some v → Reaches v ts w → Reaches (.arr xs) (toString i :: ts) w

theorem child?_toString (xs : List Json) (i : Nat) : (arr xs).child? (toString i) = xs[i]? := by
  rw [child?, Pointer.index?_toString, Option.bind_some]

/-- A walk arrives at what stands at its place. -/
theorem reaches_iff {j w : Json} {ts : List String} : j.Reaches ts w ↔ j.at? ts = some w := by
  constructor
  · intro h
    induction h with
    | here j => exact at?_nil j
    | member hget _ ih => exact at?_cons_eq_some.mpr ⟨_, hget, ih⟩
    | @item xs i _ _ _ hget _ ih =>
        exact at?_cons_eq_some.mpr ⟨_, (child?_toString xs i).trans hget, ih⟩
  · intro h
    induction ts generalizing j with
    | nil =>
        rw [at?_nil] at h
        obtain rfl := Option.some.inj h
        exact .here j
    | cons t ts ih =>
        obtain ⟨v, hchild, hrest⟩ := at?_cons_eq_some.mp h
        cases j with
        | obj ms => exact .member hchild (ih hrest)
        | arr xs =>
            obtain ⟨i, hindex, hget⟩ := Option.bind_eq_some_iff.mp hchild
            obtain rfl := Pointer.index?_eq_some_iff.mp hindex
            exact .item hget (ih hrest)
        | _ => exact absurd hchild (by simp [child?])

/-! ## Replacing where a pointer leads -/

variable {d d' w : Json} {q : Patch} {segments : List String}

theorem apply_replace_ofTokens :
    (Patch.replace (Pointer.ofTokens segments) w).apply d = .ok (d', q) ↔
      ∃ old, d.Reaches segments old ∧ set? w segments d = some d' ∧
        q = .replace (Pointer.ofTokens segments) old := by
  rw [Patch.apply_replace]
  simp only [Pointer.tokens?_ofTokens, Option.some.injEq, reaches_iff]
  constructor
  · rintro ⟨_, old, rfl, hold⟩
    exact ⟨old, hold⟩
  · rintro ⟨old, hold⟩
    exact ⟨segments, old, rfl, hold⟩

/-- Walks that are apart from the place of a replaced value arrive where they did. -/
theorem reaches_set?_iff {v : Json} {ts us : List String} (h : set? w ts d = some d')
    (hapart : Apart ts us) : d'.Reaches us v ↔ d.Reaches us v := by
  rw [reaches_iff, reaches_iff, at?_set?_of_apart h hapart]

/-- **A pointer that was written from segments leads where the segments lead.** Its text is made of
the segments, each behind a slash, with every tilde replaced and then every slash; reading the parts
between slashes the other way round gives back the segments. A value is replaced there exactly in
the documents where the walk along the segments arrives. -/
theorem pointer_leads :
    (∀ segments : List String,
      (Pointer.ofTokens segments).toList = segments.flatMap (fun segment =>
        '/' :: Pointer.replaceAll '/' [] ['~', '1']
          (Pointer.replaceAll '~' [] ['~', '0'] segment.toList)) ∧
      (pieces (· = '/') (Pointer.ofTokens segments).toList).tail.map (fun part =>
        String.ofList (Pointer.replaceAll '~' ['0'] ['~']
          (Pointer.replaceAll '~' ['1'] ['/'] part))) = segments) ∧
    Function.Injective Pointer.ofTokens ∧
    ∀ (segments : List String) (d w : Json),
      ((∃ d' q, (Patch.replace (Pointer.ofTokens segments) w).apply d = .ok (d', q)) ↔
        ∃ old, d.Reaches segments old) ∧
      ∀ d' q, (Patch.replace (Pointer.ofTokens segments) w).apply d = .ok (d', q) →
        d'.Reaches segments w ∧
        ∀ us, Apart segments us → ∀ v, d'.Reaches us v ↔ d.Reaches us v := by
  refine ⟨fun segments => ⟨?_, ?_⟩, ?_, fun segments d w => ⟨⟨?_, ?_⟩, ?_⟩⟩
  · simp only [Pointer.ofTokens, String.toList_ofList, Pointer.escape_eq_replaceAll]
  · simp only [← Pointer.unescape_eq_replaceAll]
    exact Pointer.pieces_of_tokens? (Pointer.tokens?_ofTokens segments)
  · intro segments other h
    have htokens := congrArg Pointer.tokens? h
    rw [Pointer.tokens?_ofTokens, Pointer.tokens?_ofTokens] at htokens
    exact Option.some.inj htokens
  · rintro ⟨d', q, happly⟩
    obtain ⟨old, hold, _⟩ := apply_replace_ofTokens.mp happly
    exact ⟨old, hold⟩
  · rintro ⟨old, hold⟩
    obtain ⟨d', hset⟩ := (exists_set?_iff (a := w)).mpr ⟨old, reaches_iff.mp hold⟩
    exact ⟨d', _, apply_replace_ofTokens.mpr ⟨old, hold, hset, rfl⟩⟩
  · intro d' q happly
    obtain ⟨_, _, hset, _⟩ := apply_replace_ofTokens.mp happly
    exact ⟨reaches_iff.mpr (at?_set? hset), fun us hapart v => reaches_set?_iff hset hapart⟩

/-- Keys that look like escapes, and one that holds a slash, above an item of a list. -/
theorem pointer_leads_escaped :
    Pointer.ofTokens ["~1", "a/b", "~01", "0"] = "/~01/a~1b/~001/0" ∧
    let d : Json := .obj [("/", .null), ("~1", .obj [("a/b", .obj [("~01", .arr [.null])])])]
    let d' : Json := .obj [("/", .null), ("~1", .obj [("a/b", .obj [("~01", .arr [.bool true])])])]
    (∃ q, (Patch.replace "/~01/a~1b/~001/0" (.bool true)).apply d = .ok (d', q)) ∧
      d'.Reaches ["~1", "a/b", "~01", "0"] (.bool true) ∧
      ∀ v, d'.Reaches ["/"] v ↔ d.Reaches ["/"] v := by
  have htext : Pointer.ofTokens ["~1", "a/b", "~01", "0"] = "/~01/a~1b/~001/0" := by decide
  refine ⟨htext, ?_⟩
  intro d d'
  have happly : (Patch.replace "/~01/a~1b/~001/0" (.bool true)).apply d =
      .ok (d', .replace "/~01/a~1b/~001/0" .null) := by decide
  rw [← htext] at happly ⊢
  obtain ⟨hreaches, hapart⟩ :=
    (pointer_leads.2.2 ["~1", "a/b", "~01", "0"] d (.bool true)).2 _ _ happly
  exact ⟨⟨_, happly⟩, hreaches, hapart ["/"] (by decide)⟩

end TagCache.Json
