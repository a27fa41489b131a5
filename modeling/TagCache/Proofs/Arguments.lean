import Mathlib.Data.List.Nodup
import TagCache.Portal.Registry
import TagCache.Proofs.Described
import TagCache.Proofs.MemberOrder

/-!
# Keys tell arguments apart

A key is the name of a query and the canonical text of its argument. The text tells JSON values
apart up to the order of members, and the schemas that arguments are written with tell arguments
apart by more than that order. So no two arguments of a query of the portal share a key, and what an
entry keeps from its first subscriber is what any later one would have brought.
-/

namespace TagCache

open Json

/-! ## Schemas that tell values apart -/

/-- Values are written without floats, and those that are written the same up to the order of
members are equal. -/
structure Schema.Separates {α : Type} (s : Schema α) : Prop where
  integral : ∀ a, (s.encode a).integral = true
  eq_of_same : ∀ a b, (s.encode a).Same (s.encode b) → a = b

/-- The fields of a record are told apart by the values under their names. -/
structure Shape.Separates {τ : Type} (shape : Shape τ) : Prop where
  integral : ∀ t, integralMembers (shape.encode t) = true
  eq_of_same : ∀ t u, (∀ key x y, (shape.encode t).value? key = some x →
    (shape.encode u).value? key = some y → x.Same y) → t = u

namespace Schema

theorem separates_unit : Schema.unit.Separates where
  integral _ := rfl
  eq_of_same _ _ _ := rfl

theorem separates_string : Schema.string.Separates where
  integral _ := rfl
  eq_of_same a b h := by
    cases h
    rfl

theorem separates_uint32 : Schema.uint32.Separates where
  integral _ := rfl
  eq_of_same a b h := by
    have hnat : (a.toNat : Int) = b.toNat := by
      rw [same_iff] at h
      exact Number.int.inj (Json.num.inj h)
    exact UInt32.toNat_inj.mp (Int.ofNat_inj.mp hnat)

/-- A value that may be missing is told from null, if it is never written as null itself. -/
theorem Separates.option {α : Type} {s : Schema α} (h : s.Separates)
    (hnull : ∀ a, ¬ Same .null (s.encode a)) : (Schema.option s).Separates where
  integral a := by
    cases a with
    | none => rfl
    | some a => exact h.integral a
  eq_of_same a b hsame := by
    cases a with
    | none =>
        cases b with
        | none => rfl
        | some b => exact absurd hsame (hnull b)
    | some a =>
        cases b with
        | none => exact absurd (same_iff.mpr (same_iff.mp hsame).symm) (hnull a)
        | some b => exact congrArg some (h.eq_of_same a b hsame)

theorem separates_variant {α : Type} {values : List (String × α)} {name : α → String}
    (h : Function.Injective name) : (Schema.variant values name).Separates where
  integral _ := rfl
  eq_of_same a b hsame := by
    rw [same_iff] at hsame
    exact h (Json.str.inj hsame)

theorem separates_record {α τ : Type} {label : String} {shape : Shape τ} {make : τ → α}
    {parts : α → τ} (h : shape.Separates) (hparts : Function.Injective parts) :
    (Schema.record label shape make parts).Separates where
  integral a := h.integral (parts a)
  eq_of_same a b hsame := by
    cases hsame with
    | obj _ values => exact hparts (h.eq_of_same _ _ values)

end Schema

namespace Shape

/-- What is written under a name is a field of that name. -/
theorem mem_names_of_value? {key : String} {v : Json} :
    ∀ {τ : Type} {shape : Shape τ} {t : τ}, (shape.encode t).value? key = some v →
      key ∈ shape.names
  | _, .done, _, h => absurd h (by simp [Shape.encode, Members.value?])
  | _, .field name s absence rest, (a, as), h => by
    rw [Shape.encode] at h
    split at h
    · exact List.mem_cons_of_mem _ (mem_names_of_value? h)
    · rw [Members.value?, Option.or_eq_some_iff] at h
      rcases h with h | ⟨_, h⟩
      · exact List.mem_cons_of_mem _ (mem_names_of_value? h)
      · split at h
        · rename_i hkey
          exact hkey ▸ List.mem_cons_self
        · exact absurd h (by simp)

theorem separates_done : Shape.done.Separates where
  integral _ := rfl
  eq_of_same _ _ _ := rfl

/-- A field that is always written, with a name of its own. -/
theorem Separates.field {α τ : Type} {name : String} {s : Schema α} {absence : Absence α}
    {rest : Shape τ} (hrest : rest.Separates) (hs : s.Separates)
    (hwritten : ∀ a, absence.omits a = false) (hname : name ∉ rest.names) :
    (Shape.field name s absence rest).Separates where
  integral := by
    rintro ⟨a, as⟩
    rw [Shape.encode, hwritten, if_neg (by simp), integralMembers, hs.integral, hrest.integral]
    rfl
  eq_of_same := by
    rintro ⟨a, as⟩ ⟨b, bs⟩ h
    have hencode : ∀ c cs key, ((Shape.field name s absence rest).encode (c, cs)).value? key =
        ((rest.encode cs).value? key).or (if key = name then some (s.encode c) else none) := by
      intro c cs key
      rw [Shape.encode, hwritten, if_neg (by simp), Members.value?]
    have hnone : ∀ cs, (rest.encode cs).value? name = none := fun cs =>
      Option.eq_none_iff_forall_ne_some.mpr fun v hv => hname (mem_names_of_value? hv)
    have hfirst : a = b := by
      refine hs.eq_of_same a b (h name _ _ ?_ ?_)
      · rw [hencode, hnone, Option.none_or, if_pos rfl]
      · rw [hencode, hnone, Option.none_or, if_pos rfl]
    have hothers : as = bs := by
      refine hrest.eq_of_same as bs fun key x y hx hy => h key x y ?_ ?_
      · rw [hencode, hx, Option.some_or]
      · rw [hencode, hy, Option.some_or]
    rw [hfirst, hothers]

end Shape

/-- **A query whose schema tells arguments apart has a key of its own for each of them.** -/
theorem Query.key_injective {κ α ρ : Type} {q : Query κ α ρ} (h : q.argument.Separates)
    {a b : α} {key : CacheKey} (ha : q.key a = .ok key) (hb : q.key b = .ok key) : a = b := by
  have hkey : ∀ {x : α}, q.key x = .ok key → CacheKey.ofArg q.name (q.argument.encode x) = key := by
    intro x hx
    unfold Query.key at hx
    split at hx
    · exact absurd hx (by simp)
    · exact Except.ok.inj hx
  have hboth := (hkey ha).trans (hkey hb).symm
  rw [CacheKey.ofArg_eq_iff (h.integral a) (h.integral b)] at hboth
  exact h.eq_of_same a b hboth.2

namespace Portal

/-! ## The arguments of the portal -/

theorem separates_scope : RoleScope.schema.Separates := by
  refine Schema.separates_variant ?_
  intro a b h
  cases a <;> cases b <;> first | rfl | exact absurd h (by decide)

theorem separates_assignmentFilter : AssignmentFilter.schema.Separates := by
  have hid : (Schema.option .string).Separates :=
    Schema.separates_string.option fun _ h => nomatch h
  refine Schema.separates_record
    (((Shape.separates_done.field hid (fun _ => rfl) ?_).field hid (fun _ => rfl) ?_)) ?_
  · decide
  · decide
  · rintro ⟨_, _⟩ ⟨_, _⟩ h
    simpa using h

theorem separates_auditLogPage : AuditLogPage.schema.Separates := by
  refine Schema.separates_record ((Shape.separates_done.field Schema.separates_uint32
    (fun _ => rfl) ?_).field Schema.separates_uint32 (fun _ => rfl) ?_) ?_
  · decide
  · decide
  · rintro ⟨_, _⟩ ⟨_, _⟩ h
    simpa using h

/-- Every argument has a key, and the schema tells arguments apart. -/
def Distinguishes : Endpoint TagKind → Prop
  | .query q => (∀ arg, q.refusal arg = none) ∧ q.argument.Separates
  | .mutation _ => True

theorem distinguishes_registry : ∀ endpoint ∈ registry, Distinguishes endpoint := by
  simp only [registry, List.forall_mem_cons]
  and_intros
  all_goals first
    | exact trivial
    | exact fun _ => rfl
    | exact Schema.separates_unit
    | exact Schema.separates_string
    | exact separates_scope
    | exact separates_assignmentFilter
    | exact separates_auditLogPage
    | exact fun _ h => absurd h List.not_mem_nil

/-- Names tell endpoints apart. -/
theorem endpoint_eq_of_name {a b : Endpoint TagKind} (ha : a ∈ registry) (hb : b ∈ registry)
    (h : a.name = b.name) : a = b :=
  List.inj_on_of_nodup_map (show (registry.map Endpoint.name).Nodup by decide) ha hb h

section

variable {ε : Type} {key : CacheKey} {e : Entry TagKind ε} {α ρ α' ρ' : Type}
  {q : Query TagKind α ρ} {q' : Query TagKind α' ρ'} {arg : α} {arg' : α'}

/-- Every argument has a key of its own. -/
theorem key_eq_iff (hq : .query q ∈ registry) (x y : α) :
    ∃ k l, q.key x = .ok k ∧ q.key y = .ok l ∧ (k = l ↔ x = y) := by
  obtain ⟨hrefusal, hseparates⟩ := distinguishes_registry _ hq
  have hkey : ∀ a, q.key a = .ok (.ofArg q.name (q.argument.encode a)) := by
    intro a
    unfold Query.key
    rw [hrefusal]
  refine ⟨_, _, hkey x, hkey y, fun h => ?_, fun h => by rw [h]⟩
  exact Query.key_injective hseparates (hkey x) (h ▸ hkey y)

/-- An entry that was made for a call was made for every call with its key. -/
theorem madeFor_of_key (hq : .query q ∈ registry) (hq' : .query q' ∈ registry)
    (h : e.MadeFor q arg key) (hkey : q'.key arg' = .ok key) : e.MadeFor q' arg' key := by
  have hname : q.name = q'.name := (endpoint_of_key h.key).symm.trans (endpoint_of_key hkey)
  have heq := endpoint_eq_of_name hq hq' hname
  cases heq
  exact Query.key_injective (distinguishes_registry _ hq).2 h.key hkey ▸ h

/-- **Keys identify arguments.** Values whose numbers are integers have the same key if and only if
they are equal up to the order of object members, at any depth. Two arguments of a query of the
portal have the same key if and only if they are equal. So an entry, which was made by the first
subscriber of its key, has the request and the tags that any later one would have brought. -/
theorem keys_identify_arguments :
    (∀ (endpoint : String) (a b : Json), a.integral = true → b.integral = true →
      (CacheKey.ofArg endpoint a = CacheKey.ofArg endpoint b ↔ a.Same b)) ∧
    (∀ (α ρ : Type) (q : Query TagKind α ρ), .query q ∈ registry → ∀ x y : α,
      ∃ k l, q.key x = .ok k ∧ q.key y = .ok l ∧ (k = l ↔ x = y)) ∧
    ∀ (ε : Type) (config : StoreConfig) (past : List (Moment TagKind ε)) (s : Store TagKind ε),
      Run config past s → (∀ m ∈ past, m.action.Calls registry) →
      ∀ key e, s.find? key = some e → (∃ m ∈ past, m.Makes key e) ∧
        ∀ (α ρ : Type) (q : Query TagKind α ρ) (arg : α), .query q ∈ registry →
          q.key arg = .ok key →
          e.endpoint = q.name ∧ q.request arg = .ok e.request ∧
            e.provides = Store.rawTags q arg := by
  refine ⟨fun endpoint a b ha hb => ?_, fun _ _ _ hq x y => key_eq_iff hq x y, ?_⟩
  · rw [CacheKey.ofArg_eq_iff ha hb]
    exact and_iff_right rfl
  · intro ε config past s hrun hcalls key e he
    obtain ⟨m, hm, hmakes⟩ := made_run hrun he
    refine ⟨⟨m, hm, hmakes⟩, fun α ρ q arg hq hkey => ?_⟩
    obtain ⟨_, _, α', ρ', first, arg', haction, hmade⟩ := hmakes
    have hfirst := hcalls m hm
    rw [haction] at hfirst
    have hlater := madeFor_of_key hfirst hq hmade hkey
    exact ⟨hlater.endpoint, hlater.request, hlater.provides⟩

end

/-! ### Two spellings of one argument -/

namespace Sample

/-- Some ids, and a name with a quote, a backslash and a line break in it. -/
def spelled (ids : List Json) : Json :=
  .obj [("name", .str "a\"\\\n"), ("ids", .arr ids)]

/-- The members the other way round. -/
def respelled (ids : List Json) : Json :=
  .obj [("ids", .arr ids), ("name", .str "a\"\\\n")]

/-- The key of a page of the audit log. -/
def pageKey (limit : UInt32) : CacheKey :=
  .ofArg "getAuditLogs" (.obj [("limit", .int limit.toNat), ("offset", .int 0)])

/-- One page is looked at twice, and then another. -/
def pages : List (Action TagKind Unit) :=
  [.subscribe getAuditLogs ⟨12, 0⟩, .subscribe getAuditLogs ⟨12, 0⟩, .subscribe getAuditLogs ⟨1, 0⟩]

end Sample

/-- Two spellings of one argument, and a third value with the same digits; a run with three
subscribers and two pages. -/
theorem keys_identify_arguments_respelled :
    let a := Sample.spelled [.int 1, .int 12, .obj [("x", .int (-1)), ("y", .null)]]
    let b := Sample.respelled [.int 1, .int 12, .obj [("y", .null), ("x", .int (-1))]]
    let c := Sample.respelled [.int 11, .int 2, .obj [("y", .null), ("x", .int (-1))]]
    (a.Same b ∧ ¬ a.Same c) ∧
    (∃ k l, getAuditLogs.key ⟨12, 0⟩ = .ok k ∧ getAuditLogs.key ⟨1, 0⟩ = .ok l ∧ k ≠ l) ∧
    ∃ e, (play {} Sample.pages).2.find? (Sample.pageKey 12) = some e ∧
      getAuditLogs.request ⟨12, 0⟩ = .ok e.request ∧
      e.provides = Store.rawTags getAuditLogs ⟨12, 0⟩ := by
  intro a b c
  obtain ⟨hvalues, hkeys, hentries⟩ := keys_identify_arguments
  refine ⟨⟨?_, fun hsame => ?_⟩, ?_, ?_⟩
  · exact (hvalues "e" a b (by decide) (by decide)).mp (by decide +kernel)
  · exact absurd ((hvalues "e" a c (by decide) (by decide)).mpr hsame) (by decide +kernel)
  · obtain ⟨k, l, hk, hl, hiff⟩ := hkeys _ _ getAuditLogs (by simp [registry]) ⟨12, 0⟩ ⟨1, 0⟩
    exact ⟨k, l, hk, hl, fun h => absurd (hiff.mp h) (by decide)⟩
  · have hfound : ((play {} Sample.pages).2.find? (Sample.pageKey 12)).isSome = true := by
      decide +kernel
    obtain ⟨e, he⟩ := Option.isSome_iff_exists.mp hfound
    have hcalls : ∀ m ∈ (play {} Sample.pages).1, m.action.Calls registry := by
      simp [play, advance, Sample.pages, Action.Calls, registry]
    obtain ⟨_, hlater⟩ := hentries Unit {} _ _ (run_play _ _) hcalls _ e he
    obtain ⟨_, hrequest, hprovides⟩ := hlater _ _ getAuditLogs ⟨12, 0⟩ (by simp [registry]) rfl
    exact ⟨e, he, hrequest, hprovides⟩

end Portal

end TagCache
