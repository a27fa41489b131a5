import TagCache.Simulation.Scripted
import TagCache.Store.Subscription

/-!
# Runs of a store

The operations of a store are pure functions. A run applies them one after another, in any order
and with any arguments: every interleaving of what callers, timers and answers do is a run.

What a store does next depends on the store alone. What it *owes* depends on its past: which
requests were started, which entries an invalidation met, which answers were taken up. A run
therefore carries a record of its moments beside the store. The record is never read by an
operation.

Nothing restricts the surroundings. An answer may come under any id, an eviction with any
generation, a patch may be undone twice. Whatever holds of every run holds in particular of those
where an answer belongs to a request and an eviction to a timer.
-/

namespace TagCache

/-- Something that happens to a store. -/
inductive Action (κ ε : Type) : Type 1 where
  | subscribe {α ρ : Type} (query : Query κ α ρ) (arg : α)
  /-- A subscription of the key is dropped. -/
  | unsubscribe (key : CacheKey) (hasTimer : Bool)
  | invalidate (tags : List (Tag κ))
  | refetch (key : CacheKey)
  | patch (key : CacheKey) (recipe : Json → Option Patch)
  | revert (pair : PatchPair)
  /-- A mutation predicts its effect and sends its request. -/
  | beginMutation {α ρ : Type} (mutation : Mutation κ α ρ) (arg : α)
  /-- The mutation that began at the time `start` is answered. -/
  | endMutation {α ρ : Type} (start : Nat) (mutation : Mutation κ α ρ) (arg : α)
      (pairs : List PatchPair) (answer : Except ε Json)
  /-- A grace period is over. -/
  | evict (key : CacheKey) (generation : Nat)
  /-- The request with this id is answered. -/
  | complete (key : CacheKey) (id : Nat) (answer : Except ε Json)

variable {κ ε : Type}

/-- The tags that an action invalidates: those it is given, or those of a mutation that succeeds. -/
def Action.invalidated : Action κ ε → List (Tag κ)
  | .invalidate tags => tags
  | .endMutation _ m arg _ answer =>
    match Store.mutationResult m answer with
    | .ok response => m.invalidates response arg
    | .error _ => []
  | _ => []

/-- The store after an action, and the effects of the action. -/
def Store.act [DecidableEq κ] (s : Store κ ε) : Action κ ε → Store κ ε × List (Effect κ ε)
  | .subscribe q arg =>
    match s.subscribe q arg with
    | .ok (_, s, effects) => (s, effects)
    | .error _ => (s, [])
  | .unsubscribe key hasTimer => s.unsubscribe key hasTimer
  | .invalidate tags => s.invalidateTags tags
  | .refetch key => (s.refetch key).2
  | .patch key recipe =>
    match s.patch key recipe with
    | some (_, s) => (s, [])
    | none => (s, [])
  | .revert pair => s.revert pair
  | .beginMutation m arg =>
    match s.beginMutation m arg with
    | .ok (_, _, s) => (s, [])
    | .error _ => (s, [])
  | .endMutation _ m arg pairs answer => (s.endMutation m arg pairs answer).2
  | .evict key generation => s.evict key generation
  | .complete key id answer => s.completeFetch key id answer

/-- One moment of a run. -/
structure Moment (κ ε : Type) : Type 1 where
  /-- How many moments came before. -/
  time : Nat
  before : Store κ ε
  action : Action κ ε

namespace Moment

/-- The moment hits an entry: it invalidates a tag that the entry provides then. -/
def Hits (m : Moment κ ε) (key : CacheKey) (birth : Nat) : Prop :=
  ∃ e, m.before.find? key = some e ∧ e.birth = birth ∧ ∃ t ∈ m.action.invalidated, t ∈ e.tags

/-- At the moment an entry takes up the answer to a request: the one it waits for, and somebody
waits for it. -/
def TakesUp (m : Moment κ ε) (key : CacheKey) (birth id : Nat) (answer : Except ε Json) : Prop :=
  m.action = .complete key id answer ∧
    ∃ e, m.before.find? key = some e ∧ e.birth = birth ∧ e.inFlight = some id ∧ 0 < e.subscribers

variable [DecidableEq κ]

/-- The store after the moment. -/
def after (m : Moment κ ε) : Store κ ε := (m.before.act m.action).1

/-- The effects of the moment. -/
def effects (m : Moment κ ε) : List (Effect κ ε) := (m.before.act m.action).2

/-- The moment starts a request. -/
def Starts (m : Moment κ ε) (fetch : Fetch) : Prop := .send fetch ∈ m.effects

end Moment

/-- It holds of every moment, beside the past that the moment had. -/
def Throughout (P : Moment κ ε → List (Moment κ ε) → Prop) : List (Moment κ ε) → Prop
  | [] => True
  | m :: past => P m past ∧ Throughout P past

instance decidableThroughout {P : Moment κ ε → List (Moment κ ε) → Prop}
    [h : ∀ m past, Decidable (P m past)] : ∀ past, Decidable (Throughout P past)
  | [] => .isTrue trivial
  | m :: past => @instDecidableAnd _ _ (h m past) (decidableThroughout past)

variable [DecidableEq κ]

/-- `Run config past s`: a store that was created with `config` has become `s`. The moments of
`past` have led there, the latest first. -/
inductive Run (config : StoreConfig) : List (Moment κ ε) → Store κ ε → Prop where
  | init : Run config [] (.new config)
  | tail {past : List (Moment κ ε)} {s : Store κ ε} (h : Run config past s) (a : Action κ ε) :
      Run config (⟨past.length, s, a⟩ :: past) (s.act a).1

/-- One moment more. -/
def advance : List (Moment κ ε) × Store κ ε → Action κ ε → List (Moment κ ε) × Store κ ε :=
  fun (past, s) a => (⟨past.length, s, a⟩ :: past, (s.act a).1)

/-- The moments and the store that a list of actions leads to. -/
def play (config : StoreConfig) (actions : List (Action κ ε)) : List (Moment κ ε) × Store κ ε :=
  actions.foldl advance ([], .new config)

theorem run_foldl {config : StoreConfig} {past : List (Moment κ ε)} {s : Store κ ε}
    (h : Run config past s) (actions : List (Action κ ε)) :
    Run config (actions.foldl advance (past, s)).1 (actions.foldl advance (past, s)).2 := by
  induction actions generalizing past s with
  | nil => exact h
  | cons a actions ih => exact ih (.tail h a)

/-- Every list of actions is a run. -/
theorem run_play (config : StoreConfig) (actions : List (Action κ ε)) :
    Run config (play config actions).1 (play config actions).2 :=
  run_foldl .init actions

/-- Every run is a list of actions. -/
theorem Run.eq_play {config : StoreConfig} {past : List (Moment κ ε)} {s : Store κ ε}
    (h : Run config past s) : ∃ actions, play config actions = (past, s) := by
  induction h with
  | init => exact ⟨[], rfl⟩
  | tail _ a ih =>
      obtain ⟨actions, ih⟩ := ih
      refine ⟨actions ++ [a], ?_⟩
      unfold play at ih ⊢
      rw [List.foldl_append, ih]
      rfl

/-- The last moment of a run. -/
theorem Run.of_cons {config : StoreConfig} {m : Moment κ ε} {past : List (Moment κ ε)}
    {s : Store κ ε} (h : Run config (m :: past) s) :
    Run config past m.before ∧ s = m.after ∧ m.time = past.length := by
  cases h with
  | tail h a => exact ⟨h, rfl, rfl⟩

/-- The moments of a run say which store it has led to. -/
theorem Run.store_eq {config : StoreConfig} {past : List (Moment κ ε)} {s s' : Store κ ε}
    (h : Run config past s) (h' : Run config past s') : s = s' := by
  cases past with
  | nil =>
      cases h
      cases h'
      rfl
  | cons m past => rw [h.of_cons.2.1, h'.of_cons.2.1]

/-! ## A scripted query

The actions of the sample runs. The entry is that of the scripted query without a script; what it
provides is what its answers name. -/

namespace Sample

open Portal Simulation

def key : CacheKey := .ofArg "customQuery" .null

def tag (id : String) : Tag TagKind := TagKind.dataProduct.entity id

/-- A result that provides the tags of some entities. -/
def result (ids : List String) : Json :=
  .obj [("tags", .arr (ids.map fun id => .arr [.str "DataProduct", .str id, .bool false]))]

/-- Someone subscribes. -/
def ask : Action TagKind Unit := .subscribe customQuery .null

/-- The request `id` is answered with a result. -/
def answer (id : Nat) (ids : List String) : Action TagKind Unit :=
  .complete key id (.ok (result ids))

end Sample

end TagCache
