import TagCache.CacheKey
import TagCache.Patch
import TagCache.Request
import TagCache.Tag

/-!
# Endpoints

An endpoint is a description of one call: its name, the schemas of its argument and its result,
the request it makes, and a pure tag function. A query says which tags its result provides, a
mutation which tags its success invalidates.
-/

namespace TagCache

/-- A reading call, whose result is cached under its name and its argument. -/
structure Query (κ α ρ : Type) where
  name : String
  argument : Schema α
  result : Schema ρ
  /-- Why an argument has no key. -/
  refusal : α → Option String := fun _ => none
  /-- The request, or why there is none. -/
  request : α → Except String Request
  provides : ρ → α → List (Tag κ)

/-- The predicted effect of a mutation on cached results. -/
structure Prediction (α : Type) where
  /-- The entries that the mutation is expected to change. -/
  targets : α → List CacheKey
  /-- The change of the data of one target, or `none` to leave it alone. -/
  recipe : α → Json → Option Patch

/-- A writing call, which invalidates tags once it has succeeded. -/
structure Mutation (κ α ρ : Type) where
  name : String
  argument : Schema α
  result : Schema ρ
  /-- The request, or why there is none. -/
  request : α → Except String Request
  invalidates : ρ → α → List (Tag κ)
  prediction : Option (Prediction α) := none

/-- Where the result of a query for an argument is cached. -/
def Query.key {κ α ρ : Type} (q : Query κ α ρ) (a : α) : Except String CacheKey :=
  match q.refusal a with
  | some reason => .error reason
  | none => .ok (.ofArg q.name (q.argument.encode a))

/-- Either kind of call, for any argument and result. -/
inductive Endpoint (κ : Type) : Type 1
  | query {α ρ : Type} (q : Query κ α ρ)
  | mutation {α ρ : Type} (m : Mutation κ α ρ)

namespace Endpoint

variable {κ : Type}

/-- The name of an endpoint. -/
def name : Endpoint κ → String
  | query q => q.name
  | mutation m => m.name

/-- Whether an endpoint is a query. -/
def isQuery : Endpoint κ → Bool
  | query _ => true
  | mutation _ => false

/-- Whether an endpoint predicts its effect on cached results. -/
def isOptimistic : Endpoint κ → Bool
  | query _ => false
  | mutation m => m.prediction.isSome

end Endpoint

end TagCache
