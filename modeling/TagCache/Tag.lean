import TagCache.Schema.Basic

/-!
# Tags

A tag says what a cached result depends on: one entity of a kind, or the collection of that kind.
The collection has a sentinel of its own, so an entity whose id happens to be spelled `LIST` is
still an entity.
-/

namespace TagCache

/-- Which entities of a kind a tag names. -/
inductive TagId where
  /-- One entity. -/
  | id (text : String)
  /-- The collection. -/
  | list
  deriving DecidableEq, Repr

/-- The spelling of the collection. -/
def listId : String := "LIST"

namespace TagId

/-- Why a text is no tag id. -/
inductive Error where
  | empty
  deriving DecidableEq, Repr

/-- The wording of an error. -/
def Error.message : Error → String
  | empty => "tag id is empty"

/-- Whether the id names the collection. -/
def isList : TagId → Bool
  | id _ => false
  | list => true

/-- The spelling of an id. -/
def text : TagId → String
  | id s => s
  | list => listId

/-- The id with a spelling; `LIST` always names the collection. -/
def parse (s : String) : Except Error TagId :=
  if s = "" then .error .empty else if s = listId then .ok list else .ok (id s)

/-- Entities in the order of their ids, then the collection. -/
def le : TagId → TagId → Bool
  | id a, id b => a ≤ b
  | id _, list => true
  | list, id _ => false
  | list, list => true

/-- An id is written as its spelling. -/
def schema : Schema TagId :=
  .own (fun i => .str i.text) fun
    | .str s => (parse s).mapError fun e => .refused e.message
    | j => .error (.wrongType j "tag id encoded as string")

end TagId

/-- What a cached result depends on. -/
structure Tag (κ : Type) where
  kind : κ
  id : TagId
  deriving DecidableEq, Repr

namespace Tag

variable {κ : Type}

/-- One entity. The id is taken as it is. -/
def entity (kind : κ) (id : String) : Tag κ := ⟨kind, .id id⟩

/-- The collection of a kind. -/
def collection (kind : κ) : Tag κ := ⟨kind, .list⟩

/-- Whether the tag names a collection. -/
def isList (t : Tag κ) : Bool := t.id.isList

/-- Kind and id. -/
def text (kindName : κ → String) (t : Tag κ) : String := kindName t.kind ++ ":" ++ t.id.text

/-- A tag is an object of its kind and its id. -/
def schema (kind : Schema κ) : Schema (Tag κ) :=
  .record "struct Tag"
    (.field "kind" kind .required <| .field "id" TagId.schema .required .done)
    (fun (kind, id, ()) => ⟨kind, id⟩) (fun t => (t.kind, t.id, ()))

end Tag

end TagCache
