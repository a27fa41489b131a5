import TagCache.Tag

/-!
# Kinds of portal entities

The kinds of entities that a cached view of the portal can depend on.
-/

namespace TagCache.Portal

/-- A kind of entities. -/
inductive TagKind where
  | dataProduct
  | dataset
  | dataOutput
  | role
  | user
  | globalAssignments
  | environment
  | auditLog
  /-- Data products that a user is a member of. -/
  | userDataProducts
  /-- Datasets that a user owns. -/
  | userDatasets
  /-- Requests that wait for a decision of the current user. -/
  | userPendingActions
  deriving DecidableEq, Repr

namespace TagKind

/-- Every kind, in the order of the kinds. -/
def all : List TagKind :=
  [dataProduct, dataset, dataOutput, role, user, globalAssignments, environment, auditLog,
    userDataProducts, userDatasets, userPendingActions]

/-- The name of a kind. -/
def name : TagKind → String
  | dataProduct => "DataProduct"
  | dataset => "Dataset"
  | dataOutput => "DataOutput"
  | role => "Role"
  | user => "User"
  | globalAssignments => "GlobalAssignments"
  | environment => "Environment"
  | auditLog => "AuditLog"
  | userDataProducts => "UserDataProducts"
  | userDatasets => "UserDatasets"
  | userPendingActions => "UserPendingActions"

/-- A name that no kind has. -/
structure Unknown where
  name : String
  deriving DecidableEq, Repr

/-- The wording of an unknown name. -/
def Unknown.message (u : Unknown) : String := "unknown tag kind \"" ++ u.name ++ "\""

/-- The kind with a name. -/
def ofName (s : String) : Except Unknown TagKind :=
  match all.find? fun k => k.name = s with
  | some k => .ok k
  | none => .error ⟨s⟩

/-- The place of a kind in the order of kinds. -/
def rank : TagKind → Nat := all.idxOf

/-- A kind is written as its name. -/
def schema : Schema TagKind := .variant (all.map fun k => (k.name, k)) name

/-- The tag of one entity. -/
def entity (k : TagKind) (id : String) : Tag TagKind := .entity k id

/-- The tag of a collection. -/
def collection (k : TagKind) : Tag TagKind := .collection k

/-- The tags of a list: the collection, then every item. -/
def listTags (k : TagKind) (ids : List String) : List (Tag TagKind) :=
  k.collection :: ids.map k.entity

end TagKind

end TagCache.Portal
