import TagCache.Schema.Basic

/-!
# Users and their pending actions
-/

namespace TagCache.Portal

/-- A user. -/
structure User where
  id : String
  email : String
  externalId : String
  firstName : String
  lastName : String
  isAdmin : Bool
  deriving DecidableEq, Repr

/-- A user as JSON. -/
def User.schema : Schema User :=
  .record "struct User"
    (.field "id" .string .required <|
      .field "email" .string .required <|
      .field "external_id" .string (.default "") <|
      .field "first_name" .string (.default "") <|
      .field "last_name" .string (.default "") <|
      .field "is_admin" .bool (.default false) .done)
    (fun (id, email, externalId, firstName, lastName, isAdmin, ()) =>
      ⟨id, email, externalId, firstName, lastName, isAdmin⟩)
    (fun u => (u.id, u.email, u.externalId, u.firstName, u.lastName, u.isAdmin, ()))

/-- What a request asks for. -/
inductive PendingActionType where
  | dataProductDataset
  | dataOutputDataset
  | dataProductMembership
  | globalRoleAssignment
  deriving DecidableEq, Repr

namespace PendingActionType

/-- The name of a kind of request. -/
def name : PendingActionType → String
  | dataProductDataset => "data_product_dataset"
  | dataOutputDataset => "data_output_dataset"
  | dataProductMembership => "data_product_membership"
  | globalRoleAssignment => "global_role_assignment"

/-- Every kind of request. -/
def all : List PendingActionType :=
  [dataProductDataset, dataOutputDataset, dataProductMembership, globalRoleAssignment]

/-- A kind of request is written as its name. -/
def schema : Schema PendingActionType := .variant (all.map fun t => (t.name, t)) name

end PendingActionType

/-- A request that waits for a decision of the current user. -/
structure PendingAction where
  id : String
  actionType : PendingActionType
  requestedOn : Option String
  deriving DecidableEq, Repr

/-- A pending action as JSON. -/
def PendingAction.schema : Schema PendingAction :=
  .record "struct PendingAction"
    (.field "id" .string .required <|
      .field "pending_action_type" PendingActionType.schema .required <|
      .field "requested_on" (.option .string) (.default none) .done)
    (fun (id, actionType, requestedOn, ()) => ⟨id, actionType, requestedOn⟩)
    (fun a => (a.id, a.actionType, a.requestedOn, ()))

end TagCache.Portal
