import TagCache.Schema.Basic

/-!
# Roles

A role grants permissions on what its scope names.
-/

namespace TagCache.Portal

/-- What a role grants permissions on. -/
inductive RoleScope where
  | global
  | dataProduct
  | dataset
  deriving DecidableEq, Repr

namespace RoleScope

/-- The name of a scope. -/
def name : RoleScope → String
  | global => "global"
  | dataProduct => "data_product"
  | dataset => "dataset"

/-- A scope is written as its name. -/
def schema : Schema RoleScope :=
  .variant ([global, dataProduct, dataset].map fun s => (s.name, s)) name

end RoleScope

/-- A role. -/
structure Role where
  id : String
  name : String
  scope : RoleScope
  description : String
  permissions : List UInt32
  deriving DecidableEq, Repr

/-- A role as JSON. -/
def Role.schema : Schema Role :=
  .record "struct Role"
    (.field "id" .string .required <|
      .field "name" .string .required <|
      .field "scope" RoleScope.schema .required <|
      .field "description" .string (.default "") <|
      .field "permissions" (.list .uint32) (.default []) .done)
    (fun (id, name, scope, description, permissions, ()) =>
      ⟨id, name, scope, description, permissions⟩)
    (fun r => (r.id, r.name, r.scope, r.description, r.permissions, ()))

/-- What is needed to create a role. -/
structure RoleCreate where
  name : String
  scope : RoleScope
  description : String
  permissions : List UInt32
  deriving DecidableEq, Repr

/-- A creation as JSON. -/
def RoleCreate.schema : Schema RoleCreate :=
  .record "struct RoleCreate"
    (.field "name" .string .required <|
      .field "scope" RoleScope.schema .required <|
      .field "description" .string .required <|
      .field "permissions" (.list .uint32) .required .done)
    (fun (name, scope, description, permissions, ()) => ⟨name, scope, description, permissions⟩)
    (fun r => (r.name, r.scope, r.description, r.permissions, ()))

/-- A change of a role. What is absent stays as it is. -/
structure RoleUpdate where
  id : String
  name : Option String
  description : Option String
  permissions : Option (List UInt32)
  deriving DecidableEq, Repr

/-- A change as JSON. -/
def RoleUpdate.schema : Schema RoleUpdate :=
  .record "struct RoleUpdate"
    (.field "id" .string .required <|
      .field "name" (.option .string) .omitted <|
      .field "description" (.option .string) .omitted <|
      .field "permissions" (.option (.list .uint32)) .omitted .done)
    (fun (id, name, description, permissions, ()) => ⟨id, name, description, permissions⟩)
    (fun u => (u.id, u.name, u.description, u.permissions, ()))

end TagCache.Portal
