import TagCache.Portal.Resource.Link

/-!
# Data products

A data product has members with a role and reads datasets through links.
-/

namespace TagCache.Portal

/-- The role of a member. -/
inductive MembershipRole where
  | owner
  | member
  deriving DecidableEq, Repr

namespace MembershipRole

/-- The name of a role. -/
def name : MembershipRole → String
  | owner => "owner"
  | member => "member"

/-- A role is written as its name. -/
def schema : Schema MembershipRole := .variant ([owner, member].map fun r => (r.name, r)) name

end MembershipRole

/-- A member of a data product. -/
structure DataProductMembership where
  id : String
  userId : String
  role : MembershipRole
  status : DecisionStatus
  deriving DecidableEq, Repr

/-- A membership as JSON. -/
def DataProductMembership.schema : Schema DataProductMembership :=
  .record "struct DataProductMembership"
    (.field "id" .string .required <|
      .field "user_id" .string (.default "") <|
      .field "role" MembershipRole.schema .required <|
      .field "status" DecisionStatus.schema (.default default) .done)
    (fun (id, userId, role, status, ()) => ⟨id, userId, role, status⟩)
    (fun m => (m.id, m.userId, m.role, m.status, ()))

/-- A data product. -/
structure DataProduct where
  id : String
  name : String
  namespaceName : String
  description : String
  domainId : Option String
  memberships : List DataProductMembership
  datasetLinks : List DatasetLink
  deriving DecidableEq, Repr

/-- A data product as JSON. -/
def DataProduct.schema : Schema DataProduct :=
  .record "struct DataProduct"
    (.field "id" .string .required <|
      .field "name" .string (.default "") <|
      .field "namespace" .string (.default "") <|
      .field "description" .string (.default "") <|
      .field "domain_id" (.option .string) (.default none) <|
      .field "memberships" (.list DataProductMembership.schema) (.default []) <|
      .field "dataset_links" (.list DatasetLink.schema) (.default []) .done)
    (fun (id, name, space, description, domainId, memberships, datasetLinks, ()) =>
      ⟨id, name, space, description, domainId, memberships, datasetLinks⟩)
    (fun p => (p.id, p.name, p.namespaceName, p.description, p.domainId, p.memberships,
      p.datasetLinks, ()))

/-- What is needed to create a data product. -/
structure DataProductCreate where
  name : String
  namespaceName : String
  description : String
  domainId : String
  typeId : String
  /-- The users that become owners. -/
  owners : List String
  deriving DecidableEq, Repr

/-- A creation as JSON. -/
def DataProductCreate.schema : Schema DataProductCreate :=
  .record "struct DataProductCreate"
    (.field "name" .string .required <|
      .field "namespace" .string .required <|
      .field "description" .string .required <|
      .field "domain_id" .string .required <|
      .field "type_id" .string .required <|
      .field "owners" (.list .string) .required .done)
    (fun (name, space, description, domainId, typeId, owners, ()) =>
      ⟨name, space, description, domainId, typeId, owners⟩)
    (fun p => (p.name, p.namespaceName, p.description, p.domainId, p.typeId, p.owners, ()))

/-- A change of a data product. -/
structure DataProductUpdate where
  dataProductId : String
  name : String
  description : String
  domainId : String
  deriving DecidableEq, Repr

/-- A change as JSON. -/
def DataProductUpdate.schema : Schema DataProductUpdate :=
  .record "struct DataProductUpdate"
    (.field "data_product_id" .string .required <|
      .field "name" .string .required <|
      .field "description" .string .required <|
      .field "domain_id" .string .required .done)
    (fun (dataProductId, name, description, domainId, ()) =>
      ⟨dataProductId, name, description, domainId⟩)
    (fun u => (u.dataProductId, u.name, u.description, u.domainId, ()))

/-- A change of the role of one member. -/
structure MembershipRoleUpdate where
  dataProductId : String
  membershipId : String
  role : MembershipRole
  deriving DecidableEq, Repr

/-- A change of a role as JSON. -/
def MembershipRoleUpdate.schema : Schema MembershipRoleUpdate :=
  .record "struct MembershipRoleUpdate"
    (.field "data_product_id" .string .required <|
      .field "membership_id" .string .required <|
      .field "role" MembershipRole.schema .required .done)
    (fun (dataProductId, membershipId, role, ()) => ⟨dataProductId, membershipId, role⟩)
    (fun u => (u.dataProductId, u.membershipId, u.role, ()))

end TagCache.Portal
