import TagCache.Portal.Resource.Link

/-!
# Datasets

A dataset is read by data products, through links.
-/

namespace TagCache.Portal

/-- Who may read a dataset. -/
inductive AccessType where
  | everyone
  | restricted
  | owners
  deriving DecidableEq, Repr

namespace AccessType

/-- The name of an access type. -/
def name : AccessType → String
  | everyone => "public"
  | restricted => "restricted"
  | owners => "private"

/-- An access type is written as its name. -/
def schema : Schema AccessType :=
  .variant ([everyone, restricted, owners].map fun a => (a.name, a)) name

/-- Everyone may read a dataset unless it says otherwise. -/
instance : Inhabited AccessType := ⟨everyone⟩

end AccessType

/-- A dataset. -/
structure Dataset where
  id : String
  name : String
  namespaceName : String
  description : String
  accessType : AccessType
  dataProductLinks : List DataProductLink
  deriving DecidableEq, Repr

/-- A dataset as JSON. -/
def Dataset.schema : Schema Dataset :=
  .record "struct Dataset"
    (.field "id" .string .required <|
      .field "name" .string (.default "") <|
      .field "namespace" .string (.default "") <|
      .field "description" .string (.default "") <|
      .field "access_type" AccessType.schema (.default default) <|
      .field "data_product_links" (.list DataProductLink.schema) (.default []) .done)
    (fun (id, name, space, description, accessType, links, ()) =>
      ⟨id, name, space, description, accessType, links⟩)
    (fun d => (d.id, d.name, d.namespaceName, d.description, d.accessType, d.dataProductLinks,
      ()))

/-- What is needed to create a dataset. -/
structure DatasetCreate where
  name : String
  namespaceName : String
  description : String
  accessType : AccessType
  domainId : String
  /-- The users that become owners. -/
  owners : List String
  deriving DecidableEq, Repr

/-- A creation as JSON. -/
def DatasetCreate.schema : Schema DatasetCreate :=
  .record "struct DatasetCreate"
    (.field "name" .string .required <|
      .field "namespace" .string .required <|
      .field "description" .string .required <|
      .field "access_type" AccessType.schema .required <|
      .field "domain_id" .string .required <|
      .field "owners" (.list .string) .required .done)
    (fun (name, space, description, accessType, domainId, owners, ()) =>
      ⟨name, space, description, accessType, domainId, owners⟩)
    (fun d => (d.name, d.namespaceName, d.description, d.accessType, d.domainId, d.owners, ()))

end TagCache.Portal
