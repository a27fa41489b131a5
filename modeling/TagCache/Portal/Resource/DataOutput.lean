import TagCache.Portal.Resource.Link

/-!
# Data outputs

A data output belongs to a data product and writes into datasets, through links.
-/

namespace TagCache.Portal

/-- A data output. -/
structure DataOutput where
  id : String
  name : String
  namespaceName : String
  description : String
  /-- The data product that owns the output. -/
  ownerId : String
  platformId : Option String
  datasetLinks : List DatasetLink
  deriving DecidableEq, Repr

/-- A data output as JSON. -/
def DataOutput.schema : Schema DataOutput :=
  .record "struct DataOutput"
    (.field "id" .string .required <|
      .field "name" .string (.default "") <|
      .field "namespace" .string (.default "") <|
      .field "description" .string (.default "") <|
      .field "owner_id" .string (.default "") <|
      .field "platform_id" (.option .string) (.default none) <|
      .field "dataset_links" (.list DatasetLink.schema) (.default []) .done)
    (fun (id, name, space, description, ownerId, platformId, datasetLinks, ()) =>
      ⟨id, name, space, description, ownerId, platformId, datasetLinks⟩)
    (fun o => (o.id, o.name, o.namespaceName, o.description, o.ownerId, o.platformId,
      o.datasetLinks, ()))

/-- What is needed to create a data output. -/
structure DataOutputCreate where
  dataProductId : String
  name : String
  namespaceName : String
  description : String
  platformId : String
  /-- Settings of the platform, passed on unchanged. -/
  configuration : Json
  deriving DecidableEq

/-- A creation as JSON. -/
def DataOutputCreate.schema : Schema DataOutputCreate :=
  .record "struct DataOutputCreate"
    (.field "data_product_id" .string .required <|
      .field "name" .string .required <|
      .field "namespace" .string .required <|
      .field "description" .string .required <|
      .field "platform_id" .string .required <|
      .field "configuration" .any .required .done)
    (fun (dataProductId, name, space, description, platformId, configuration, ()) =>
      ⟨dataProductId, name, space, description, platformId, configuration⟩)
    (fun o => (o.dataProductId, o.name, o.namespaceName, o.description, o.platformId,
      o.configuration, ()))

/-- Names a data output and the data product that owns it. -/
structure DataOutputRemoval where
  dataOutputId : String
  dataProductId : String
  deriving DecidableEq, Repr

/-- A removal as JSON. -/
def DataOutputRemoval.schema : Schema DataOutputRemoval :=
  .record "struct DataOutputRemoval"
    (.field "data_output_id" .string .required <|
      .field "data_product_id" .string .required .done)
    (fun (dataOutputId, dataProductId, ()) => ⟨dataOutputId, dataProductId⟩)
    (fun r => (r.dataOutputId, r.dataProductId, ()))

/-- A request of a data output to write into a dataset. -/
structure DatasetAccessRequest where
  dataProductId : String
  dataOutputId : String
  datasetId : String
  deriving DecidableEq, Repr

/-- An access request as JSON. -/
def DatasetAccessRequest.schema : Schema DatasetAccessRequest :=
  .record "struct DatasetAccessRequest"
    (.field "data_product_id" .string .required <|
      .field "data_output_id" .string .required <|
      .field "dataset_id" .string .required .done)
    (fun (dataProductId, dataOutputId, datasetId, ()) =>
      ⟨dataProductId, dataOutputId, datasetId⟩)
    (fun r => (r.dataProductId, r.dataOutputId, r.datasetId, ()))

/-- Names a link between a data output and a dataset, and both of its sides. -/
structure DatasetLinkRef where
  dataProductId : String
  datasetId : String
  datasetLinkId : String
  deriving DecidableEq, Repr

/-- A reference to a link as JSON. -/
def DatasetLinkRef.schema : Schema DatasetLinkRef :=
  .record "struct DatasetLinkRef"
    (.field "data_product_id" .string .required <|
      .field "dataset_id" .string .required <|
      .field "dataset_link_id" .string .required .done)
    (fun (dataProductId, datasetId, datasetLinkId, ()) =>
      ⟨dataProductId, datasetId, datasetLinkId⟩)
    (fun r => (r.dataProductId, r.datasetId, r.datasetLinkId, ()))

end TagCache.Portal
