import TagCache.Endpoint
import TagCache.Portal.Resource.DataOutput
import TagCache.Portal.Resource.DataProduct
import TagCache.Portal.Resource.Dataset
import TagCache.Portal.TagKind

/-!
# Endpoints of the catalog

Data products, datasets, data outputs and the links between them. A single entity provides its
own tag and the tags of what it links to; a list provides its collection and every item; the
items of a user provide the collection, the user and every item. A mutation invalidates every
kind whose views could have changed, and operations on the same kind of link invalidate the same
tags.
-/

namespace TagCache.Portal

open TagKind (dataProduct dataset dataOutput userDataProducts userDatasets userPendingActions)

/-! ## Data products -/

/-- Every data product. -/
def getAllDataProducts : Query TagKind Unit (List DataProduct) where
  name := "getAllDataProducts"
  argument := .unit
  result := .list DataProduct.schema
  request _ := .ok (.get "/api/data_products")
  provides products _ := dataProduct.listTags (products.map (·.id))

/-- One data product. -/
def getDataProductById : Query TagKind String DataProduct where
  name := "getDataProductById"
  argument := .string
  result := DataProduct.schema
  request id := .ok (.get ("/api/data_products/" ++ id))
  provides product _ :=
    dataProduct.entity product.id
      :: product.datasetLinks.map fun link => dataset.entity link.datasetId

/-- The data products that a user is a member of. -/
def getUserDataProducts : Query TagKind String (List DataProduct) where
  name := "getUserDataProducts"
  argument := .string
  result := .list DataProduct.schema
  request userId := .ok (.get ("/api/users/" ++ userId ++ "/data_products"))
  provides products userId :=
    userDataProducts.collection :: userDataProducts.entity userId
      :: products.map fun product => dataProduct.entity product.id

/-- Creates a data product. -/
def createDataProduct : Mutation TagKind DataProductCreate IdResponse where
  name := "createDataProduct"
  argument := DataProductCreate.schema
  result := IdResponse.schema
  request product :=
    .ok ((Request.of .post "/api/data_products").withJson
      (DataProductCreate.schema.encode product))
  invalidates _ product := dataProduct.collection :: product.owners.map userDataProducts.entity

/-- Changes a data product. -/
def updateDataProduct : Mutation TagKind DataProductUpdate IdResponse where
  name := "updateDataProduct"
  argument := DataProductUpdate.schema
  result := IdResponse.schema
  request update :=
    .ok ((Request.of .put ("/api/data_products/" ++ update.dataProductId)).withJson
      (DataProductUpdate.schema.encode update))
  invalidates _ update :=
    [dataProduct.entity update.dataProductId, dataProduct.collection, userDataProducts.collection]

/-- Removes a data product. -/
def removeDataProduct : Mutation TagKind String Unit where
  name := "removeDataProduct"
  argument := .string
  result := .unit
  request id := .ok (.of .delete ("/api/data_products/" ++ id))
  invalidates _ id :=
    [dataProduct.entity id, dataProduct.collection, userDataProducts.collection,
      dataset.collection, dataOutput.collection, userPendingActions.collection]

/-- Whether an item of a list of memberships is an object with this id. -/
def isMembership (membershipId : String) (membership : Json) : Bool :=
  (membership.get? "id").bind Json.str? = some membershipId

/-- Replaces the role of the updated membership in a cached data product. -/
def membershipRolePatch (update : MembershipRoleUpdate) (product : Json) : Option Patch := do
  let memberships ← (← product.get? "memberships").arr?
  let index ← memberships.findIdx? (isMembership update.membershipId)
  let place := Json.Pointer.ofTokens ["memberships", toString index, "role"]
  return .replace place (MembershipRole.schema.encode update.role)

/-- Changes the role of a member; the cached data product shows the new role right away. -/
def updateMembershipRole : Mutation TagKind MembershipRoleUpdate IdResponse where
  name := "updateMembershipRole"
  argument := MembershipRoleUpdate.schema
  result := IdResponse.schema
  request update :=
    .ok ((Request.of .put
        ("/api/data_product_memberships/" ++ update.membershipId ++ "/role")).withJson
      (.obj [("role", MembershipRole.schema.encode update.role)]))
  invalidates _ update :=
    [dataProduct.entity update.dataProductId, userDataProducts.collection,
      userPendingActions.collection]
  prediction := some {
    targets := fun update => (getDataProductById.key update.dataProductId).toOption.toList
    recipe := membershipRolePatch }

/-! ## Datasets -/

/-- Every dataset. -/
def getAllDatasets : Query TagKind Unit (List Dataset) where
  name := "getAllDatasets"
  argument := .unit
  result := .list Dataset.schema
  request _ := .ok (.get "/api/datasets")
  provides datasets _ := dataset.listTags (datasets.map (·.id))

/-- One dataset. -/
def getDatasetById : Query TagKind String Dataset where
  name := "getDatasetById"
  argument := .string
  result := Dataset.schema
  request id := .ok (.get ("/api/datasets/" ++ id))
  provides found _ :=
    dataset.entity found.id
      :: found.dataProductLinks.map fun link => dataProduct.entity link.dataProductId

/-- The datasets that a user owns. -/
def getUserDatasets : Query TagKind String (List Dataset) where
  name := "getUserDatasets"
  argument := .string
  result := .list Dataset.schema
  request userId := .ok (.get ("/api/users/" ++ userId ++ "/datasets"))
  provides datasets userId :=
    userDatasets.collection :: userDatasets.entity userId
      :: datasets.map fun found => dataset.entity found.id

/-- Creates a dataset. -/
def createDataset : Mutation TagKind DatasetCreate IdResponse where
  name := "createDataset"
  argument := DatasetCreate.schema
  result := IdResponse.schema
  request created :=
    .ok ((Request.of .post "/api/datasets").withJson (DatasetCreate.schema.encode created))
  invalidates _ created := dataset.collection :: created.owners.map userDatasets.entity

/-- Removes a dataset. -/
def removeDataset : Mutation TagKind String Unit where
  name := "removeDataset"
  argument := .string
  result := .unit
  request id := .ok (.of .delete ("/api/datasets/" ++ id))
  invalidates _ id :=
    [dataset.entity id, dataset.collection, userDatasets.collection, dataProduct.collection,
      dataOutput.collection, userPendingActions.collection]

/-! ## Data outputs -/

/-- One data output. -/
def getDataOutputById : Query TagKind String DataOutput where
  name := "getDataOutputById"
  argument := .string
  result := DataOutput.schema
  request id := .ok (.get ("/api/data_outputs/" ++ id))
  provides output _ :=
    dataOutput.entity output.id
      :: (if output.ownerId = "" then [] else [dataProduct.entity output.ownerId])
      ++ output.datasetLinks.map fun link => dataset.entity link.datasetId

/-- The data outputs of a data product. -/
def getDataOutputsByDataProduct : Query TagKind String (List DataOutput) where
  name := "getDataOutputsByDataProduct"
  argument := .string
  result := .list DataOutput.schema
  request dataProductId := .ok (.get ("/api/data_products/" ++ dataProductId ++ "/data_outputs"))
  provides outputs dataProductId :=
    dataOutput.listTags (outputs.map (·.id)) ++ [dataProduct.entity dataProductId]

/-- Creates a data output. -/
def createDataOutput : Mutation TagKind DataOutputCreate IdResponse where
  name := "createDataOutput"
  argument := DataOutputCreate.schema
  result := IdResponse.schema
  request output :=
    .ok ((Request.of .post
        ("/api/data_products/" ++ output.dataProductId ++ "/data_output")).withJson
      (DataOutputCreate.schema.encode output))
  invalidates _ output := [dataOutput.collection, dataProduct.entity output.dataProductId]

/-- Removes a data output. -/
def removeDataOutput : Mutation TagKind DataOutputRemoval Unit where
  name := "removeDataOutput"
  argument := DataOutputRemoval.schema
  result := .unit
  request removal := .ok (.of .delete ("/api/data_outputs/" ++ removal.dataOutputId))
  invalidates _ removal :=
    [dataOutput.entity removal.dataOutputId, dataOutput.collection,
      dataProduct.entity removal.dataProductId, dataset.collection]

/-! ## Links between data outputs and datasets -/

/-- Everything that shows either side of a link between a data output and a dataset. -/
def linkTags (dataProductId datasetId : String) : List (Tag TagKind) :=
  [dataProduct.entity dataProductId, dataProduct.collection, dataset.entity datasetId,
    dataset.collection, dataOutput.collection, userDataProducts.collection,
    userDatasets.collection, userPendingActions.collection]

/-- Asks for a link. -/
def requestDatasetAccessForDataOutput : Mutation TagKind DatasetAccessRequest IdResponse where
  name := "requestDatasetAccessForDataOutput"
  argument := DatasetAccessRequest.schema
  result := IdResponse.schema
  request access :=
    .ok (.of .post
      ("/api/data_outputs/" ++ access.dataOutputId ++ "/dataset/" ++ access.datasetId))
  invalidates _ access :=
    linkTags access.dataProductId access.datasetId ++ [dataOutput.entity access.dataOutputId]

/-- Approves a link. -/
def approveDataOutputLink : Mutation TagKind DatasetLinkRef Unit where
  name := "approveDataOutputLink"
  argument := DatasetLinkRef.schema
  result := .unit
  request link :=
    .ok (.of .post ("/api/data_output_dataset_links/approve/" ++ link.datasetLinkId))
  invalidates _ link := linkTags link.dataProductId link.datasetId

/-- Rejects a link. -/
def rejectDataOutputLink : Mutation TagKind DatasetLinkRef Unit where
  name := "rejectDataOutputLink"
  argument := DatasetLinkRef.schema
  result := .unit
  request link :=
    .ok (.of .post ("/api/data_output_dataset_links/deny/" ++ link.datasetLinkId))
  invalidates _ link := linkTags link.dataProductId link.datasetId

/-- Removes a link. -/
def removeDataOutputDatasetLink : Mutation TagKind DatasetLinkRef Unit where
  name := "removeDataOutputDatasetLink"
  argument := DatasetLinkRef.schema
  result := .unit
  request link := .ok (.of .delete ("/api/data_output_dataset_links/" ++ link.datasetLinkId))
  invalidates _ link := linkTags link.dataProductId link.datasetId

end TagCache.Portal
