import TagCache.Schema.Basic

/-!
# Links and decisions

A link joins two entities and waits for a decision until it is approved or denied.
-/

namespace TagCache.Portal

/-- The decision on a request. -/
inductive DecisionStatus where
  | pending
  | approved
  | denied
  deriving DecidableEq, Repr

namespace DecisionStatus

/-- The name of a decision. -/
def name : DecisionStatus → String
  | pending => "pending"
  | approved => "approved"
  | denied => "denied"

/-- A decision is written as its name. -/
def schema : Schema DecisionStatus :=
  .variant ([pending, approved, denied].map fun d => (d.name, d)) name

/-- A request without a decision is pending. -/
instance : Inhabited DecisionStatus := ⟨pending⟩

end DecisionStatus

/-- A link to a dataset, of a data product that reads it or a data output that writes it. -/
structure DatasetLink where
  id : String
  datasetId : String
  status : DecisionStatus
  deriving DecidableEq, Repr

/-- A dataset link as JSON. -/
def DatasetLink.schema : Schema DatasetLink :=
  .record "struct DatasetLink"
    (.field "id" .string .required <|
      .field "dataset_id" .string .required <|
      .field "status" DecisionStatus.schema (.default default) .done)
    (fun (id, datasetId, status, ()) => ⟨id, datasetId, status⟩)
    (fun l => (l.id, l.datasetId, l.status, ()))

/-- A link to a data product that reads a dataset. -/
structure DataProductLink where
  id : String
  dataProductId : String
  status : DecisionStatus
  deriving DecidableEq, Repr

/-- A data product link as JSON. -/
def DataProductLink.schema : Schema DataProductLink :=
  .record "struct DataProductLink"
    (.field "id" .string .required <|
      .field "data_product_id" .string .required <|
      .field "status" DecisionStatus.schema (.default default) .done)
    (fun (id, dataProductId, status, ()) => ⟨id, dataProductId, status⟩)
    (fun l => (l.id, l.dataProductId, l.status, ()))

/-- The answer to a call that creates or changes an entity. -/
structure IdResponse where
  id : String
  deriving DecidableEq, Repr

/-- An id response as JSON. -/
def IdResponse.schema : Schema IdResponse :=
  .record "struct IdResponse" (.field "id" .string .required .done)
    (fun (id, ()) => ⟨id⟩) (fun r => (r.id, ()))

end TagCache.Portal
