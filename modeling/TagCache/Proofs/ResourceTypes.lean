import TagCache.Portal.Registry
import TagCache.Proofs.SchemaLaws

/-!
# The types of the portal

What the portal sends and receives is written with lawful schemas, whichever fields are optional,
have a default or are left out when they are empty. So every value is read back from what is written
for it, and a server may add members to its objects without a change of what is read from them. What
is kept as raw JSON is read as it is, and nothing may be added to it.
-/

namespace TagCache.Portal

/-- A type of values that are sent or received. -/
structure ResourceType where
  {Value : Type}
  schema : Schema Value

/-- The types of what is received. -/
def resultTypes : List ResourceType :=
  [⟨DataProduct.schema⟩, ⟨DataProductMembership.schema⟩, ⟨MembershipRole.schema⟩,
    ⟨Dataset.schema⟩, ⟨AccessType.schema⟩, ⟨DataOutput.schema⟩, ⟨DatasetLink.schema⟩,
    ⟨DataProductLink.schema⟩, ⟨DecisionStatus.schema⟩, ⟨Role.schema⟩, ⟨RoleScope.schema⟩,
    ⟨User.schema⟩, ⟨PendingAction.schema⟩, ⟨PendingActionType.schema⟩,
    ⟨GlobalRoleAssignment.schema⟩, ⟨Environment.schema⟩, ⟨AuditLog.schema⟩, ⟨IdResponse.schema⟩]

/-- The types of what is sent. -/
def argumentTypes : List ResourceType :=
  [⟨DataProductCreate.schema⟩, ⟨DataProductUpdate.schema⟩, ⟨MembershipRoleUpdate.schema⟩,
    ⟨DatasetCreate.schema⟩, ⟨DataOutputCreate.schema⟩, ⟨DataOutputRemoval.schema⟩,
    ⟨DatasetAccessRequest.schema⟩, ⟨DatasetLinkRef.schema⟩, ⟨RoleCreate.schema⟩,
    ⟨RoleUpdate.schema⟩, ⟨AssignmentFilter.schema⟩, ⟨AssignmentCreate.schema⟩,
    ⟨AssignmentDecision.schema⟩, ⟨AssignmentRef.schema⟩, ⟨AuditLogPage.schema⟩]

/-! ## Lawful types -/

section

attribute [local simp] Schema.Lawful Shape.Lawful Shape.names Schema.encode Json.int
  Absence.required Absence.default Absence.nullable Absence.omitted

theorem DecisionStatus.lawful : DecisionStatus.schema.Lawful := by
  intro a
  cases a <;> decide

theorem MembershipRole.lawful : MembershipRole.schema.Lawful := by
  intro a
  cases a <;> decide

theorem AccessType.lawful : AccessType.schema.Lawful := by
  intro a
  cases a <;> decide

theorem RoleScope.lawful : RoleScope.schema.Lawful := by
  intro a
  cases a <;> decide

theorem PendingActionType.lawful : PendingActionType.schema.Lawful := by
  intro a
  cases a <;> decide

attribute [local simp] DecisionStatus.lawful MembershipRole.lawful AccessType.lawful
  RoleScope.lawful PendingActionType.lawful

theorem lawful_resultTypes : ∀ t ∈ resultTypes, t.schema.Lawful := by
  simp [resultTypes, DataProduct.schema, DataProductMembership.schema, Dataset.schema,
    DataOutput.schema, DatasetLink.schema, DataProductLink.schema, Role.schema, User.schema,
    PendingAction.schema, GlobalRoleAssignment.schema, Environment.schema, AuditLog.schema,
    IdResponse.schema]

theorem lawful_argumentTypes : ∀ t ∈ argumentTypes, t.schema.Lawful := by
  simp [argumentTypes, DataProductCreate.schema, DataProductUpdate.schema,
    MembershipRoleUpdate.schema, DatasetCreate.schema, DataOutputCreate.schema,
    DataOutputRemoval.schema, DatasetAccessRequest.schema, DatasetLinkRef.schema,
    RoleCreate.schema, RoleUpdate.schema, AssignmentFilter.schema, AssignmentCreate.schema,
    AssignmentDecision.schema, AssignmentRef.schema, AuditLogPage.schema]

end

end Portal

namespace Endpoint

/-- What an endpoint takes and what it gives is read as it was written. -/
def Faithful {κ : Type} : Endpoint κ → Prop
  | .query q => q.argument.Faithful ∧ q.result.Faithful
  | .mutation m => m.argument.Faithful ∧ m.result.Faithful

/-- An endpoint takes and gives what is written with lawful schemas. -/
def Lawful {κ : Type} : Endpoint κ → Prop
  | .query q => q.argument.Lawful ∧ q.result.Lawful
  | .mutation m => m.argument.Lawful ∧ m.result.Lawful

theorem Lawful.faithful {κ : Type} {e : Endpoint κ} (h : e.Lawful) : e.Faithful := by
  cases e with
  | query q => exact ⟨h.1.faithful, h.2.faithful⟩
  | mutation m => exact ⟨h.1.faithful, h.2.faithful⟩

end Endpoint

namespace Portal

theorem lawful_registry : ∀ endpoint ∈ registry, endpoint.Lawful := by
  have hresults := lawful_resultTypes
  have harguments := lawful_argumentTypes
  simp only [resultTypes, argumentTypes, List.forall_mem_cons] at hresults harguments
  simp [registry, Endpoint.Lawful, Schema.Lawful, hresults, harguments, getAllDataProducts,
    getDataProductById, getUserDataProducts, createDataProduct, updateDataProduct,
    removeDataProduct, updateMembershipRole, getAllDatasets, getDatasetById, getUserDatasets,
    createDataset, removeDataset, getDataOutputById, getDataOutputsByDataProduct,
    createDataOutput, removeDataOutput, requestDatasetAccessForDataOutput, approveDataOutputLink,
    rejectDataOutputLink, removeDataOutputDatasetLink, getRoles, createRole, updateRole,
    deleteRole, getCurrentUser, getAllUsers, getUserPendingActions, getGlobalRoleAssignments,
    createGlobalRoleAssignment, decideGlobalRoleAssignment, deleteGlobalRoleAssignment,
    getAllEnvironments, getAuditLogs]

/-- **Typed values survive JSON.** A value of any type of the portal is read back from what is
written for it. Whatever a value is read from, it is still read as this value after members that are
no fields have been added to the objects of records, at the top or inside, and after members have
changed places. The same holds of what the endpoints take and give, which are such values, lists of
them, texts or nothing. -/
theorem typed_values_survive :
    (∀ t ∈ resultTypes ++ argumentTypes, t.schema.Faithful) ∧
    ∀ endpoint ∈ registry, endpoint.Faithful := by
  refine ⟨fun t ht => ?_, fun endpoint hendpoint => (lawful_registry endpoint hendpoint).faithful⟩
  rcases List.mem_append.mp ht with ht | ht
  · exact (lawful_resultTypes t ht).faithful
  · exact (lawful_argumentTypes t ht).faithful

/-! ### A data product with members that nobody knows -/

namespace Sample

/-- A data product with an owner. -/
def owned : DataProduct := ⟨"dp-1", "", "", "", none, [⟨"m-1", "", .owner, .pending⟩], []⟩

/-- The object of a data product, with some members in front and those of a membership inside. -/
def productWith (front membership : Json.Members) : Json :=
  .obj (front ++ [("id", .str "dp-1"), ("memberships", .arr [.obj membership])])

/-- The members of a membership, the other way round. -/
def turned : Json.Members := [("role", .str "owner"), ("id", .str "m-1")]

/-- A creation with settings. -/
def creation : DataOutputCreate :=
  ⟨"dp-1", "out", "", "", "p-1", .obj [("bucket", .str "b"), ("retries", .int 3)]⟩

end Sample

/-- A data product and a creation that were written are read again. A data product is read as the
same after the members of the membership in it have changed places, one has been added to them, and
another to the data product itself. -/
theorem typed_values_survive_extended :
    DataProduct.schema.decode (DataProduct.schema.encode Sample.owned) = .ok Sample.owned ∧
    DataOutputCreate.schema.decode (DataOutputCreate.schema.encode Sample.creation) =
      .ok Sample.creation ∧
    DataProduct.schema.decode (Sample.productWith []
      [("id", .str "m-1"), ("role", .str "owner")]) = .ok Sample.owned ∧
    DataProduct.schema.decode (Sample.productWith [("owner_count", .int 1)]
      (Sample.turned ++ [("since", .arr [])])) = .ok Sample.owned := by
  obtain ⟨htypes, _⟩ := typed_values_survive
  have hproduct := htypes ⟨DataProduct.schema⟩ (by simp [resultTypes])
  have hcreation := htypes ⟨DataOutputCreate.schema⟩ (by simp [argumentTypes])
  have hread : DataProduct.schema.decode (Sample.productWith []
      [("id", .str "m-1"), ("role", .str "owner")]) = .ok Sample.owned := rfl
  refine ⟨hproduct.read_written _, hcreation.read_written _, hread,
    hproduct.read_respelled _ _ _ ?_ hread⟩
  have hinside : ∀ ms ns, DataProductMembership.schema.Respells (.obj ms) (.obj ns) →
      DataProduct.schema.Respells (Sample.productWith [] ms) (Sample.productWith [] ns) := by
    intro ms ns h
    refine .inr (.inr (.mk [("id", .str "dp-1")] [] ?_))
    exact ⟨by simp, by simp, by simp, by simp, by simp, fun _ => .mk [] [] h, by simp, trivial⟩
  have hswapped : DataProduct.schema.Respells _ (Sample.productWith [] Sample.turned) :=
    hinside [("id", .str "m-1"), ("role", .str "owner")] _ (.inr (.inl (.mk [] [] (by decide))))
  have hsince : "since" ∉ ["id", "user_id", "role", "status"] := by decide
  have hadded := hinside Sample.turned _ (.inl (.mk Sample.turned [] (.arr []) hsince))
  have hcount : "owner_count" ∉ ["id", "name", "namespace", "description", "domain_id",
    "memberships", "dataset_links"] := by decide
  have htop : DataProduct.schema.Respells _ (Sample.productWith [("owner_count", .int 1)]
      (Sample.turned ++ [("since", .arr [])])) := .inl (.mk [] _ (.int 1) hcount)
  exact ((Relation.ReflTransGen.single hswapped).tail hadded).tail htop

end TagCache.Portal
