import TagCache.Portal.Access
import TagCache.Portal.Catalog
import TagCache.Portal.Platform

/-!
# The endpoints of the portal

Every endpoint, found by its name. Names are unique.
-/

namespace TagCache.Portal

/-- Every endpoint of the portal. -/
def registry : List (Endpoint TagKind) :=
  [.query getAllDataProducts, .query getDataProductById, .query getUserDataProducts,
    .mutation createDataProduct, .mutation updateDataProduct, .mutation removeDataProduct,
    .mutation updateMembershipRole,
    .query getAllDatasets, .query getDatasetById, .query getUserDatasets,
    .mutation createDataset, .mutation removeDataset,
    .query getDataOutputById, .query getDataOutputsByDataProduct,
    .mutation createDataOutput, .mutation removeDataOutput,
    .mutation requestDatasetAccessForDataOutput, .mutation approveDataOutputLink,
    .mutation rejectDataOutputLink, .mutation removeDataOutputDatasetLink,
    .query getRoles, .mutation createRole, .mutation updateRole, .mutation deleteRole,
    .query getCurrentUser, .query getAllUsers, .query getUserPendingActions,
    .query getGlobalRoleAssignments, .mutation createGlobalRoleAssignment,
    .mutation decideGlobalRoleAssignment, .mutation deleteGlobalRoleAssignment,
    .query getAllEnvironments, .query getAuditLogs]

/-- The endpoint with a name. -/
def endpoint? (name : String) : Option (Endpoint TagKind) :=
  registry.find? fun e => e.name = name

example : (registry.map Endpoint.name).Nodup := by decide

end TagCache.Portal
