import TagCache.Endpoint
import TagCache.Portal.Resource.Assignment
import TagCache.Portal.Resource.Role
import TagCache.Portal.Resource.User
import TagCache.Portal.TagKind

/-!
# Endpoints of users and their rights

Roles, users, requests that wait for a decision, and assignments of global roles.
-/

namespace TagCache.Portal

open TagKind (role user globalAssignments userPendingActions)

/-! ## Roles -/

/-- The roles of a scope. -/
def getRoles : Query TagKind RoleScope (List Role) where
  name := "getRoles"
  argument := RoleScope.schema
  result := .list Role.schema
  request scope := .ok (.get ("/api/v2/authz/roles/" ++ scope.name))
  provides roles _ := role.listTags (roles.map (·.id))

/-- Creates a role. -/
def createRole : Mutation TagKind RoleCreate Role where
  name := "createRole"
  argument := RoleCreate.schema
  result := Role.schema
  request created :=
    .ok ((Request.of .post "/api/v2/authz/roles").withJson (RoleCreate.schema.encode created))
  invalidates _ _ := [role.collection]

/-- Changes a role. -/
def updateRole : Mutation TagKind RoleUpdate Role where
  name := "updateRole"
  argument := RoleUpdate.schema
  result := Role.schema
  request update :=
    .ok ((Request.of .patch ("/api/v2/authz/roles/" ++ update.id)).withJson
      (RoleUpdate.schema.encode update))
  invalidates _ update :=
    [role.entity update.id, role.collection, globalAssignments.collection]

/-- Removes a role. -/
def deleteRole : Mutation TagKind String Unit where
  name := "deleteRole"
  argument := .string
  result := .unit
  request id := .ok (.of .delete ("/api/v2/authz/roles/" ++ id))
  invalidates _ id := [role.entity id, role.collection, globalAssignments.collection]

/-! ## Users -/

/-- The user who is signed in. -/
def getCurrentUser : Query TagKind Unit User where
  name := "getCurrentUser"
  argument := .unit
  result := User.schema
  request _ := .ok (.get "/api/auth/user")
  provides found _ := [user.entity found.id]

/-- Every user. -/
def getAllUsers : Query TagKind Unit (List User) where
  name := "getAllUsers"
  argument := .unit
  result := .list User.schema
  request _ := .ok (.get "/api/users")
  provides users _ := user.listTags (users.map (·.id))

/-- The requests that wait for a decision of the current user. -/
def getUserPendingActions : Query TagKind Unit (List PendingAction) where
  name := "getUserPendingActions"
  argument := .unit
  result := .list PendingAction.schema
  request _ := .ok (.get "/api/v2/users/current/pending_actions")
  provides _ _ := [userPendingActions.collection]

/-! ## Assignments of global roles -/

/-- Where assignments are found. -/
def globalAssignmentsPath : String := "/api/v2/authz/role_assignments/global"

/-- Everything that shows an assignment: lists, the user, and the inbox of who decides on it. -/
def assignmentTags (assignmentId userId : String) : List (Tag TagKind) :=
  [globalAssignments.entity assignmentId, globalAssignments.collection, user.entity userId,
    user.collection, userPendingActions.collection]

/-- The assignments that a filter lets through. -/
def getGlobalRoleAssignments : Query TagKind AssignmentFilter (List GlobalRoleAssignment) where
  name := "getGlobalRoleAssignments"
  argument := AssignmentFilter.schema
  result := .list GlobalRoleAssignment.schema
  request filter :=
    .ok { Request.get globalAssignmentsPath with
      query := (filter.userId.map fun id => ("user_id", id)).toList
        ++ (filter.roleId.map fun id => ("role_id", id)).toList }
  provides assignments _ := globalAssignments.listTags (assignments.map (·.id))

/-- Creates an assignment. -/
def createGlobalRoleAssignment : Mutation TagKind AssignmentCreate GlobalRoleAssignment where
  name := "createGlobalRoleAssignment"
  argument := AssignmentCreate.schema
  result := GlobalRoleAssignment.schema
  request assignment :=
    .ok ((Request.of .post globalAssignmentsPath).withJson
      (AssignmentCreate.schema.encode assignment))
  invalidates created assignment := assignmentTags created.id assignment.userId

/-- Decides on an assignment. -/
def decideGlobalRoleAssignment : Mutation TagKind AssignmentDecision GlobalRoleAssignment where
  name := "decideGlobalRoleAssignment"
  argument := AssignmentDecision.schema
  result := GlobalRoleAssignment.schema
  request decided :=
    .ok ((Request.of .patch
        (globalAssignmentsPath ++ "/" ++ decided.assignmentId ++ "/decide")).withJson
      (.obj [("decision", DecisionStatus.schema.encode decided.decision)]))
  invalidates _ decided := assignmentTags decided.assignmentId decided.userId

/-- Removes an assignment. -/
def deleteGlobalRoleAssignment : Mutation TagKind AssignmentRef Unit where
  name := "deleteGlobalRoleAssignment"
  argument := AssignmentRef.schema
  result := .unit
  request assignment := .ok (.of .delete (globalAssignmentsPath ++ "/" ++ assignment.assignmentId))
  invalidates _ assignment := assignmentTags assignment.assignmentId assignment.userId

end TagCache.Portal
