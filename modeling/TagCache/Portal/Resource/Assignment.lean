import TagCache.Portal.Resource.Link

/-!
# Assignments of global roles

An assignment gives a user a role on the whole platform, once it is approved.
-/

namespace TagCache.Portal

/-- A role given to a user. -/
structure GlobalRoleAssignment where
  id : String
  userId : String
  roleId : String
  decision : DecisionStatus
  deriving DecidableEq, Repr

/-- An assignment as JSON. -/
def GlobalRoleAssignment.schema : Schema GlobalRoleAssignment :=
  .record "struct GlobalRoleAssignment"
    (.field "id" .string .required <|
      .field "user_id" .string .required <|
      .field "role_id" .string .required <|
      .field "decision" DecisionStatus.schema (.default default) .done)
    (fun (id, userId, roleId, decision, ()) => ⟨id, userId, roleId, decision⟩)
    (fun a => (a.id, a.userId, a.roleId, a.decision, ()))

/-- Which assignments are asked for. -/
structure AssignmentFilter where
  userId : Option String
  roleId : Option String
  deriving DecidableEq, Repr

/-- The filter that lets every assignment through. -/
instance : Inhabited AssignmentFilter := ⟨⟨none, none⟩⟩

/-- A filter as JSON. -/
def AssignmentFilter.schema : Schema AssignmentFilter :=
  .record "struct AssignmentFilter"
    (.field "user_id" (.option .string) .nullable <|
      .field "role_id" (.option .string) .nullable .done)
    (fun (userId, roleId, ()) => ⟨userId, roleId⟩) (fun f => (f.userId, f.roleId, ()))

/-- What is needed to create an assignment. -/
structure AssignmentCreate where
  userId : String
  roleId : String
  deriving DecidableEq, Repr

/-- A creation as JSON. -/
def AssignmentCreate.schema : Schema AssignmentCreate :=
  .record "struct AssignmentCreate"
    (.field "user_id" .string .required <| .field "role_id" .string .required .done)
    (fun (userId, roleId, ()) => ⟨userId, roleId⟩) (fun a => (a.userId, a.roleId, ()))

/-- A decision on an assignment. -/
structure AssignmentDecision where
  assignmentId : String
  userId : String
  decision : DecisionStatus
  deriving DecidableEq, Repr

/-- A decision as JSON. -/
def AssignmentDecision.schema : Schema AssignmentDecision :=
  .record "struct AssignmentDecision"
    (.field "assignment_id" .string .required <|
      .field "user_id" .string .required <|
      .field "decision" DecisionStatus.schema .required .done)
    (fun (assignmentId, userId, decision, ()) => ⟨assignmentId, userId, decision⟩)
    (fun a => (a.assignmentId, a.userId, a.decision, ()))

/-- Names an assignment and its user. -/
structure AssignmentRef where
  assignmentId : String
  userId : String
  deriving DecidableEq, Repr

/-- A reference to an assignment as JSON. -/
def AssignmentRef.schema : Schema AssignmentRef :=
  .record "struct AssignmentRef"
    (.field "assignment_id" .string .required <| .field "user_id" .string .required .done)
    (fun (assignmentId, userId, ()) => ⟨assignmentId, userId⟩)
    (fun a => (a.assignmentId, a.userId, ()))

end TagCache.Portal
