import TagCache.Schema.Basic

/-!
# Environments and the audit log
-/

namespace TagCache.Portal

/-- An environment that data products are deployed to. -/
structure Environment where
  id : String
  name : String
  context : String
  acronym : String
  isDefault : Bool
  deriving DecidableEq, Repr

/-- An environment as JSON. -/
def Environment.schema : Schema Environment :=
  .record "struct Environment"
    (.field "id" .string .required <|
      .field "name" .string .required <|
      .field "context" .string (.default "") <|
      .field "acronym" .string (.default "") <|
      .field "is_default" .bool (.default false) .done)
    (fun (id, name, context, acronym, isDefault, ()) => ⟨id, name, context, acronym, isDefault⟩)
    (fun e => (e.id, e.name, e.context, e.acronym, e.isDefault, ()))

/-- An entry of the audit log. -/
structure AuditLog where
  id : String
  action : String
  subjectId : String
  targetId : Option String
  statusCode : Option UInt16
  createdOn : String
  deriving DecidableEq, Repr

/-- An entry as JSON. -/
def AuditLog.schema : Schema AuditLog :=
  .record "struct AuditLog"
    (.field "id" .string .required <|
      .field "action" .string .required <|
      .field "subject_id" .string .required <|
      .field "target_id" (.option .string) (.default none) <|
      .field "status_code" (.option .uint16) (.default none) <|
      .field "created_on" .string .required .done)
    (fun (id, action, subjectId, targetId, statusCode, createdOn, ()) =>
      ⟨id, action, subjectId, targetId, statusCode, createdOn⟩)
    (fun l => (l.id, l.action, l.subjectId, l.targetId, l.statusCode, l.createdOn, ()))

/-- A page of the audit log, newest entries first. -/
structure AuditLogPage where
  limit : UInt32
  offset : UInt32
  deriving DecidableEq, Repr

/-- The first page. -/
instance : Inhabited AuditLogPage := ⟨⟨100, 0⟩⟩

/-- A page as JSON. -/
def AuditLogPage.schema : Schema AuditLogPage :=
  .record "struct AuditLogPage"
    (.field "limit" .uint32 .required <| .field "offset" .uint32 .required .done)
    (fun (limit, offset, ()) => ⟨limit, offset⟩) (fun p => (p.limit, p.offset, ()))

end TagCache.Portal
