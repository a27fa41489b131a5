import TagCache.Endpoint
import TagCache.Portal.Resource.Platform
import TagCache.Portal.TagKind

/-!
# Endpoints of the platform

Environments and the audit log.
-/

namespace TagCache.Portal

/-- Every environment. -/
def getAllEnvironments : Query TagKind Unit (List Environment) where
  name := "getAllEnvironments"
  argument := .unit
  result := .list Environment.schema
  request _ := .ok (.get "/api/envs")
  provides environments _ := TagKind.environment.listTags (environments.map (·.id))

/-- A page of the audit log. Entries never change, only the log as a whole grows. -/
def getAuditLogs : Query TagKind AuditLogPage (List AuditLog) where
  name := "getAuditLogs"
  argument := AuditLogPage.schema
  result := .list AuditLog.schema
  request page :=
    .ok (((Request.get "/api/audit_logs").withQuery "limit" (toString page.limit.toNat)).withQuery
      "offset" (toString page.offset.toNat))
  provides _ _ := [TagKind.auditLog.collection]

end TagCache.Portal
