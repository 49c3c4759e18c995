/-!
# The release

The version of the program and the names that it offers to its users.
-/

namespace Entitlement
namespace Release

def version : String := "0.1.0"

def names : List String :=
  ["AuditError", "AuditSinkProtocol", "AuthorizationEngine", "AuthorizationResult",
    "DirectoryStoreError", "DirectoryStoreProtocol", "ErrorKind", "GraphableProtocol",
    "HierarchyCache", "HierarchyCycleError", "HierarchyError", "HierarchyGraph", "HierarchyKey",
    "HierarchyKind", "HierarchyOp", "HierarchyValidationError", "InMemoryDirectoryStore",
    "LoggingAuditSink", "NeoRbacError", "NotFoundError", "OrgUnit", "OrgUnitType", "Permission",
    "PermissionNotFoundError", "PermissionResolver", "RbacSettings", "Relationship",
    "RelationshipViolation", "Role", "RoleHierarchyService", "Session", "__version__",
    "create_authorization_engine", "get_settings", "setup_logging"]

end Release
end Entitlement
