/-!
# Kinds and families of faults

Every fault of the engine has a kind, which callers branch on, and belongs to a family, which says
which part of the engine reports it. Faults of collaborators come from families outside the engine
and have no kind.
-/

namespace Entitlement

inductive FaultKind where
  | selfReference
  | cycle
  | relationshipMissing
  | relationshipExists
  | notFound
  | infrastructure
  | audit
  deriving DecidableEq, Repr

namespace FaultKind

def all : List FaultKind :=
  [.selfReference, .cycle, .relationshipMissing, .relationshipExists, .notFound, .infrastructure,
    .audit]

def label : FaultKind -> String
  | .selfReference => "self_reference"
  | .cycle => "cycle"
  | .relationshipMissing => "relationship_missing"
  | .relationshipExists => "relationship_exists"
  | .notFound => "not_found"
  | .infrastructure => "infra_failure"
  | .audit => "audit_failure"

end FaultKind

/-- Who reports a fault: a part of the engine, or something outside it. -/
inductive Family where
  | general
  | hierarchy
  | validation
  | cycle
  | directory
  | notFound
  | permissionNotFound
  | audit
  | value
  | range
  | state
  | field
  | connection
  | timeout
  | system
  deriving DecidableEq, Repr

namespace Family

def all : List Family :=
  [.general, .hierarchy, .validation, .cycle, .directory, .notFound, .permissionNotFound, .audit,
    .value, .range, .state, .field, .connection, .timeout, .system]

def label : Family -> String
  | .general => "NeoRbacError"
  | .hierarchy => "HierarchyError"
  | .validation => "HierarchyValidationError"
  | .cycle => "HierarchyCycleError"
  | .directory => "DirectoryStoreError"
  | .notFound => "NotFoundError"
  | .permissionNotFound => "PermissionNotFoundError"
  | .audit => "AuditError"
  | .value => "ValueError"
  | .range => "OverflowError"
  | .state => "RuntimeError"
  | .field => "AttributeError"
  | .connection => "ConnectionError"
  | .timeout => "TimeoutError"
  | .system => "OSError"

def ofLabel? (label : String) : Option Family :=
  all.find? fun family => family.label = label

def defaultKind? : Family -> Option FaultKind
  | .general | .directory => some .infrastructure
  | .hierarchy | .cycle => some .cycle
  | .validation => some .selfReference
  | .notFound | .permissionNotFound => some .notFound
  | .audit => some .audit
  | .value | .range | .state | .field | .connection | .timeout | .system => none

def isOwn (family : Family) : Bool :=
  family.defaultKind?.isSome

/-- A family of the engine and all families that it refines, the narrowest first. -/
def lineage : Family -> List Family
  | .validation => [.validation, .hierarchy, .general]
  | .cycle => [.cycle, .hierarchy, .general]
  | .permissionNotFound => [.permissionNotFound, .notFound, .general]
  | .hierarchy => [.hierarchy, .general]
  | .directory => [.directory, .general]
  | .notFound => [.notFound, .general]
  | .audit => [.audit, .general]
  | .general => [.general]
  | _ => []

end Family

end Entitlement
