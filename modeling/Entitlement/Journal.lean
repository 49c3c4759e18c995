/-!
# The journal

Every part of the engine reports what it does as journal records. A record names the component that
wrote it; the component decides through which channel the record is published.
-/

namespace Entitlement

inductive Level where
  | trace
  | debug
  | info
  | success
  | warning
  | error
  | critical
  deriving DecidableEq, Repr

namespace Level

def all : List Level :=
  [.trace, .debug, .info, .success, .warning, .error, .critical]

def label : Level -> String
  | .trace => "TRACE"
  | .debug => "DEBUG"
  | .info => "INFO"
  | .success => "SUCCESS"
  | .warning => "WARNING"
  | .error => "ERROR"
  | .critical => "CRITICAL"

def ofLabel? (label : String) : Option Level :=
  all.find? fun level => level.label = label

def rank : Level -> Nat
  | .trace => 5
  | .debug => 10
  | .info => 20
  | .success => 25
  | .warning => 30
  | .error => 40
  | .critical => 50

end Level

inductive Channel where
  | tree
  | stream
  /-- Records of the one sink that are marked as part of the audit trail. -/
  | audit
  deriving DecidableEq, Repr

inductive Component where
  | graph
  | cache
  | directory
  | service
  | resolver
  | auditSink
  | engine
  | logging
  deriving DecidableEq, Repr

namespace Component

def path : Component -> String
  | .graph => "neo_rbac.domain.graph.hierarchy_graph"
  | .cache => "neo_rbac.infrastructure.cache.hierarchy_cache"
  | .directory => "neo_rbac.infrastructure.repositories.memory_directory"
  | .service => "neo_rbac.application.services.role_hierarchy_service"
  | .resolver => "neo_rbac.application.services.permission_resolver"
  | .auditSink => "neo_rbac.infrastructure.audit.logging_audit_sink"
  | .engine => "neo_rbac.factory"
  | .logging => "neo_rbac.config.logging_config"

def channel : Component -> Channel
  | .graph | .cache | .directory | .logging => .tree
  | .service | .resolver | .engine => .stream
  | .auditSink => .audit

end Component

structure Record where
  component : Component
  level : Level
  message : String
  deriving DecidableEq, Repr

end Entitlement
