import Entitlement.Hierarchy.Key
import Entitlement.Value

/-!
# Settings

What can be configured: the audit of checks, the sentinel of the global context, the tenants whose
hierarchies are built in advance, and logging.
-/

namespace Entitlement

inductive LogFormat where
  | simple
  | detailed
  | json
  deriving DecidableEq, Repr

namespace LogFormat

def label : LogFormat -> String
  | .simple => "simple"
  | .detailed => "detailed"
  | .json => "json"

def ofLabel? (label : String) : Option LogFormat :=
  [LogFormat.simple, .detailed, .json].find? fun layout => layout.label = label

end LogFormat

/-- The settings of an engine. Levels and verbosity are texts in upper case. -/
structure Settings where
  auditEnabled : Bool
  sentinel : String
  preloadContexts : List String
  configureLogging : Bool
  logLevel : String
  logVerbosity : String
  logFormat : LogFormat
  hierarchyLogging : Bool
  deriving DecidableEq, Repr

inductive Setting where
  | auditEnabled
  | sentinel
  | preloadContexts
  | configureLogging
  | logLevel
  | logVerbosity
  | logFormat
  | hierarchyLogging
  deriving DecidableEq, Repr

namespace Setting

def all : List Setting :=
  [.auditEnabled, .sentinel, .preloadContexts, .configureLogging, .logLevel, .logVerbosity,
    .logFormat, .hierarchyLogging]

def label : Setting -> String
  | .auditEnabled => "audit_enabled"
  | .sentinel => "no_context_sentinel"
  | .preloadContexts => "preload_contexts"
  | .configureLogging => "configure_logging"
  | .logLevel => "log_level"
  | .logVerbosity => "log_verbosity"
  | .logFormat => "log_format"
  | .hierarchyLogging => "enable_hierarchy_logging"

def ofLabel? (label : String) : Option Setting :=
  all.find? fun setting => setting.label = label

end Setting

namespace Settings

def default : Settings where
  auditEnabled := true
  sentinel := Context.defaultSentinel
  preloadContexts := []
  configureLogging := false
  logLevel := "INFO"
  logVerbosity := "NORMAL"
  logFormat := .simple
  hierarchyLogging := false

def value (settings : Settings) : Setting -> Value
  | .auditEnabled => .bool settings.auditEnabled
  | .sentinel => .text settings.sentinel
  | .preloadContexts => .list (settings.preloadContexts.map .text)
  | .configureLogging => .bool settings.configureLogging
  | .logLevel => .text settings.logLevel
  | .logVerbosity => .text settings.logVerbosity
  | .logFormat => .text settings.logFormat.label
  | .hierarchyLogging => .bool settings.hierarchyLogging

def toValue (settings : Settings) : Value :=
  .record (Setting.all.map fun setting => (setting.label, settings.value setting))

end Settings

end Entitlement
