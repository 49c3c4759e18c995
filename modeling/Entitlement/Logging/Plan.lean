import Entitlement.Fault.Kind
import Entitlement.Journal
import Entitlement.Settings.Basic
import Entitlement.Table
import Entitlement.Text.Case

/-!
# Logging plans

A logging plan says where journal records go. Records of the logger tree go to one console, whose
threshold follows from the verbosity; the logger of the engine has a threshold of its own, and the
loggers that report every edit of a graph are quiet unless they are asked for. All other records go
to one sink.
-/

namespace Entitlement

/-- The threshold for a verbosity, given in any letter case. Unknown ones count as normal. -/
def verbosityThreshold (verbosity : String) : Level :=
  match Text.upper verbosity with
  | "QUIET" => .error
  | "VERBOSE" => .info
  | "DEBUG" => .debug
  | _ => .warning

namespace LogFormat

def treeTemplate : LogFormat -> String
  | .simple => "%(asctime)s - %(levelname)s - %(message)s"
  | .detailed =>
      "%(asctime)s - %(name)s - %(levelname)s - [%(filename)s:%(lineno)d] - %(message)s"
  | .json =>
      "\x7b\"time\":\"%(asctime)s\",\"level\":\"%(levelname)s\",\"module\":\"%(name)s\","
        ++ "\"message\":\"%(message)s\"\x7d"

def streamTemplate : LogFormat -> String
  | .simple => "\x7btime:YYYY-MM-DD HH:mm:ss\x7d - \x7blevel\x7d - \x7bmessage\x7d"
  | .detailed =>
      "\x7btime:YYYY-MM-DD HH:mm:ss\x7d - \x7bname\x7d - \x7blevel\x7d - "
        ++ "[\x7bfile\x7d:\x7bline\x7d] - \x7bmessage\x7d"
  | .json => "\x7bmessage\x7d"

end LogFormat

structure LoggingPlan where
  threshold : Level
  layout : LogFormat
  /-- Thresholds of further loggers, by path. These do not pass records on to their ancestors. -/
  loggers : Table String String
  streamThreshold : String
  deriving DecidableEq, Repr

namespace LoggingPlan

def mainLogger : String := "neo_rbac"

def editLoggers : List String :=
  ["neo_rbac.domain.graph", "neo_rbac.infrastructure.cache"]

def ofSettings (settings : Settings) : LoggingPlan :=
  let threshold := verbosityThreshold settings.logVerbosity
  let quiet := if threshold = .debug then Level.debug else Level.warning
  let edits :=
    if settings.hierarchyLogging then [] else editLoggers.map fun path => (path, quiet.label)
  { threshold
    layout := settings.logFormat
    loggers := (mainLogger, settings.logLevel) :: edits
    streamThreshold := settings.logLevel }

def loggerValue (level : String) : Value :=
  .record [("level", level), ("handlers", .list [.text "console"]), ("propagate", false)]

def treeValue (plan : LoggingPlan) : Value :=
  let console : Value :=
    .record [("class", "logging.StreamHandler"), ("level", plan.threshold.label),
      ("formatter", "default"), ("stream", "ext://sys.stdout")]
  let formatter : Value :=
    .record [("format", plan.layout.treeTemplate), ("datefmt", "%Y-%m-%d %H:%M:%S")]
  .record [
    ("version", .number 1 0),
    ("disable_existing_loggers", false),
    ("formatters", .record [("default", formatter)]),
    ("handlers", .record [("console", console)]),
    ("root", .record [("level", plan.threshold.label), ("handlers", .list [.text "console"])]),
    ("loggers", .record (plan.loggers.map fun row => (row.1, loggerValue row.2)))]

def streamValue (plan : LoggingPlan) : Value :=
  .record [("sink", "stdout"), ("level", plan.streamThreshold),
    ("format", plan.layout.streamTemplate), ("serialize", .bool (plan.layout = .json))]

end LoggingPlan

end Entitlement
