import Entitlement.Logging.Plan
import Entitlement.Text.Quoted

/-!
# Loggers and sinks

What becomes of records under a logging plan. Loggers form a tree by their dotted paths; a path
names a logger from its first mention on. A logger without a threshold takes that of its nearest
ancestor that has one; a record that passes goes to the consoles of its logger and of the ancestors,
up to the first logger that does not pass records on. Records of the other channels go to the sink,
if there is one.
-/

namespace Entitlement

inductive LoggingFault where
  | unusableLogger (path : String)
  | unknownStreamLevel (level : String)
  | unknownTreeLevel (level : String)
  | unusableThreshold (text : String)
  deriving DecidableEq, Repr

namespace LoggingFault

def family : LoggingFault -> Family
  | .unusableLogger _ | .unknownStreamLevel _ | .unusableThreshold _ => .value
  | .unknownTreeLevel _ => .field

def message : LoggingFault -> String
  | .unusableLogger path => s!"Unable to configure logger '{path}'"
  | .unknownStreamLevel level => s!"Level '{level}' does not exist"
  | .unknownTreeLevel level => s!"module 'logging' has no attribute '{level}'"
  | .unusableThreshold text => s!"Unknown level: {Text.quoted text}"

end LoggingFault

structure Console where
  threshold : Nat
  layout : LogFormat
  deriving DecidableEq, Repr

/-- A member of the logger tree. Threshold zero means that none is set. -/
structure Logger where
  threshold : Nat
  consoles : List Console
  propagates : Bool
  deriving DecidableEq, Repr

structure StreamSink where
  threshold : Level
  layout : LogFormat
  deriving DecidableEq, Repr

structure Loggers where
  root : Logger
  named : Table String Logger
  sink : Option StreamSink

inductive LogLine where
  | plain (line : String)
  | structured (level message text : String)
  deriving DecidableEq, Repr

namespace Loggers

def initial : Loggers where
  root := ⟨Level.warning.rank, [], true⟩
  named := []
  sink := none

/-!
# Thresholds of the tree
-/

/-- The thresholds that the tree knows, by label. Some levels have two labels. -/
def treeLevels : List (String × Nat) :=
  [("CRITICAL", 50), ("FATAL", 50), ("ERROR", 40), ("WARNING", 30), ("WARN", 30), ("INFO", 20),
    ("DEBUG", 10), ("NOTSET", 0)]

def treeRank? (label : String) : Option Nat :=
  treeLevels.lookup label

def templateLabel : String := "BASIC_FORMAT"

def basicTemplate : String := "%(levelname)s:%(name)s:%(message)s"

def treeLabel (rank : Nat) : String :=
  match treeLevels.find? fun level => level.2 = rank with
  | some level => level.1
  | none => s!"Level {rank}"

/-!
# The tree
-/

/--
The parts of a path before its dots, the longest first, where the path and the parts are read
backwards. The character before a dot that counts does not count as a dot itself, and nothing is cut
at a dot in front of the path.
-/
def cuts (counts : Bool) : List Char -> List (List Char)
  | [] => []
  | c :: front =>
      if c = '.' && counts then
        if front.isEmpty then [] else front :: cuts false front
      else
        cuts true front

def candidates (path : String) : List String :=
  (cuts true path.toList.reverse).map fun cut => String.ofList cut.reverse

def rootTitle : String := "root"

def isRoot (path : String) : Bool :=
  path = "" || path = rootTitle

def mentionedBefore (loggers : Loggers) (path : String) : List String :=
  (loggers.named.map (·.1)).takeWhile (· ≠ path)

/--
A path takes a candidate as an ancestor if the candidate has been mentioned. A path that was left to
the root logger stays there when a later candidate is the beginning of the root's name.
-/
def accepts (loggers : Loggers) (path candidate : String) : Bool :=
  if candidate.toList.isPrefixOf rootTitle.toList then
    (loggers.mentionedBefore path).contains candidate
  else
    (loggers.named.get? candidate).isSome

def parent? (loggers : Loggers) (path : String) : Option String :=
  (candidates path).find? (loggers.accepts path)

/-- A path and its ancestors, the nearest one first. The first argument bounds their number. -/
def lineageWithin (loggers : Loggers) : Nat -> String -> List String
  | 0, path => [path]
  | fuel + 1, path =>
      path :: match loggers.parent? path with
        | some parent => lineageWithin loggers fuel parent
        | none => []

def lineage (loggers : Loggers) (path : String) : List String :=
  loggers.lineageWithin path.length path

def chain (loggers : Loggers) (path : String) : List Logger :=
  if isRoot path then
    [loggers.root]
  else
    (loggers.lineage path).filterMap loggers.named.get? ++ [loggers.root]

def effectiveThreshold (loggers : Loggers) (path : String) : Nat :=
  match (loggers.chain path).find? fun logger => logger.threshold ≠ 0 with
  | some logger => logger.threshold
  | none => 0

def reachedConsoles : List Logger -> List Console
  | [] => []
  | logger :: rest =>
      logger.consoles ++ if logger.propagates then reachedConsoles rest else []

def adjust (loggers : Loggers) (path : String) (f : Logger -> Logger) : Loggers :=
  if isRoot path then
    { loggers with root := f loggers.root }
  else
    let logger := (loggers.named.get? path).getD ⟨0, [], true⟩
    { loggers with named := loggers.named.put path (f logger) }

def mention (loggers : Loggers) (path : String) : Loggers :=
  loggers.adjust path id

def setThreshold (loggers : Loggers) (path level : String) :
    Loggers × Except LoggingFault Unit :=
  let label := Text.upper level
  match treeRank? label with
  | some rank => (loggers.adjust path fun logger => { logger with threshold := rank }, .ok ())
  | none =>
      let fault : LoggingFault :=
        if label = templateLabel then .unusableThreshold basicTemplate else .unknownTreeLevel label
      (loggers.mention path, .error fault)

def thresholdLabels : Loggers -> List String -> List (String × String) × Loggers
  | loggers, [] => ([], loggers)
  | loggers, path :: rest =>
      let loggers := loggers.mention path
      let (labels, final) := thresholdLabels loggers rest
      ((path, treeLabel (loggers.effectiveThreshold path)) :: labels, final)

/-!
# Carrying out a plan
-/

def setUp (console : Console) : List (String × String) -> Loggers -> Loggers × Option LoggingFault
  | [], loggers => (loggers, none)
  | (path, level) :: rest, loggers =>
      match treeRank? level with
      | some rank => setUp console rest (loggers.adjust path fun _ => ⟨rank, [console], false⟩)
      | none => (loggers, some (.unusableLogger path))

def isBelow (paths : List String) (path : String) : Bool :=
  !paths.contains path && paths.any fun above => (above ++ ".").isPrefixOf path

def resetBelow (paths : List String) (loggers : Loggers) : Loggers :=
  { loggers with
    named := loggers.named.map fun row =>
      if isBelow paths row.1 then (row.1, ⟨0, [], true⟩) else row }

def applyTree (plan : LoggingPlan) (loggers : Loggers) : Loggers × Option LoggingFault :=
  let console : Console := ⟨plan.threshold.rank, plan.layout⟩
  match setUp console plan.loggers loggers with
  | (loggers, some fault) => (loggers, some fault)
  | (loggers, none) =>
      let loggers := resetBelow (plan.loggers.map (·.1)) loggers
      ({ loggers with root := ⟨plan.threshold.rank, [console], true⟩ }, none)

/-- Carry out the part of a plan about the sink. The former sink goes in any case. -/
def applyStream (plan : LoggingPlan) (loggers : Loggers) : Loggers × Option LoggingFault :=
  match Level.ofLabel? plan.streamThreshold with
  | some threshold => ({ loggers with sink := some ⟨threshold, plan.layout⟩ }, none)
  | none => ({ loggers with sink := none }, some (.unknownStreamLevel plan.streamThreshold))

/-!
# Writing records
-/

def treeLine (layout : LogFormat) (time place path level message : String) : String :=
  match layout with
  | .simple => s!"{time} - {level} - {message}"
  | .detailed => s!"{time} - {path} - {level} - [{place}] - {message}"
  | .json =>
      s!"\x7b\"time\":\"{time}\",\"level\":\"{level}\",\"module\":\"{path}\","
        ++ s!"\"message\":\"{message}\"\x7d"

def streamLine (layout : LogFormat) (time place path level message : String) : LogLine :=
  match layout with
  | .json => .structured level message message
  | layout => .plain (treeLine layout time place path level message)

def title (path : String) : String :=
  if isRoot path then rootTitle else path

def writeTree (loggers : Loggers) (time place path : String) (rank : Nat) (message : String) :
    List LogLine :=
  if rank < loggers.effectiveThreshold path then
    []
  else
    ((reachedConsoles (loggers.chain path)).filter fun console => console.threshold ≤ rank).map
      fun console =>
        .plain (treeLine console.layout time place (title path) (treeLabel rank) message)

def writeStream (loggers : Loggers) (time place path : String) (level : Level)
    (message : String) : List LogLine :=
  match loggers.sink with
  | some sink =>
      if level.rank < sink.threshold.rank then
        []
      else
        [streamLine sink.layout time place path level.label message]
  | none => []

def emitTree (loggers : Loggers) (time place path level message : String) :
    Loggers × Except LoggingFault (List LogLine) :=
  let loggers := loggers.mention path
  match treeRank? level with
  | some rank => (loggers, .ok (loggers.writeTree time place path rank message))
  | none => (loggers, .error (.unknownTreeLevel level))

/--
The lines that a record of the sink leads to if its level is given by a label. Without a sink the
label is not looked at.
-/
def emitStream (loggers : Loggers) (time place path level message : String) :
    Except LoggingFault (List LogLine) :=
  if loggers.sink.isNone then
    .ok []
  else
    match Level.ofLabel? level with
    | some level => .ok (loggers.writeStream time place path level message)
    | none => .error (.unknownStreamLevel level)

def write (loggers : Loggers) (time place : String) (record : Record) : List LogLine :=
  let path := record.component.path
  match record.component.channel with
  | .tree => loggers.writeTree time place path record.level.rank record.message
  | .stream | .audit => loggers.writeStream time place path record.level record.message

def configure (plan : LoggingPlan) (loggers : Loggers) :
    Loggers × Except LoggingFault (List Record) :=
  match applyTree plan loggers with
  | (loggers, some fault) => (loggers, .error fault)
  | (loggers, none) =>
      match applyStream plan loggers with
      | (loggers, some fault) => (loggers, .error fault)
      | (loggers, none) =>
          let level := plan.threshold.label
          (loggers, .ok [⟨.logging, .debug, s!"Logging configured: level={level}"⟩])

def configureFor (settings : Settings) (loggers : Loggers) :
    Loggers × Except LoggingFault (List Record) :=
  if settings.configureLogging then
    configure (LoggingPlan.ofSettings settings) loggers
  else
    (loggers, .ok [])

end Loggers

end Entitlement
