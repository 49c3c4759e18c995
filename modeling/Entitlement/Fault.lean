import Entitlement.Fault.Kind
import Entitlement.Hierarchy.Key
import Entitlement.Name
import Entitlement.Text.Quoted
import Entitlement.Text.Shown
import Entitlement.Value
import Entitlement.Violation

/-!
# Faults

A fault is given by its cause. Its family, kind, code, wording and details are all read off the
cause, so that the wording of every fault stands in one place. Faults of collaborators, such as a
directory that cannot be reached, are reported in their own words.
-/

namespace Entitlement

inductive Vocabulary where
  | hierarchyKind
  | change
  | unitType
  | faultKind
  deriving DecidableEq, Repr

def Vocabulary.title : Vocabulary -> String
  | .hierarchyKind => "HierarchyKind"
  | .change => "HierarchyOp"
  | .unitType => "OrgUnitType"
  | .faultKind => "ErrorKind"

structure Report where
  family : Family
  message : String
  kind : Option FaultKind
  code : Option String
  details : List (String × Value)

structure PermissionRequest where
  object : String
  operation : String
  objectId : Option String
  admin : Bool
  context : Option String
  deriving DecidableEq, Repr

structure AuditEvent where
  permission : String
  user : String
  granted : Bool
  deriving DecidableEq, Repr

inductive Fault where
  | invalidName (defect : Name.Defect)
  | unknownLabel (given : Option String) (vocabulary : Vocabulary)
  | objectMissing
  | operationMissing
  | userMissing
  | historyTooSmall
  | historyTooLarge
  | selfEdge (name : Name)
  | closingEdge (child parent : Name)
  | invalidRelationship (violation : Violation) (mustExist : Bool)
  | cacheClosed
  | rowTooShort (count : Nat)
  | rowTooLong
  | rowWithoutName
  | unreadableHierarchy (key : HierarchyKey) (cause : Fault)
  | malformedHierarchy (key : HierarchyKey) (cause : Fault)
  | unreadablePermission (request : PermissionRequest) (cause : Fault)
  | permissionNotFound (request : PermissionRequest)
  | auditFailed (event : AuditEvent) (cause : Fault)
  | reported (report : Report)

namespace Fault

def family : Fault -> Family
  | .invalidName _ | .unknownLabel _ _ | .objectMissing | .operationMissing | .userMissing
  | .historyTooSmall | .rowTooShort _ | .rowTooLong => .value
  | .historyTooLarge => .range
  | .selfEdge _ | .closingEdge _ _ => .cycle
  | .invalidRelationship _ _ => .validation
  | .cacheClosed => .state
  | .rowWithoutName => .field
  | .unreadableHierarchy _ _ | .malformedHierarchy _ _ | .unreadablePermission _ _ => .directory
  | .permissionNotFound _ => .permissionNotFound
  | .auditFailed _ _ => .audit
  | .reported report => report.family

/-- The fault was detected by the engine or reported in its terms. -/
def isOwn (fault : Fault) : Bool :=
  fault.family.isOwn

def message : Fault -> String
  | .invalidName .missing => "Hierarchy node name must not be None"
  | .invalidName .empty => "Hierarchy node name must not be empty"
  | .unknownLabel given vocabulary =>
      s!"{Text.shown (given.map Text.quoted)} is not a valid {vocabulary.title}"
  | .objectMissing => "Permission object name is required"
  | .operationMissing => "Permission operation name is required"
  | .userMissing => "Session user id is required"
  | .historyTooSmall => "History size must be positive"
  | .historyTooLarge => "Python int too large to convert to C ssize_t"
  | .selfEdge name => s!"Cannot add edge [{name.text}] -> [{name.text}]: self reference"
  | .closingEdge child parent =>
      s!"Cannot add edge [{child.text}] -> [{parent.text}]: "
        ++ s!"[{child.text}] is already an ascendant of [{parent.text}]"
  | .invalidRelationship violation _ => s!"validateRelationship {violation.message}"
  | .cacheClosed => "HierarchyCache is closed"
  | .rowTooShort count => s!"not enough values to unpack (expected 2, got {count})"
  | .rowTooLong => "too many values to unpack (expected 2)"
  | .rowWithoutName => "'list' object has no attribute 'name'"
  | .unreadableHierarchy key cause =>
      s!"Failed to load hierarchy [{key.label}]: {cause.message}"
  | .malformedHierarchy key cause =>
      s!"Malformed hierarchy snapshot [{key.label}]: {cause.message}"
  | .unreadablePermission request cause =>
      s!"checkPermission failed to read [{request.object}.{request.operation}]: {cause.message}"
  | .permissionNotFound request =>
      s!"checkPermission DOES NOT EXIST: obj name [{request.object}], "
        ++ s!"obj id [{Text.shown request.objectId}], op name [{request.operation}], "
        ++ s!"admin [{Text.shownBool request.admin}]"
  | .auditFailed event cause =>
      s!"Audit of [{event.permission}] for user [{event.user}] failed: {cause.message}"
  | .reported report => report.message

def kind? : Fault -> Option FaultKind
  | .selfEdge _ => some .selfReference
  | .invalidRelationship violation _ => some violation.kind
  | .reported report => report.family.defaultKind?.map fun kind => report.kind.getD kind
  | fault => fault.family.defaultKind?

def code : Fault -> String
  | .reported report =>
      match report.code with
      | none | some "" => report.family.label
      | some code => code
  | fault => fault.family.label

def details : Fault -> List (String × Value)
  | .selfEdge name => [("child", name.text), ("parent", name.text)]
  | .closingEdge child parent => [("child", child.text), ("parent", parent.text)]
  | .invalidRelationship violation mustExist =>
      [("child", violation.child), ("parent", violation.parent), ("must_exist", mustExist)]
  | .unreadableHierarchy key _ | .malformedHierarchy key _ =>
      [("kind", key.kind.label), ("context_id", key.context)]
  | .unreadablePermission request _ =>
      [("obj_name", request.object), ("op_name", request.operation)]
  | .permissionNotFound request =>
      [("obj_name", request.object), ("op_name", request.operation),
        ("obj_id", Value.ofText? request.objectId), ("admin", request.admin),
        ("context_id", Value.ofText? request.context)]
  | .auditFailed event _ =>
      [("permission_id", event.permission), ("user_id", event.user), ("granted", event.granted)]
  | .reported report => report.details
  | _ => []

def cause? : Fault -> Option Fault
  | .unreadableHierarchy _ cause | .malformedHierarchy _ cause | .unreadablePermission _ cause
  | .auditFailed _ cause => some cause
  | _ => none

def isCycle (fault : Fault) : Bool :=
  fault.family = .cycle

end Fault

def Vocabulary.choose {α : Type} (vocabulary : Vocabulary) (label : α -> String) (members : List α)
    (given : Option String) : Except Fault α :=
  match members.find? (fun member => some (label member) = given) with
  | some member => .ok member
  | none => .error (.unknownLabel given vocabulary)

def HierarchyKind.parse : Option String -> Except Fault HierarchyKind :=
  Vocabulary.choose .hierarchyKind label all

def FaultKind.parse : Option String -> Except Fault FaultKind :=
  Vocabulary.choose .faultKind label all

end Entitlement
