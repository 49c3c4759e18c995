import Entitlement.Fault
import Entitlement.Roster

/-!
# Permissions

A permission is an operation on a protected object together with those who may perform it: users
granted directly, and roles.
-/

namespace Entitlement

structure Permission where
  object : String
  operation : String
  objectId : Option String
  /-- The roles are looked up in the hierarchy of administrative roles. -/
  admin : Bool
  users : List (Option String)
  roles : List (Option String)
  context : Option String
  internalId : Option String
  description : Option String
  deriving DecidableEq, Repr

namespace Permission

def isGiven : Option String -> Bool
  | none => false
  | some s => !Text.blank s

def parse (object operation objectId : Option String) (admin : Bool)
    (users roles : List (Option String)) (context internalId description : Option String) :
    Except Fault Permission :=
  if !isGiven object then
    .error .objectMissing
  else if !isGiven operation then
    .error .operationMissing
  else
    .ok {
      object := object.getD ""
      operation := operation.getD ""
      objectId, admin, context, internalId, description
      users := Roster.ofList users
      roles := Roster.ofList roles }

def label (permission : Permission) : String :=
  s!"{permission.object}.{permission.operation}"

def auditId (permission : Permission) : String :=
  match permission.internalId, permission.objectId with
  | some internalId, objectId =>
      if internalId ≠ "" then internalId else labelWithObject objectId
  | none, objectId => labelWithObject objectId
where
  /-- The name of the permission, followed by the identifier of the object if there is one. -/
  labelWithObject : Option String -> String
    | none | some "" => permission.label
    | some objectId => s!"{permission.label}:{objectId}"

def withContext (permission : Permission) (context : Option String) : Permission :=
  { permission with context }

def request (permission : Permission) : PermissionRequest where
  object := permission.object
  operation := permission.operation
  objectId := permission.objectId
  admin := permission.admin
  context := permission.context

def summary (permission : Permission) : String :=
  s!"Permission(obj='{permission.object}', op='{permission.operation}', "
    ++ s!"admin={Text.shownBool permission.admin}, "
    ++ s!"users={permission.users.length}, roles={permission.roles.length})"

end Permission

end Entitlement
