import Entitlement.Decision
import Entitlement.Engine.Basic
import Entitlement.Session

/-!
# Authorization

A session may perform a permission if its user is granted directly, or if one of its activated
roles, or a role above one of them, is granted. The roles of a session are expanded in the hierarchy
of the tenant that the permission names, or else of the session's own tenant.

A check reads the stored permission, decides, and reports the outcome to the audit sink. A failing
sink is noted in the decision and never changes it.
-/

namespace Entitlement

inductive Verdict where
  | direct
  | ungranted
  | inherited (roles : List Name)
  | unmatched
  deriving DecidableEq

namespace Verdict

def granted : Verdict -> Bool
  | .direct | .inherited _ => true
  | .ungranted | .unmatched => false

def matched : Verdict -> List Name
  | .inherited roles => roles
  | _ => []

def reason : Verdict -> String
  | .direct => "User assigned directly to permission"
  | .ungranted => "Permission has no granted users or roles"
  | .inherited roles => "Inherited roles match: " ++ ", ".intercalate (roles.map (·.text))
  | .unmatched => "No activated or inherited role is granted"

end Verdict

namespace Engine

variable {σ τ : Type}

def contextFor (session : Session) (permission : Permission) : Option String :=
  permission.context <|> session.context

def decide (engine : Engine σ τ) (session : Session) (permission : Permission) :
    Action (World σ τ) Verdict := do
  if permission.users.contains (some session.user) then
    return .direct
  else if permission.roles.isEmpty then
    return .ungranted
  else
    let held ← World.onHierarchies <|
      Hierarchies.inherited engine.directory (.ofRoles permission.admin)
        (session.activated permission.admin) (contextFor session permission)
    let granted := Hierarchies.givenNames permission.roles
    let matched := held.filter fun role => granted.contains role
    return if matched.isEmpty then .unmatched else .inherited matched

def isAuthorized (engine : Engine σ τ) (session : Session) (permission : Permission) :
    Action (World σ τ) Bool := do
  return (← engine.decide session permission).granted

def readStored (engine : Engine σ τ) (request : PermissionRequest) :
    Action (World σ τ) Permission := do
  match ← (World.onDirectory (engine.directory.readPermission request)).attempt with
  | .error fault => Action.fail (if fault.isOwn then fault else .unreadablePermission request fault)
  | .ok none => Action.fail (.permissionNotFound request)
  | .ok (some stored) => return stored

def audit (engine : Engine σ τ) (event : AuditEvent) : Action (World σ τ) (Option Fault) := do
  match engine.auditEnabled, engine.sink with
  | true, some sink =>
      match ← (World.onTrail (sink.record event)).attempt with
      | .ok _ => return none
      | .error cause =>
          let fault := Fault.auditFailed event cause
          Action.report .resolver .warning fault.message
          return some fault
  | _, _ => return none

/-- Decide the stored permission for the key fields of a request, and audit the outcome. -/
def checkPermission (engine : Engine σ τ) (session : Session) (permission : Permission) :
    Action (World σ τ) Decision := do
  let context := contextFor session permission
  let stored ← engine.readStored { permission.request with context }
  let stored := stored.withContext context
  let verdict ← engine.decide session stored
  let auditFault ← engine.audit ⟨stored.auditId, session.user, verdict.granted⟩
  Action.report .resolver .debug
    (s!"checkPermission {stored.label} user={session.user} "
      ++ s!"granted={Text.shownBool verdict.granted}")
  return {
    granted := verdict.granted
    user := session.user
    permission := stored
    reason := verdict.reason
    matched := verdict.matched.map (·.text)
    auditFault
    warnings := auditFault.toList.map (·.message) }

end Engine

end Entitlement
