import Entitlement.Permission

/-!
# Decisions

The outcome of a permission check. The decision itself is authoritative; a failure of the audit is
carried beside it and never changes it.
-/

namespace Entitlement

structure Decision where
  granted : Bool
  user : String
  permission : Permission
  reason : String
  matched : List String
  auditFault : Option Fault
  warnings : List String

namespace Decision

def summary (decision : Decision) : String :=
  let status := if decision.granted then "GRANTED" else "DENIED"
  s!"{status}: {decision.permission.label} for user {decision.user}"

end Decision

end Entitlement
