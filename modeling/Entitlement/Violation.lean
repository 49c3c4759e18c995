import Entitlement.Fault.Kind

/-!
# Violations of a relationship rule

A check of a proposed relationship names the first rule that fails and the two names involved.
-/

namespace Entitlement

structure Violation where
  kind : FaultKind
  child : String
  parent : String
  deriving DecidableEq, Repr

def Violation.message (violation : Violation) : String :=
  let child := violation.child
  let parent := violation.parent
  match violation.kind with
  | .selfReference => s!"child [{child}] must not equal parent [{parent}]"
  | .relationshipMissing => s!"relationship child [{child}] parent [{parent}] does not exist"
  | _ => s!"relationship child [{child}] parent [{parent}] already exists"

end Entitlement
