import Entitlement.Action

/-!
# Audit sinks

An audit sink takes the outcome of every checked permission. A call may fail, and a sink may have a
state of its own.
-/

namespace Entitlement

structure AuditSink (τ : Type) where
  record : AuditEvent -> Action τ Unit

def AuditEvent.label (event : AuditEvent) : String :=
  let outcome := if event.granted then "GRANTED" else "DENIED"
  s!"{outcome} {event.permission} user={event.user}"

end Entitlement
