import Entitlement.Audit.Sink

/-!
# The audit history

An audit sink that keeps the latest events in memory and publishes each one as a journal record.
-/

namespace Entitlement

/-- The latest audit events, the oldest first. -/
structure AuditHistory where
  capacity : Nat
  events : List AuditEvent

namespace AuditHistory

/-- A bounded queue counts its places in a signed machine word. -/
def largestCapacity : Int := 0x7FFFFFFFFFFFFFFF

def create (capacity : Int) : Except Fault AuditHistory :=
  if capacity ≤ 0 then .error .historyTooSmall
  else if largestCapacity < capacity then .error .historyTooLarge
  else .ok ⟨capacity.toNat, []⟩

def latest {α : Type} (count : Nat) (xs : List α) : List α :=
  xs.drop (xs.length - count)

section Latest

variable {α : Type} (count : Nat) (xs : List α)

theorem latest_suffix : latest count xs <:+ xs :=
  List.drop_suffix _ _

theorem length_latest : (latest count xs).length = min count xs.length := by
  unfold latest
  rw [List.length_drop]
  omega

variable {count xs}

theorem eq_latest {ys : List α} (hend : ys <:+ xs) (hlength : ys.length = min count xs.length) :
    ys = latest count xs := by
  have hsame : ys.length = (latest count xs).length := by
    rw [hlength, length_latest]
  have hinner : ys <:+ latest count xs :=
    List.suffix_of_suffix_length_le hend (latest_suffix count xs) (Nat.le_of_eq hsame)
  exact hinner.eq_of_length hsame

end Latest

def append (history : AuditHistory) (event : AuditEvent) : AuditHistory :=
  { history with events := latest history.capacity (history.events ++ [event]) }

def record (event : AuditEvent) : Action AuditHistory Unit := do
  Action.update (·.append event)
  Action.report .auditSink .info s!"AuthZ {event.label}"

def eventsOf (history : AuditHistory) (user : Option String) : List AuditEvent :=
  match user with
  | none => history.events
  | some user => history.events.filter fun event => event.user = user

def clear : Action AuditHistory Unit :=
  Action.update fun history => { history with events := [] }

def sink : AuditSink AuditHistory where
  record := record

end AuditHistory

end Entitlement
