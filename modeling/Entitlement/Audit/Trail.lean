import Entitlement.Audit.History

/-!
# Audit trails

A history behind a queue of prepared outcomes, which lets a run meet a sink that fails.  The queue
is no part of the history: a trail takes the next outcome first, and only a call that does not fail
gets to the sink of the history.
-/

namespace Entitlement

/-- An audit history, and whether the next calls fail before they get to it. -/
structure AuditTrail where
  history : AuditHistory
  failures : List (Option Fault)

namespace AuditTrail

def defaultCapacity : Nat := 1000

def ofHistory (history : AuditHistory) : AuditTrail :=
  ⟨history, []⟩

def create (capacity : Int) : Except Fault AuditTrail :=
  (AuditHistory.create capacity).map ofHistory

def standard : AuditTrail :=
  ofHistory ⟨defaultCapacity, []⟩

def onHistory {α : Type} (x : Action AuditHistory α) : Action AuditTrail α :=
  x.within (·.history) fun trail history => { trail with history }

def takeOutcome : Action AuditTrail Unit := do
  match (← Action.read).failures with
  | [] => pure ()
  | prepared :: rest =>
      Action.update fun trail => { trail with failures := rest }
      match prepared with
      | some fault => Action.fail fault
      | none => pure ()

def record (event : AuditEvent) : Action AuditTrail Unit := do
  takeOutcome
  onHistory (AuditHistory.sink.record event)

def recordTimes (event : AuditEvent) (count : Nat) : Action AuditTrail Unit :=
  Action.forEach (List.replicate count event) record

def eventsOf (trail : AuditTrail) (user : Option String) : List AuditEvent :=
  trail.history.eventsOf user

def clear : Action AuditTrail Unit :=
  onHistory AuditHistory.clear

def prepare (failures : List (Option Fault)) : Action AuditTrail Nat := do
  Action.update fun trail => { trail with failures := trail.failures ++ failures }
  return (← Action.read).failures.length

def sink : AuditSink AuditTrail where
  record := record

end AuditTrail

end Entitlement
