import Entitlement.Audit.Trail
import Entitlement.Proofs.Engine.Operations

/-!
# What an audit trail lists

An engine that audits into a trail appends one event for each check that answers, unless the trail
fails, and nothing else ever reaches the trail.  So a trail lists the checks that have been audited
since it was last cleared, as many of the latest ones as it has room for: they are the end of all
these checks, as long as the room or the number of checks allows (`AuditHistory.eq_latest`).
-/

namespace Entitlement

namespace AuditHistory

/-- Elements that have been dropped before make no difference to the latest ones. -/
theorem latest_append {α : Type} (count : Nat) (xs ys : List α) :
    latest count (latest count xs ++ ys) = latest count (xs ++ ys) := by
  apply eq_latest
  · rcases latest_suffix count xs with ⟨dropped, hxs⟩
    have hwhole : latest count xs ++ ys <:+ xs ++ ys := ⟨dropped, by rw [← List.append_assoc, hxs]⟩
    exact (latest_suffix count _).trans hwhole
  · simp only [length_latest, List.length_append]
    omega

theorem latest_nil {α : Type} (count : Nat) : latest count ([] : List α) = [] :=
  List.suffix_nil.mp (latest_suffix count [])

end AuditHistory

namespace AuditTrail

theorem record_cases (event : AuditEvent) (trail : AuditTrail) :
    (exists failures, (record event).effect trail =
        (.ok (), ⟨trail.history.append event, failures⟩)) ∨
      exists fault failures, (record event).effect trail =
        (.error fault, ⟨trail.history, failures⟩) := by
  rcases trail with ⟨history, failures⟩
  cases failures with
  | nil => exact Or.inl ⟨[], rfl⟩
  | cons prepared rest =>
      cases prepared with
      | none => exact Or.inl ⟨rest, rfl⟩
      | some fault => exact Or.inr ⟨fault, rest, rfl⟩

end AuditTrail

namespace Engine

variable {σ τ ρ : Type}

/-!
# Which operations a sink is told of
-/

theorem handed_of_sink {engine : Engine σ τ} {sink : AuditSink τ} (hsink : engine.sink = some sink)
    (henabled : engine.auditEnabled = true) (event : AuditEvent) (trail : τ) :
    exists result, engine.handed event trail = [⟨event, result⟩] ∧
      (engine.auditFault event trail = none ↔ result = .ok ()) := by
  rcases engine.audit_cases event trail with
    ⟨hcalls, _⟩ | ⟨hcalls, hfault⟩ | ⟨cause, hcalls, hfault⟩
  · unfold handed at hcalls
    rw [hsink, henabled] at hcalls
    cases hcalls
  · exact ⟨.ok (), hcalls, iff_of_true hfault rfl⟩
  · exact ⟨.error cause, hcalls, by simp [hfault]⟩

/--
The sink gets one call for a check that answers: the stored permission, the user and the outcome. It
gets none for a check that fails, and none for any other operation.
-/
structure ReportsOnce (engine : Engine σ τ) (operation : Operation σ ρ) (world : World σ τ) :
    Prop where
  of_answer : forall session permission response,
    operation = .checkPermission session permission ->
    ((operation.perform engine).effect world).1 = .ok response ->
    exists decision stored result, response = .decision decision ∧
      engine.stored? (requestFor session permission) world = .ok (some stored) ∧
      operation.calls engine world = [⟨⟨stored.auditId, session.user, decision.granted⟩, result⟩] ∧
      decision.event = ⟨stored.auditId, session.user, decision.granted⟩ ∧
      (decision.auditFault = none ↔ result = .ok ())
  of_fault : forall fault, ((operation.perform engine).effect world).1 = .error fault ->
    operation.calls engine world = []
  of_other : operation.isCheck = false -> operation.calls engine world = []

theorem idle_of_no_decision {engine : Engine σ τ} {operation : Operation σ ρ} {world : World σ τ}
    (hnone : forall decision,
      ((operation.perform engine).effect world).1 ≠ .ok (.decision decision)) :
    operation.calls engine world = [] ∧
      ((operation.perform engine).effect world).2.trail = world.trail := by
  rcases operation.check_or_other with hother | ⟨session, permission, rfl⟩
  · refine ⟨Operation.calls_of_other hother world, ?_⟩
    rw [Operation.mirrors_perform engine hother world]
    rfl
  · rw [Operation.calls_check]
    rw [Operation.effect_check] at hnone ⊢
    dsimp only at hnone ⊢
    cases hresult : ((engine.checkPermission session permission).effect world).1 with
    | error fault => exact ⟨rfl, trail_of_checkPermission_error hresult⟩
    | ok decision =>
        rw [hresult] at hnone
        exact absurd rfl (hnone decision)

theorem call_of_decision {engine : Engine σ τ} {sink : AuditSink τ}
    (hsink : engine.sink = some sink) (henabled : engine.auditEnabled = true) {session : Session}
    {permission : Permission}
    {world : World σ τ} {decision : Decision}
    (hdecision : ((engine.checkPermission session permission).effect world).1 = .ok decision) :
    exists stored result,
      engine.stored? (requestFor session permission) world = .ok (some stored) ∧
      engine.told world.trail (.ok decision) = [⟨decision.event, result⟩] ∧
      decision.event = ⟨stored.auditId, session.user, decision.granted⟩ ∧
      (decision.auditFault = none ↔ result = .ok ()) := by
  rcases checkPermission_cases hdecision with ⟨stored, _, hstored, _, hpermission, huser, _⟩
  rcases ruling_of_checkPermission hdecision with ⟨ruled, verdict, _, _, hruled, _⟩
  have hevent : decision.event = ⟨stored.auditId, session.user, decision.granted⟩ := by
    unfold Decision.event
    rw [hpermission, huser]
    rfl
  have hfault : decision.auditFault = engine.auditFault decision.event world.trail :=
    congrArg Decision.auditFault hruled
  rcases handed_of_sink hsink henabled decision.event world.trail with ⟨result, hcalls, hnoted⟩
  rw [hfault]
  exact ⟨stored, result, hstored, hcalls, hevent, hnoted⟩

theorem reportsOnce {engine : Engine σ τ} {sink : AuditSink τ} (hsink : engine.sink = some sink)
    (henabled : engine.auditEnabled = true) (operation : Operation σ ρ) (world : World σ τ) :
    engine.ReportsOnce operation world where
  of_answer := by
    intro session permission response hoperation hresponse
    rw [hoperation, Operation.effect_check] at hresponse
    rcases exists_of_map_eq_ok hresponse with ⟨decision, hdecision, rfl⟩
    rcases call_of_decision hsink henabled hdecision with ⟨stored, result, hstored, hcall, hevent,
      hnoted⟩
    refine ⟨decision, stored, result, rfl, hstored, ?_, hevent, hnoted⟩
    rw [hoperation, Operation.calls_check, hdecision, hcall, hevent]
  of_fault := by
    intro fault hfault
    refine (idle_of_no_decision fun decision hdecision => ?_).1
    rw [hfault] at hdecision
    cases hdecision
  of_other := fun hother => Operation.calls_of_other hother world

/-!
# Runs with an audit trail
-/

def trailing (directory : Directory σ) : Engine σ AuditTrail :=
  ⟨directory, some AuditTrail.sink, true⟩

inductive TrailStep (σ ρ : Type) where
  | operate (operation : Operation σ ρ)
  | clearTrail
  /-- From now on, the next calls of the trail fail or not, as they are told here. -/
  | prepare (failures : List (Option Fault))

def TrailStep.after (directory : Directory σ) :
    TrailStep σ ρ -> World σ AuditTrail -> World σ AuditTrail
  | .operate operation, world => ((operation.perform (trailing directory)).effect world).2
  | .clearTrail, world => ((World.onTrail AuditTrail.clear).effect world).2
  | .prepare failures, world => ((World.onTrail (AuditTrail.prepare failures)).effect world).2

/-- The event of an operation that has answered with a decision whose audit has not failed. -/
def audited : Except Fault (Response ρ) -> List AuditEvent
  | .ok (.decision decision) =>
      match decision.auditFault with
      | none => [decision.event]
      | some _ => []
  | _ => []

def TrailStep.extend (directory : Directory σ) (world : World σ AuditTrail)
    (events : List AuditEvent) : TrailStep σ ρ -> List AuditEvent
  | .operate operation =>
      events ++ audited ((operation.perform (trailing directory)).effect world).1
  | .clearTrail => []
  | .prepare _ => events

def follow (directory : Directory σ) :
    List (TrailStep σ ρ) -> World σ AuditTrail × List AuditEvent ->
      World σ AuditTrail × List AuditEvent
  | [], reached => reached
  | step :: rest, (world, events) =>
      follow directory rest (step.after directory world, step.extend directory world events)

/-!
# What is listed
-/

/-- The trail lists the latest of the events, as many as it has room for. -/
structure Lists (size : Nat) (reached : World σ AuditTrail × List AuditEvent) : Prop where
  capacity_eq : reached.1.trail.history.capacity = size
  events_eq : reached.1.trail.history.events = AuditHistory.latest size reached.2

section Steps

variable {directory : Directory σ} {size : Nat} {world : World σ AuditTrail}
  {events : List AuditEvent}

theorem trailing_cases (directory : Directory σ) (event : AuditEvent) (trail : AuditTrail) :
    ((trailing directory).auditFault event trail = none ∧
        exists failures, (trailing directory).trailAfter event trail =
          ⟨trail.history.append event, failures⟩) ∨
      exists fault, (trailing directory).auditFault event trail = some fault ∧
        exists failures, (trailing directory).trailAfter event trail =
          ⟨trail.history, failures⟩ := by
  have heffect : (AuditTrail.sink.record event).effect trail =
      (AuditTrail.record event).effect trail := rfl
  unfold trailing auditFault trailAfter
  dsimp only
  rw [Action.result_eq_effect, heffect]
  rcases AuditTrail.record_cases event trail with ⟨failures, hrecord⟩ | ⟨cause, failures, hrecord⟩
  · rw [hrecord]
    exact Or.inl ⟨rfl, failures, rfl⟩
  · rw [hrecord]
    exact Or.inr ⟨.auditFailed event cause, rfl, failures, rfl⟩

theorem audited_of_unnoted {decision : Decision} (hnone : decision.auditFault = none) :
    audited (.ok (.decision decision) : Except Fault (Response ρ)) = [decision.event] := by
  unfold audited
  dsimp only
  rw [hnone]

theorem audited_of_noted {decision : Decision} {fault : Fault}
    (hsome : decision.auditFault = some fault) :
    audited (.ok (.decision decision) : Except Fault (Response ρ)) = [] := by
  unfold audited
  dsimp only
  rw [hsome]

theorem Lists.decided (h : Lists size (world, events)) {quiet : World σ Unit} {decision : Decision}
    (hfault : decision.auditFault = (trailing directory).auditFault decision.event world.trail) :
    Lists size
      (quiet.withTrail ((trailing directory).trailAfter decision.event world.trail),
        events ++ audited (.ok (.decision decision) : Except Fault (Response ρ))) := by
  rcases trailing_cases directory decision.event world.trail with
    ⟨hnone, failures, htrail⟩ | ⟨fault, hsome, failures, htrail⟩
  · rw [audited_of_unnoted (hfault.trans hnone), htrail]
    refine ⟨h.capacity_eq, ?_⟩
    change AuditHistory.latest world.trail.history.capacity
      (world.trail.history.events ++ [decision.event]) = _
    rw [h.capacity_eq, h.events_eq]
    exact AuditHistory.latest_append size events [decision.event]
  · rw [audited_of_noted (hfault.trans hsome), htrail, List.append_nil]
    exact ⟨h.capacity_eq, h.events_eq⟩

theorem audited_of_no_decision {result : Except Fault (Response ρ)}
    (hnone : forall decision, result ≠ .ok (.decision decision)) : audited result = [] := by
  cases result with
  | error fault => rfl
  | ok response =>
      cases response with
      | decision decision => exact absurd rfl (hnone decision)
      | _ => rfl

theorem Lists.operated (h : Lists size (world, events)) (operation : Operation σ ρ) :
    Lists size (((operation.perform (trailing directory)).effect world).2,
      events ++ audited ((operation.perform (trailing directory)).effect world).1) := by
  -- Only a decision changes the trail, and only a decision adds to the events.
  by_cases hsome : exists decision,
      ((operation.perform (trailing directory)).effect world).1 = .ok (.decision decision)
  · rcases hsome with ⟨decision, hdecision⟩
    rw [hdecision]
    rcases check_of_decision hdecision with ⟨session, permission, rfl, hcheck⟩
    rcases ruling_of_checkPermission hcheck with ⟨stored, verdict, quiet, _, hruled, hafter⟩
    rw [Operation.effect_check]
    dsimp only
    rw [hafter]
    exact h.decided (congrArg Decision.auditFault hruled)
  · rw [not_exists] at hsome
    rw [audited_of_no_decision hsome, List.append_nil]
    have htrail := (idle_of_no_decision hsome).2
    refine ⟨?_, ?_⟩
    · rw [htrail]
      exact h.capacity_eq
    · rw [htrail]
      exact h.events_eq

theorem Lists.step (h : Lists size (world, events)) (step : TrailStep σ ρ) :
    Lists size (step.after directory world, step.extend directory world events) := by
  cases step with
  | operate operation => exact h.operated operation
  | clearTrail => exact ⟨h.capacity_eq, (AuditHistory.latest_nil size).symm⟩
  | prepare failures => exact ⟨h.capacity_eq, h.events_eq⟩

theorem Lists.follow {reached : World σ AuditTrail × List AuditEvent} (h : Lists size reached)
    (steps : List (TrailStep σ ρ)) : Lists size (follow directory steps reached) := by
  induction steps generalizing reached with
  | nil => exact h
  | cons step rest ih => exact ih (h.step step)

end Steps

/--
Of an engine that audits into a trail, the trail is told once of each check that answers and of
nothing else.  At any time it lists the latest checks whose audits have not failed since the trail
was last cleared, and for one user those of the user.
-/
theorem trail_lists_answered_checks (directory : Directory σ) (hierarchies : Hierarchies σ)
    (size : Nat) (failures : List (Option Fault)) (steps : List (TrailStep σ ρ)) :
    let start : World σ AuditTrail := ⟨hierarchies, ⟨⟨size, []⟩, failures⟩⟩
    let reached := follow directory steps (start, [])
    (forall (world : World σ AuditTrail) (operation : Operation σ ρ),
        (trailing directory).ReportsOnce operation world) ∧
      reached.1.trail.eventsOf none = AuditHistory.latest size reached.2 ∧
      forall user, reached.1.trail.eventsOf (some user) =
        (AuditHistory.latest size reached.2).filter fun event => event.user = user := by
  intro start reached
  have hstart : Lists size (start, []) := ⟨rfl, (AuditHistory.latest_nil size).symm⟩
  have hlists : Lists size reached := hstart.follow steps
  refine ⟨fun world operation => reportsOnce rfl rfl operation world, hlists.events_eq, ?_⟩
  intro user
  rw [← hlists.events_eq]
  rfl

/-- A trail with room for two events fails to take the second of four. -/
theorem trail_lists_answered_checks_after_a_failed_audit :
    let session : Session := ⟨"ann", [], [], none, none⟩
    let permission (operation : String) (users : List (Option String)) : Permission :=
      ⟨"file", operation, none, false, users, [], none, none, none⟩
    let add (stored : Permission) : TrailStep Store Unit :=
      .operate (.write (Store.addPermission stored))
    let check (operation : String) : TrailStep Store Unit :=
      .operate (.checkPermission session (permission operation []))
    let steps := [add (permission "read" [some "ann"]), add (permission "write" []), check "read",
      .prepare [some .cacheClosed], check "read", check "delete", check "write", check "read"]
    let hierarchies : Hierarchies Store := ⟨Cache.empty "null", Store.empty "null"⟩
    let reached := follow Store.directory steps (⟨hierarchies, ⟨⟨2, []⟩, []⟩⟩, [])
    reached.1.trail.eventsOf none = AuditHistory.latest 2 reached.2 ∧
      reached.2 =
        [⟨"file.read", "ann", true⟩, ⟨"file.write", "ann", false⟩, ⟨"file.read", "ann", true⟩] ∧
      reached.1.trail.eventsOf none =
        [⟨"file.write", "ann", false⟩, ⟨"file.read", "ann", true⟩] := by
  intro session permission add check steps hierarchies reached
  have hlists := trail_lists_answered_checks Store.directory hierarchies 2 [] steps
  have hreached : reached.2 =
      [⟨"file.read", "ann", true⟩, ⟨"file.write", "ann", false⟩, ⟨"file.read", "ann", true⟩] := by
    decide +kernel
  exact ⟨hlists.2.1, hreached, hlists.2.1.trans (congrArg (AuditHistory.latest 2) hreached)⟩

end Engine
end Entitlement
