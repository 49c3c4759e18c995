import Entitlement.Proofs.Engine.Silence

/-!
# Operations and what a sink hears of them

Everything that a program does with an engine and with the directory behind it, which may be any
directory.  To see what the audit sink is told, operations are carried out with a sink that records
the calls that it gets.  The record changes nothing else: a recorded operation has the same result
and leaves the same live hierarchies and the same trail behind.

Only a check tells the sink anything, and only if it answers: it hands over one event.
-/

namespace Entitlement

structure AuditCall where
  event : AuditEvent
  result : Except Fault Unit

namespace AuditSink

variable {τ : Type}

def recorded (sink : AuditSink τ) : AuditSink (τ × List AuditCall) where
  record event := fun (trail, log) =>
    let outcome := (sink.record event).run trail
    ⟨outcome.result, (outcome.state, log ++ [⟨event, outcome.result⟩]), outcome.records⟩

end AuditSink

def World.recording {σ τ : Type} (world : World σ τ) (log : List AuditCall) :
    World σ (τ × List AuditCall) :=
  ⟨world.hierarchies, (world.trail, log)⟩

namespace Engine

variable {σ τ ρ : Type}

/-- An operation of a program on an engine, or a call of its own on the directory. -/
inductive Operation (σ ρ : Type) where
  | write (call : Action σ ρ)
  | update (kind : HierarchyKind) (context : Option String) (edge : Relationship)
      (label : Option String)
  | refresh (kind : HierarchyKind) (context : Option String)
  | warmUp (contexts : List (Option String))
  | ask (kind : HierarchyKind) (question : Question)
  | isAuthorized (session : Session) (permission : Permission)
  | checkPermission (session : Session) (permission : Permission)
  | clear
  | close

inductive Response (ρ : Type) where
  | done
  | written (reply : ρ)
  | truth (holds : Bool)
  | answer (answer : Answer)
  | decision (decision : Decision)

def Response.settled : Response ρ -> Response ρ
  | .decision given => .decision (Engine.settled given)
  | response => response

namespace Operation

def perform (engine : Engine σ τ) : Operation σ ρ -> Action (World σ τ) (Response ρ)
  | .write call => do
      return .written (← World.onDirectory call)
  | .update kind context edge label => do
      return .truth (← engine.update kind context edge label)
  | .refresh kind context => do
      return .truth (← World.onHierarchies (Hierarchies.invalidate kind context))
  | .warmUp contexts => do
      engine.warmUp contexts
      return .done
  | .ask kind question => do
      return .answer (← World.onHierarchies (question.ask engine.directory kind))
  | .isAuthorized session permission => do
      return .truth (← engine.isAuthorized session permission)
  | .checkPermission session permission => do
      return .decision (← engine.checkPermission session permission)
  | .clear => do
      World.onHierarchies Hierarchies.clear
      return .done
  | .close => do
      Engine.close
      return .done

def isCheck : Operation σ ρ -> Bool
  | .checkPermission _ _ => true
  | _ => false

theorem check_or_other (operation : Operation σ ρ) :
    operation.isCheck = false ∨
      exists session permission, operation = .checkPermission session permission := by
  cases operation with
  | checkPermission session permission => exact Or.inr ⟨session, permission, rfl⟩
  | _ => exact Or.inl rfl

end Operation

/-!
# Operations of a silent engine
-/

theorem Operation.mirrors_perform (engine : Engine σ τ) {operation : Operation σ ρ}
    (hother : operation.isCheck = false) :
    World.Mirrors (operation.perform engine) (operation.perform engine.silent) := by
  cases operation with
  | write call => exact (World.mirrors_onHierarchies _).map Response.written
  | update kind context edge label => exact (World.mirrors_onHierarchies _).map Response.truth
  | refresh kind context => exact (World.mirrors_onHierarchies _).map Response.truth
  | warmUp contexts => exact (mirrors_warmUp engine contexts).map fun _ => Response.done
  | ask kind question => exact (World.mirrors_onHierarchies _).map Response.answer
  | isAuthorized session permission =>
      exact ((mirrors_decide engine session permission).map Verdict.granted).map Response.truth
  | checkPermission session permission => cases hother
  | clear => exact (World.mirrors_onHierarchies _).map fun _ => Response.done
  | close => exact (World.mirrors_onHierarchies _).map fun _ => Response.done

theorem Operation.effect_check (engine : Engine σ τ) (session : Session) (permission : Permission)
    (world : World σ τ) :
    ((checkPermission session permission : Operation σ ρ).perform engine).effect world =
      let after := (engine.checkPermission session permission).effect world
      (after.1.map Response.decision, after.2) :=
  Action.effect_map _ Response.decision world

theorem exists_of_map_eq_ok {α : Type} {result : Except Fault α} {f : α -> Response ρ}
    {response : Response ρ} (h : result.map f = .ok response) :
    exists a, result = .ok a ∧ f a = response := by
  cases result with
  | error fault => cases h
  | ok a => exact ⟨a, rfl, Except.ok.inj h⟩

theorem check_of_decision {engine : Engine σ τ} {operation : Operation σ ρ} {world : World σ τ}
    {decision : Decision}
    (hdecision : ((operation.perform engine).effect world).1 = .ok (.decision decision)) :
    exists session permission, operation = .checkPermission session permission ∧
      ((engine.checkPermission session permission).effect world).1 = .ok decision := by
  unfold Operation.perform at hdecision
  cases operation with
  | checkPermission session permission =>
      rw [Action.result_map] at hdecision
      rcases exists_of_map_eq_ok hdecision with ⟨given, hgiven, hsame⟩
      cases hsame
      exact ⟨session, permission, rfl, hgiven⟩
  | _ =>
      rw [Action.result_map] at hdecision
      rcases exists_of_map_eq_ok hdecision with ⟨_, _, hother⟩
      cases hother

/-!
# Recorded operations
-/

def recorded (engine : Engine σ τ) : Engine σ (τ × List AuditCall) :=
  ⟨engine.directory, engine.sink.map (·.recorded), engine.auditEnabled⟩

def Operation.calls (engine : Engine σ τ) (operation : Operation σ ρ) (world : World σ τ) :
    List AuditCall :=
  ((operation.perform engine.recorded).effect (world.recording [])).2.trail.2

/-- The calls that the sink gets when it is told of an event: one, if there is a sink in use. -/
def handed (engine : Engine σ τ) (event : AuditEvent) (trail : τ) : List AuditCall :=
  match engine.auditEnabled, engine.sink with
  | true, some sink => [⟨event, ((sink.record event).effect trail).1⟩]
  | _, _ => []

theorem audit_cases (engine : Engine σ τ) (event : AuditEvent) (trail : τ) :
    (engine.handed event trail = [] ∧ engine.auditFault event trail = none) ∨
      (engine.handed event trail = [⟨event, .ok ()⟩] ∧ engine.auditFault event trail = none) ∨
      exists cause, engine.handed event trail = [⟨event, .error cause⟩] ∧
        engine.auditFault event trail = some (.auditFailed event cause) := by
  unfold handed auditFault
  cases engine.auditEnabled with
  | false => exact Or.inl ⟨rfl, rfl⟩
  | true =>
      cases engine.sink with
      | none => exact Or.inl ⟨rfl, rfl⟩
      | some sink =>
          simp only [Action.result_eq_effect]
          cases ((sink.record event).effect trail).1 with
          | ok _ => exact Or.inr (Or.inl ⟨rfl, rfl⟩)
          | error cause => exact Or.inr (Or.inr ⟨cause, rfl, rfl⟩)

def told (engine : Engine σ τ) (trail : τ) : Except Fault Decision -> List AuditCall
  | .ok decision => engine.handed decision.event trail
  | .error _ => []

section Recorded

variable (engine : Engine σ τ)

theorem auditFault_recorded (event : AuditEvent) (trail : τ) (log : List AuditCall) :
    engine.recorded.auditFault event (trail, log) = engine.auditFault event trail := by
  unfold auditFault recorded
  cases engine.auditEnabled with
  | false => rfl
  | true =>
      cases engine.sink with
      | none => rfl
      | some sink => rfl

theorem trailAfter_recorded (event : AuditEvent) (trail : τ) (log : List AuditCall) :
    engine.recorded.trailAfter event (trail, log) =
      (engine.trailAfter event trail, log ++ engine.handed event trail) := by
  unfold trailAfter handed recorded
  cases engine.auditEnabled with
  | false => exact congrArg (Prod.mk trail) (List.append_nil log).symm
  | true =>
      cases engine.sink with
      | none => exact congrArg (Prod.mk trail) (List.append_nil log).symm
      | some sink => rfl

theorem effect_recorded_check (session : Session) (permission : Permission) (world : World σ τ)
    (log : List AuditCall) :
    (engine.recorded.checkPermission session permission).effect (world.recording log) =
      let after := (engine.checkPermission session permission).effect world
      (after.1, after.2.recording (log ++ engine.told world.trail after.1)) := by
  rw [effect_checkPermission, effect_checkPermission]
  change engine.recorded.concluded session (world.trail, log)
    ((engine.silent.rule session permission).effect world.silent) = _
  rcases (engine.silent.rule session permission).effect world.silent with ⟨ruling, quiet⟩
  cases ruling with
  | error fault =>
      exact congrArg (fun kept => (Except.error fault, quiet.withTrail (world.trail, kept)))
        (List.append_nil log).symm
  | ok ruling =>
      unfold concluded
      dsimp only
      rw [auditFault_recorded, trailAfter_recorded]
      rfl

theorem Operation.calls_check (session : Session) (permission : Permission) (world : World σ τ) :
    (checkPermission session permission : Operation σ ρ).calls engine world =
      engine.told world.trail ((engine.checkPermission session permission).effect world).1 := by
  unfold calls
  rw [effect_check, effect_recorded_check]
  exact List.nil_append _

variable {engine} {operation : Operation σ ρ}

theorem Operation.effect_recorded_of_other (hother : operation.isCheck = false)
    (world : World σ τ) (log : List AuditCall) :
    (operation.perform engine.recorded).effect (world.recording log) =
      let after := (operation.perform engine).effect world
      (after.1, after.2.recording log) := by
  rw [mirrors_perform engine.recorded hother, mirrors_perform engine hother]
  rfl

theorem Operation.calls_of_other (hother : operation.isCheck = false) (world : World σ τ) :
    operation.calls engine world = [] := by
  unfold calls
  rw [effect_recorded_of_other hother, mirrors_perform engine hother]
  rfl

end Recorded

end Engine
end Entitlement
