import Entitlement.Proofs.Engine.Scope

/-!
# Engines without an audit

An engine is silent if it has no audit sink.  Whatever an engine does before it audits a decision, a
silent engine with the same directory does as well, and no more is left to it than to audit: so a
check is a ruling, which the silent engine makes, followed by one event for the sink.
-/

namespace Entitlement

def Decision.event (decision : Decision) : AuditEvent :=
  ⟨decision.permission.auditId, decision.user, decision.granted⟩

namespace World

variable {σ τ α β : Type}

def silent (world : World σ τ) : World σ Unit :=
  ⟨world.hierarchies, ()⟩

def withTrail (world : World σ Unit) (trail : τ) : World σ τ :=
  ⟨world.hierarchies, trail⟩

/-- The action does what the other one does without an audit sink, and leaves the sink alone. -/
def Mirrors (x : Action (World σ τ) α) (quiet : Action (World σ Unit) α) : Prop :=
  forall world, x.effect world =
    ((quiet.effect world.silent).1, (quiet.effect world.silent).2.withTrail world.trail)

theorem mirrors_pure (a : α) :
    Mirrors (Pure.pure a : Action (World σ τ) α) (Pure.pure a) :=
  fun _ => rfl

theorem mirrors_fail (fault : Fault) :
    Mirrors (Action.fail fault : Action (World σ τ) α) (Action.fail fault) :=
  fun _ => rfl

theorem mirrors_report (component : Component) (level : Level) (message : String) :
    Mirrors (Action.report component level message : Action (World σ τ) Unit)
      (Action.report component level message) :=
  fun _ => rfl

theorem mirrors_onHierarchies (x : Action (Hierarchies σ) α) :
    Mirrors (onHierarchies x : Action (World σ τ) α) (onHierarchies x) :=
  fun _ => rfl

section Parts

variable {x : Action (World σ τ) α} {quiet : Action (World σ Unit) α}

theorem Mirrors.bind (hx : Mirrors x quiet) {f : α -> Action (World σ τ) β}
    {g : α -> Action (World σ Unit) β} (hf : forall a, Mirrors (f a) (g a)) :
    Mirrors (x >>= f) (quiet >>= g) := by
  intro world
  rw [Action.effect_bind, Action.effect_bind, hx world]
  cases (quiet.effect world.silent).1 with
  | error fault => rfl
  | ok a => exact hf a ((quiet.effect world.silent).2.withTrail world.trail)

theorem Mirrors.map (hx : Mirrors x quiet) (f : α -> β) :
    Mirrors (do return f (← x)) (do return f (← quiet)) :=
  hx.bind fun a => mirrors_pure (f a)

theorem Mirrors.attempt (hx : Mirrors x quiet) : Mirrors x.attempt quiet.attempt := by
  intro world
  rw [Action.effect_attempt, Action.effect_attempt, hx world]

end Parts

theorem mirrors_forEach {xs : List β} {f : β -> Action (World σ τ) Unit}
    {g : β -> Action (World σ Unit) Unit} (hf : forall x, Mirrors (f x) (g x)) :
    Mirrors (Action.forEach xs f) (Action.forEach xs g) := by
  induction xs with
  | nil => exact mirrors_pure ()
  | cons x rest ih => exact (hf x).bind fun _ => ih

end World

namespace Engine

variable {σ τ : Type}

def silent (engine : Engine σ τ) : Engine σ Unit :=
  ⟨engine.directory, none, false⟩

theorem mirrors_readStored (engine : Engine σ τ) (request : PermissionRequest) :
    World.Mirrors (engine.readStored request) (engine.silent.readStored request) := by
  refine (World.mirrors_onHierarchies _).attempt.bind fun answer => ?_
  cases answer with
  | error fault => exact World.mirrors_fail _
  | ok found =>
      cases found with
      | none => exact World.mirrors_fail _
      | some stored => exact World.mirrors_pure stored

theorem mirrors_decide (engine : Engine σ τ) (session : Session) (permission : Permission) :
    World.Mirrors (engine.decide session permission) (engine.silent.decide session permission) := by
  unfold Engine.decide
  split
  · exact World.mirrors_pure _
  · split
    · exact World.mirrors_pure _
    · exact (World.mirrors_onHierarchies _).map fun held => verdictOf held permission

theorem mirrors_warmUp (engine : Engine σ τ) (contexts : List (Option String)) :
    World.Mirrors (engine.warmUp contexts) (engine.silent.warmUp contexts) := by
  refine World.mirrors_forEach fun context => ?_
  refine (World.mirrors_onHierarchies _).bind fun _ => ?_
  refine (World.mirrors_onHierarchies _).bind fun _ => ?_
  exact World.mirrors_report _ _ _

/-!
# Rulings
-/

def requestFor (session : Session) (permission : Permission) : PermissionRequest :=
  { permission.request with context := contextFor session permission }

/-- The first part of a check: the stored permission in the tenant of the request, and a verdict. -/
def rule (engine : Engine σ τ) (session : Session) (permission : Permission) :
    Action (World σ τ) (Permission × Verdict) := do
  let context := contextFor session permission
  let stored ← engine.readStored (requestFor session permission)
  let verdict ← engine.decide session (stored.withContext context)
  return (stored.withContext context, verdict)

theorem mirrors_rule (engine : Engine σ τ) (session : Session) (permission : Permission) :
    World.Mirrors (engine.rule session permission) (engine.silent.rule session permission) := by
  refine (mirrors_readStored engine _).bind fun stored => ?_
  exact (mirrors_decide engine session _).map fun verdict => (stored.withContext _, verdict)

def eventOf (session : Session) (stored : Permission) (verdict : Verdict) : AuditEvent :=
  ⟨stored.auditId, session.user, verdict.granted⟩

def trailAfter (engine : Engine σ τ) (event : AuditEvent) (trail : τ) : τ :=
  match engine.auditEnabled, engine.sink with
  | true, some sink => ((sink.record event).effect trail).2
  | _, _ => trail

theorem effect_audit (engine : Engine σ τ) (event : AuditEvent) (world : World σ τ) :
    (engine.audit event).effect world =
      (.ok (engine.auditFault event world.trail),
        { world with trail := engine.trailAfter event world.trail }) := by
  refine Prod.ext (result_audit engine event world) ?_
  unfold audit trailAfter
  cases engine.auditEnabled with
  | false => rfl
  | true =>
      cases engine.sink with
      | none => rfl
      | some sink =>
          simp only [Action.effect_bind, Action.effect_attempt, World.onTrail,
            Action.effect_within]
          cases ((sink.record event).effect world.trail).1 with
          | ok _ => rfl
          | error cause => rfl

theorem effect_conclude (engine : Engine σ τ) (session : Session) (stored : Permission)
    (verdict : Verdict) (world : World σ τ) :
    (engine.conclude session stored verdict).effect world =
      (.ok (decisionOf session stored verdict
          (engine.auditFault (eventOf session stored verdict) world.trail)),
        { world with
          trail := engine.trailAfter (eventOf session stored verdict) world.trail }) := by
  unfold conclude
  rw [Action.effect_bind_of_ok _ (effect_audit engine _ world)]
  rfl

theorem effect_rule_conclude (engine : Engine σ τ) (session : Session) (permission : Permission)
    (world : World σ τ) :
    (engine.checkPermission session permission).effect world =
      (engine.rule session permission >>= fun ruling =>
        engine.conclude session ruling.1 ruling.2).effect world := by
  unfold rule
  rw [checkPermission_eq, Action.effect_bind_assoc]
  refine Action.effect_bind_congr _ (fun stored after => ?_) world
  rw [Action.effect_bind_assoc]
  rfl

def concluded (engine : Engine σ τ) (session : Session) (trail : τ) :
    Except Fault (Permission × Verdict) × World σ Unit -> Except Fault Decision × World σ τ
  | (.error fault, quiet) => (.error fault, quiet.withTrail trail)
  | (.ok (stored, verdict), quiet) =>
      (.ok (decisionOf session stored verdict
          (engine.auditFault (eventOf session stored verdict) trail)),
        quiet.withTrail (engine.trailAfter (eventOf session stored verdict) trail))

/-- A check is a ruling of the silent engine, of which the sink is then told. -/
theorem effect_checkPermission (engine : Engine σ τ) (session : Session) (permission : Permission)
    (world : World σ τ) :
    (engine.checkPermission session permission).effect world =
      engine.concluded session world.trail
        ((engine.silent.rule session permission).effect world.silent) := by
  rw [effect_rule_conclude, Action.effect_bind, mirrors_rule engine session permission world]
  rcases (engine.silent.rule session permission).effect world.silent with ⟨ruling, quiet⟩
  cases ruling with
  | error fault => rfl
  | ok ruling => exact effect_conclude engine session ruling.1 ruling.2 _

theorem ruling_of_checkPermission {engine : Engine σ τ} {session : Session}
    {permission : Permission} {world : World σ τ} {decision : Decision}
    (hdecision : ((engine.checkPermission session permission).effect world).1 = .ok decision) :
    exists stored verdict quiet,
      (engine.silent.rule session permission).effect world.silent =
        (.ok (stored, verdict), quiet) ∧
      decision = decisionOf session stored verdict
        (engine.auditFault decision.event world.trail) ∧
      ((engine.checkPermission session permission).effect world).2 =
        quiet.withTrail (engine.trailAfter decision.event world.trail) := by
  rw [effect_checkPermission] at hdecision ⊢
  rcases hruled : (engine.silent.rule session permission).effect world.silent with ⟨ruling, quiet⟩
  rw [hruled] at hdecision
  cases ruling with
  | error fault => cases hdecision
  | ok ruling =>
      refine ⟨ruling.1, ruling.2, quiet, rfl, ?_, ?_⟩
      · rw [← Except.ok.inj hdecision]
        rfl
      · rw [← Except.ok.inj hdecision]
        rfl

theorem trail_of_checkPermission_error {engine : Engine σ τ} {session : Session}
    {permission : Permission} {world : World σ τ} {fault : Fault}
    (hfault : ((engine.checkPermission session permission).effect world).1 = .error fault) :
    ((engine.checkPermission session permission).effect world).2.trail = world.trail := by
  rw [effect_checkPermission] at hfault ⊢
  rcases hruled : (engine.silent.rule session permission).effect world.silent with ⟨ruling, quiet⟩
  rw [hruled] at hfault
  cases ruling with
  | error cause => rfl
  | ok ruling => cases hfault

end Engine
end Entitlement
