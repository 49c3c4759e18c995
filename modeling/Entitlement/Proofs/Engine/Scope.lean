import Entitlement.Proofs.Engine.Authorize
import Entitlement.Proofs.Engine.Coherence
import Entitlement.Proofs.Hierarchies.Scope

/-!
# What one tenant sees of an engine

The worlds of an engine are alike in a scope if their live hierarchies are.  A question is confined
to the hierarchy that it is put to, and a decision to the hierarchy of the roles that it expands.  A
check reads the permissions of its tenant as well, and it is audited: the audit is not seen in any
scope, but what it is noted with in the decision may depend on what the sink has recorded before.
-/

namespace Entitlement

def Question.context : Question -> Option String
  | .isParent _ _ context | .ascendants _ context | .descendants _ context | .parents _ context
  | .children _ context | .childCount _ context | .inherited _ context => context
  | .check child _ _ | .validate child _ _ => child.context

theorem Question.confined_ask (scope : Scope) (kind : HierarchyKind) (question : Question) :
    (question.ask Store.directory kind).Confined (Hierarchies.Alike scope)
      (scope.Covers (.hierarchyOf scope.sentinel kind question.context)) := by
  cases question with
  | isParent child parent context =>
      refine Action.Confined.map ?_ Answer.truth
      unfold Hierarchies.isParent
      split
      · exact Action.confined_pure false
      · exact Hierarchies.confined_ask scope kind context _
  | ascendants text context =>
      exact (Hierarchies.confined_ask scope kind context _).map Answer.names
  | descendants text context =>
      exact (Hierarchies.confined_ask scope kind context _).map Answer.names
  | parents text context =>
      exact (Hierarchies.confined_ask scope kind context _).map Answer.names
  | children text context =>
      exact (Hierarchies.confined_ask scope kind context _).map Answer.names
  | childCount text context =>
      exact (Hierarchies.confined_ask scope kind context _).map Answer.count
  | inherited roles context =>
      exact (Hierarchies.confined_inherited scope kind context roles).map Answer.names
  | check child parent mustExist =>
      refine Action.Confined.map ?_ Answer.violation
      exact (Hierarchies.confined_graph scope kind child.context).bind fun _ _ _ _ _ =>
        Action.confined_ofResult _
  | validate child parent mustExist =>
      refine Action.Confined.map ?_ fun _ => Answer.valid
      exact (Hierarchies.confined_graph scope kind child.context).bind fun _ _ _ _ _ =>
        Action.confined_ofResult _

namespace World

variable {τ : Type} {scope : Scope}

/-- The live hierarchies of the two worlds are alike in a scope; the trails may differ. -/
def Alike (scope : Scope) (left right : World Store τ) : Prop :=
  left.hierarchies.Alike scope right.hierarchies

instance : Std.Symm (Alike scope : World Store τ -> World Store τ -> Prop) where
  symm := fun _ _ h => (Std.Symm.symm _ _ h : Hierarchies.Alike scope _ _)

theorem confined_onHierarchies {α : Type} {x : Action (Hierarchies Store) α} {inside : Prop}
    (hx : x.Confined (Hierarchies.Alike scope) inside) :
    (onHierarchies x : Action (World Store τ) α).Confined (Alike scope) inside :=
  hx.within (fun _ _ h => h) (fun _ _ _ _ _ h => h) fun _ => rfl

theorem agrees_onHierarchies {α : Type} {x : Action (Hierarchies Store) α}
    (hx : x.Agrees (Hierarchies.Alike scope)) :
    (onHierarchies x : Action (World Store τ) α).Agrees (Alike scope) :=
  fun left right h => hx left.hierarchies right.hierarchies h

theorem invisible_onTrail {α : Type} (x : Action τ α) :
    (onTrail x : Action (World Store τ) α).Invisible (Alike scope) :=
  fun _ _ h => h

end World

theorem Store.Kept.admin_eq {sentinel : String} {store : Store} (h : store.Kept sentinel)
    {request : PermissionRequest} {stored : Permission}
    (hstored : store.permission? request = some stored) : stored.admin = request.admin :=
  congrArg PermissionKey.admin (h.filed _ _ hstored)

namespace Engine

variable {σ τ : Type}

/-!
# The audit of a check
-/

def auditFault (engine : Engine σ τ) (event : AuditEvent) (trail : τ) : Option Fault :=
  match engine.auditEnabled, engine.sink with
  | true, some sink =>
      match ((sink.record event).run trail).result with
      | .ok _ => none
      | .error cause => some (.auditFailed event cause)
  | _, _ => none

/-- Whether an audit fails does not depend on what the sink has seen before. -/
def Steady (engine : Engine σ τ) : Prop :=
  forall event trail trail', engine.auditFault event trail = engine.auditFault event trail'

theorem result_audit (engine : Engine σ τ) (event : AuditEvent) (world : World σ τ) :
    ((engine.audit event).effect world).1 = .ok (engine.auditFault event world.trail) := by
  unfold audit auditFault
  cases engine.auditEnabled with
  | false => rfl
  | true =>
      cases engine.sink with
      | none => rfl
      | some sink =>
          simp only [Action.effect_bind, Action.effect_attempt, World.onTrail,
            Action.effect_within, Action.result_eq_effect]
          cases ((sink.record event).effect world.trail).1 with
          | ok _ => rfl
          | error cause => rfl

def decisionOf (session : Session) (stored : Permission) (verdict : Verdict)
    (auditFault : Option Fault) : Decision where
  granted := verdict.granted
  user := session.user
  permission := stored
  reason := verdict.reason
  matched := verdict.matched.map (·.text)
  auditFault := auditFault
  warnings := auditFault.toList.map (·.message)

def conclude (engine : Engine σ τ) (session : Session) (stored : Permission) (verdict : Verdict) :
    Action (World σ τ) Decision := do
  let auditFault ← engine.audit ⟨stored.auditId, session.user, verdict.granted⟩
  Action.report .resolver .debug
    (s!"checkPermission {stored.label} user={session.user} "
      ++ s!"granted={Text.shownBool verdict.granted}")
  return decisionOf session stored verdict auditFault

theorem result_conclude (engine : Engine σ τ) (session : Session) (stored : Permission)
    (verdict : Verdict) (world : World σ τ) :
    ((engine.conclude session stored verdict).effect world).1 =
      .ok (decisionOf session stored verdict
        (engine.auditFault ⟨stored.auditId, session.user, verdict.granted⟩ world.trail)) := by
  unfold conclude
  rw [Action.effect_bind, result_audit]
  rfl

theorem checkPermission_eq (engine : Engine σ τ) (session : Session) (permission : Permission) :
    engine.checkPermission session permission =
      (engine.readStored { permission.request with context := contextFor session permission } >>=
        fun stored =>
          let stored := stored.withContext (contextFor session permission)
          engine.decide session stored >>= fun verdict =>
            engine.conclude session stored verdict) := rfl

/-- A view of decisions to which audits make no difference. -/
def Blind {α : Type} (engine : Engine σ τ) (view : Decision -> α) : Prop :=
  forall session stored verdict trail trail',
    let event : AuditEvent := ⟨stored.auditId, session.user, verdict.granted⟩
    view (decisionOf session stored verdict (engine.auditFault event trail)) =
      view (decisionOf session stored verdict (engine.auditFault event trail'))

def settled (decision : Decision) : Decision :=
  { decision with auditFault := none, warnings := [] }

theorem blind_settled (engine : Engine σ τ) : engine.Blind settled :=
  fun _ _ _ _ _ => rfl

theorem Steady.blind_id {engine : Engine σ τ} (h : engine.Steady) :
    engine.Blind fun decision => decision := by
  intro session stored verdict trail trail' event
  rw [h event trail trail']

/-!
# Decisions in a scope
-/

section Decisions

variable {scope : Scope} {sink : Option (AuditSink τ)} {auditEnabled : Bool}
  (session : Session) (permission : Permission)

theorem confined_decide :
    ((Store.engine sink auditEnabled).decide session permission).Confined (World.Alike scope)
      (scope.Covers (.hierarchyOf scope.sentinel (.ofRoles permission.admin)
        (contextFor session permission))) := by
  unfold Engine.decide
  split
  · exact Action.confined_pure _
  · split
    · exact Action.confined_pure _
    · refine Action.Confined.map (World.confined_onHierarchies ?_) fun held =>
        verdictOf held permission
      exact Hierarchies.confined_inherited scope _ _ _

theorem confined_readStored (request : PermissionRequest) :
    ((Store.engine sink auditEnabled).readStored request).Confined (World.Alike scope)
      (scope.Covers (.permissionsOf scope.sentinel request.context)) := by
  have hread : (Store.readPermission request).Confined (Store.Alike scope) _ :=
    Store.confined_readPermission request
  refine (World.confined_onHierarchies (Hierarchies.confined_onDirectory hread)).attempt.bind
    fun answer _ _ _ _ => ?_
  cases answer with
  | error fault => exact Action.confined_of_const (Action.effect_fail _)
  | ok found =>
      cases found with
      | none => exact Action.confined_of_const (Action.effect_fail _)
      | some stored => exact Action.confined_pure stored

theorem admin_of_readStored {request : PermissionRequest} {world : World Store τ}
    {stored : Permission} {sentinel : String} (hstore : world.hierarchies.directory.Kept sentinel)
    (hread : (((Store.engine sink auditEnabled).readStored request).effect world).1 = .ok stored) :
    stored.admin = request.admin := by
  have hstored := (stored?_of_readStored (Prod.ext hread rfl)).1
  exact hstore.admin_eq (Except.ok.inj hstored)

theorem invisible_audit (event : AuditEvent) :
    ((Store.engine sink auditEnabled).audit event).Invisible (World.Alike scope) := by
  unfold audit
  split
  · refine Action.Invisible.bind (fun left right h => ?_) fun answer _ _ _ _ => ?_
    · exact World.invisible_onTrail _ left right h
    · cases answer with
      | error cause => exact Action.invisible_of_state fun _ => rfl
      | ok _ => exact Action.invisible_of_state fun _ => rfl
  · exact Action.invisible_of_state fun _ => rfl

theorem invisible_conclude (verdict : Verdict) :
    ((Store.engine sink auditEnabled).conclude session permission verdict).Invisible
      (World.Alike scope) :=
  (invisible_audit _).bind fun _ _ _ _ _ => Action.invisible_of_state fun _ => rfl

theorem agrees_conclude {α : Type} {view : Decision -> α}
    (hview : (Store.engine sink auditEnabled).Blind view) (verdict : Verdict) :
    Action.Agrees (World.Alike scope) (do
      return view (← (Store.engine sink auditEnabled).conclude session permission verdict)) := by
  intro left right h
  rw [Action.effect_map, Action.effect_map, result_conclude, result_conclude]
  constructor
  · exact congrArg Except.ok (hview session permission verdict left.trail right.trail)
  · exact (invisible_conclude session permission verdict).preserves left right h

theorem agrees_checkPermission {α : Type} {view : Decision -> α}
    (hview : (Store.engine sink auditEnabled).Blind view)
    (htenant : scope.Covers (.permissionsOf scope.sentinel (contextFor session permission)))
    (hkey : scope.Covers (.hierarchyOf scope.sentinel (.ofRoles permission.admin)
      (contextFor session permission))) :
    Action.Agrees (World.Alike scope) (do
      return view (← (Store.engine sink auditEnabled).checkPermission session permission)) := by
  rw [checkPermission_eq]
  refine ((confined_readStored _).agrees htenant).bind_view fun stored left _ h hread => ?_
  have hadmin := admin_of_readStored h.stores.left_kept hread
  refine ((confined_decide session _).agrees ?_).bind_view fun verdict _ _ _ _ => ?_
  · rw [contextFor_withContext]
    exact hadmin ▸ hkey
  · exact agrees_conclude session _ hview verdict

theorem invisible_checkPermission
    (htenant : ¬ scope.Covers (.permissionsOf scope.sentinel (contextFor session permission))) :
    ((Store.engine sink auditEnabled).checkPermission session permission).Invisible
      (World.Alike scope) := by
  rw [checkPermission_eq]
  refine ((confined_readStored _).invisible htenant).bind fun stored _ _ _ _ => ?_
  refine ((confined_decide session _).invisible ?_).bind fun verdict _ _ _ _ => ?_
  · rw [contextFor_withContext]
    exact fun hkey => htenant hkey.1
  · exact invisible_conclude session _ verdict

theorem preserves_checkPermission :
    ((Store.engine sink auditEnabled).checkPermission session permission).Preserves
      (World.Alike scope) := by
  by_cases htenant : scope.Covers (.permissionsOf scope.sentinel (contextFor session permission))
  · rw [checkPermission_eq]
    refine Action.Preserves.bind ((confined_readStored _).agrees htenant) fun stored _ _ _ _ => ?_
    exact (confined_decide session _).preserves_bind fun verdict =>
      invisible_conclude session _ verdict
  · exact (invisible_checkPermission session permission htenant).preserves

end Decisions

/-!
# Warm-ups
-/

section WarmUp

variable {scope : Scope} {sink : Option (AuditSink τ)} {auditEnabled : Bool}
  {context : Option String}

theorem confined_warmed (kind : HierarchyKind) (context : Option String) :
    (World.onHierarchies
      (Hierarchies.graph (Store.engine sink auditEnabled).directory kind context) :
      Action (World Store τ) Graph).Confined (World.Alike scope)
        (scope.Covers (.hierarchyOf scope.sentinel kind context)) :=
  World.confined_onHierarchies (Hierarchies.confined_graph scope kind context)

theorem agrees_warmUp (hrole : scope.Covers (.hierarchyOf scope.sentinel .role context))
    (hadmin : scope.Covers (.hierarchyOf scope.sentinel .adminRole context)) :
    ((Store.engine sink auditEnabled).warmUp [context]).Agrees (World.Alike scope) := by
  refine Action.Agrees.map ?_ fun _ => ()
  refine ((confined_warmed .role context).agrees hrole).bind fun _ _ _ _ _ => ?_
  refine ((confined_warmed .adminRole context).agrees hadmin).bind fun _ _ _ _ _ => ?_
  exact Action.agrees_of_const (Action.effect_report _ _ _)

theorem invisible_warmUp (hrole : ¬ scope.Covers (.hierarchyOf scope.sentinel .role context))
    (hadmin : ¬ scope.Covers (.hierarchyOf scope.sentinel .adminRole context)) :
    ((Store.engine sink auditEnabled).warmUp [context]).Invisible (World.Alike scope) := by
  refine Action.Invisible.map ?_ fun _ => ()
  refine ((confined_warmed .role context).invisible hrole).bind fun _ _ _ _ _ => ?_
  refine ((confined_warmed .adminRole context).invisible hadmin).bind fun _ _ _ _ _ => ?_
  exact Action.invisible_of_state fun _ => rfl

/-- The administrative roles are built or not as the roles are, which the scope must show then. -/
theorem preserves_warmUp
    (htied : scope.Covers (.hierarchyOf scope.sentinel .adminRole context) ->
      scope.Covers (.hierarchyOf scope.sentinel .role context)) :
    ((Store.engine sink auditEnabled).warmUp [context]).Preserves (World.Alike scope) := by
  by_cases hrole : scope.Covers (.hierarchyOf scope.sentinel .role context)
  · refine Action.Preserves.map ?_ fun _ => ()
    refine Action.Preserves.bind ((confined_warmed .role context).agrees hrole)
      fun _ _ _ _ _ => ?_
    exact (confined_warmed .adminRole context).preserves_bind fun _ =>
      Action.invisible_of_state fun _ => rfl
  · exact (invisible_warmUp hrole fun hadmin => hrole (htied hadmin)).preserves

end WarmUp

end Engine
end Entitlement
