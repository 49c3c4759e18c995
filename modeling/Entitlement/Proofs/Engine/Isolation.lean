import Entitlement.Audit.Trail
import Entitlement.Proofs.Engine.Scope

/-!
# Isolation of tenants and kinds

Two runs of an engine are compared, one of them without some of the steps of the other.  If the
missing steps address neither a hierarchy nor the permissions of its tenant, the steps on the
hierarchy and the decisions by it come out the same in both runs.

There are two provisos.  A warm-up builds the administrative roles of a tenant only after the roles,
and only if these could be built; so a run that warms up a tenant ties its administrative roles to
its roles.  And a sink with a memory may fail in one run and not in the other, which a decision
notes beside the verdict.
-/

namespace Entitlement
namespace Engine

variable {τ : Type}

/-!
# Steps of a run
-/

inductive Step where
  | store (call : Store.Call)
  | update (kind : HierarchyKind) (context : Option String) (edge : Relationship)
      (label : Option String)
  | refresh (kind : HierarchyKind) (context : Option String)
  | warmUp (context : Option String)
  | ask (kind : HierarchyKind) (question : Question)
  | isAuthorized (session : Session) (permission : Permission)
  | checkPermission (session : Session) (permission : Permission)
  | clear
  | close

inductive Reply where
  | done
  | stored (reply : Store.Reply)
  | truth (holds : Bool)
  | answer (answer : Answer)
  | decision (decision : Decision)

def Reply.viewed (view : Decision -> Decision) : Reply -> Reply
  | .decision given => .decision (view given)
  | reply => reply

def Step.perform (engine : Engine Store τ) : Step -> Action (World Store τ) Reply
  | .store call => do
      return .stored (← World.onDirectory call.answer)
  | .update kind context edge label => do
      return .truth (← engine.update kind context edge label)
  | .refresh kind context => do
      return .truth (← World.onHierarchies (Hierarchies.invalidate kind context))
  | .warmUp context => do
      engine.warmUp [context]
      return .done
  | .ask kind question => do
      return .answer (← World.onHierarchies (question.ask engine.directory kind))
  | .isAuthorized session permission => do
      return .truth (← engine.isAuthorized session permission)
  | .checkPermission session permission => do
      return .decision (← engine.checkPermission session permission)
  | .clear => do
      World.onHierarchies Hierarchies.clear
      return .done
  | .close => do
      Engine.close
      return .done

def Step.isGlobal : Step -> Bool
  | .clear | .close => true
  | _ => false

def Step.addresses (sentinel : String) : Step -> List Address
  | .store call => call.addresses sentinel
  | .update kind context _ _ | .refresh kind context => [.hierarchyOf sentinel kind context]
  | .warmUp context =>
      [.hierarchyOf sentinel .role context, .hierarchyOf sentinel .adminRole context]
  | .ask kind question => [.hierarchyOf sentinel kind question.context]
  | .isAuthorized session permission =>
      [.hierarchyOf sentinel (.ofRoles permission.admin) (contextFor session permission)]
  | .checkPermission session permission =>
      [.permissionsOf sentinel (contextFor session permission),
        .hierarchyOf sentinel (.ofRoles permission.admin) (contextFor session permission)]
  | .clear | .close => []

section Steps

variable {scope : Scope} {engine : Engine Store τ} {view : Decision -> Decision}

/-- How a step behaves in two runs that are alike in a scope. -/
structure Step.Isolated (engine : Engine Store τ) (view : Decision -> Decision) (scope : Scope)
    (step : Step) : Prop where
  agrees : step.addresses scope.sentinel ≠ [] ->
    (forall address, address ∈ step.addresses scope.sentinel -> scope.Covers address) ->
    Action.Agrees (World.Alike scope) (do return (← step.perform engine).viewed view)
  invisible : step.isGlobal = false -> ¬ scope.Sees (step.addresses scope.sentinel) ->
    (step.perform engine).Invisible (World.Alike scope)
  preserves : (step.perform engine).Preserves (World.Alike scope)

theorem Step.isolated_of_confined {step : Step}
    (hstep : (step.perform engine).Confined (World.Alike scope)
      (scope.Sees (step.addresses scope.sentinel))) : step.Isolated engine view scope where
  agrees := by
    intro hsome hall
    rcases List.exists_mem_of_ne_nil _ hsome with ⟨address, haddress⟩
    exact (hstep.agrees ⟨address, haddress, hall address haddress⟩).map (Reply.viewed view)
  invisible := fun _ hnone => hstep.invisible hnone
  preserves := hstep.preserves

variable {sink : Option (AuditSink τ)} {auditEnabled : Bool}

theorem Step.isolated (hview : (Store.engine sink auditEnabled).Blind view) (step : Step)
    (htied : forall context, step = .warmUp context ->
      scope.Covers (.hierarchyOf scope.sentinel .adminRole context) ->
        scope.Covers (.hierarchyOf scope.sentinel .role context)) :
    step.Isolated (Store.engine sink auditEnabled) view scope := by
  cases step with
  | store call =>
      refine isolated_of_confined (Action.Confined.map ?_ Reply.stored)
      exact World.confined_onHierarchies (Hierarchies.confined_onDirectory call.confined_answer)
  | update kind context edge label =>
      refine isolated_of_confined (Action.Confined.map ?_ Reply.truth)
      exact (World.confined_onHierarchies
        (Hierarchies.confined_update scope kind context edge label)).congr (scope.sees_singleton _)
  | refresh kind context =>
      refine isolated_of_confined (Action.Confined.map ?_ Reply.truth)
      exact (World.confined_onHierarchies
        (Hierarchies.confined_invalidate scope kind context)).congr (scope.sees_singleton _)
  | ask kind question =>
      refine isolated_of_confined (Action.Confined.map ?_ Reply.answer)
      exact (World.confined_onHierarchies
        (question.confined_ask scope kind)).congr (scope.sees_singleton _)
  | isAuthorized session permission =>
      refine isolated_of_confined (Action.Confined.map ?_ Reply.truth)
      exact ((confined_decide session permission).map Verdict.granted).congr
        (scope.sees_singleton _)
  | warmUp context =>
      refine ⟨fun _ hall => ?_, fun _ hnone => ?_, ?_⟩
      · refine Action.Agrees.map (Action.Agrees.map ?_ fun _ => Reply.done) _
        exact agrees_warmUp (hall _ List.mem_cons_self)
          (hall _ (List.mem_cons_of_mem _ List.mem_cons_self))
      · refine Action.Invisible.map ?_ fun _ => Reply.done
        refine invisible_warmUp (fun hrole => hnone ⟨_, List.mem_cons_self, hrole⟩)
          fun hadmin => hnone ⟨_, List.mem_cons_of_mem _ List.mem_cons_self, hadmin⟩
      · exact (preserves_warmUp (htied context rfl)).map fun _ => Reply.done
  | checkPermission session permission =>
      have hblind : (Store.engine sink auditEnabled).Blind fun given =>
          (Reply.decision given).viewed view :=
        fun session stored verdict trail trail' =>
          congrArg Reply.decision (hview session stored verdict trail trail')
      refine ⟨fun _ hall => ?_, fun _ hnone => ?_, ?_⟩
      · exact Action.Agrees.map_view (agrees_checkPermission session permission hblind
          (hall _ List.mem_cons_self) (hall _ (List.mem_cons_of_mem _ List.mem_cons_self)))
      · refine (invisible_checkPermission session permission fun htenant => ?_).map Reply.decision
        exact hnone ⟨_, List.mem_cons_self, htenant⟩
      · exact (preserves_checkPermission session permission).map Reply.decision
  | clear =>
      refine ⟨fun hsome => absurd rfl hsome, fun hglobal => ?_, ?_⟩
      · cases hglobal
      · exact (World.agrees_onHierarchies (Hierarchies.agrees_clear scope)).preserves.map
          fun _ => Reply.done
  | close =>
      refine ⟨fun hsome => absurd rfl hsome, fun hglobal => ?_, ?_⟩
      · cases hglobal
      · exact (World.agrees_onHierarchies (Hierarchies.agrees_close scope)).preserves.map
          fun _ => Reply.done

end Steps

/-!
# Runs
-/

def transcript (engine : Engine Store τ) :
    List Step -> World Store τ -> List (Step × Except Fault Reply)
  | [], _ => []
  | step :: rest, world =>
      let outcome := (step.perform engine).run world
      (step, outcome.result) :: transcript engine rest outcome.state

/-- The step addresses something, and nothing but a hierarchy and the permissions of its tenant. -/
def Step.concerns (sentinel : String) (key : HierarchyKey) (step : Step) : Bool :=
  !(step.addresses sentinel).isEmpty && (step.addresses sentinel).all fun address =>
    address = .hierarchy key || address = .permissions key.context

def heard (engine : Engine Store τ) (sentinel : String) (key : HierarchyKey) (steps : List Step)
    (world : World Store τ) : List (Step × Except Fault Reply) :=
  (engine.transcript steps world).filter fun entry => entry.1.concerns sentinel key

/-- The answers with their decisions as seen through a view. -/
def seen (view : Decision -> Decision) (entries : List (Step × Except Fault Reply)) :
    List (Step × Except Fault Reply) :=
  entries.map fun entry => (entry.1, entry.2.map (Reply.viewed view))

def namesIn (entry : Step × Except Fault Reply) : List Name :=
  match entry.2 with
  | .ok (.answer (.names names)) => names
  | _ => []

def notesAudit (entry : Step × Except Fault Reply) : Bool :=
  match entry.2 with
  | .ok (.decision decision) => decision.auditFault.isSome
  | _ => false

/-- The second run is the first without some of the steps that may be missing. -/
inductive Trimmed (spare : Step -> Prop) : List Step -> List Step -> Prop where
  | nil : Trimmed spare [] []
  | keep {steps kept : List Step} (step : Step) :
      Trimmed spare steps kept -> Trimmed spare (step :: steps) (step :: kept)
  | drop {steps kept : List Step} {step : Step} (h : spare step) :
      Trimmed spare steps kept -> Trimmed spare (step :: steps) kept

/-- The step addresses neither a hierarchy nor the permissions of its tenant. -/
def Elsewhere (sentinel : String) (key : HierarchyKey) (step : Step) : Prop :=
  step.isGlobal = false ∧ .hierarchy key ∉ step.addresses sentinel ∧
    .permissions key.context ∉ step.addresses sentinel

instance (sentinel : String) (key : HierarchyKey) (step : Step) :
    Decidable (Elsewhere sentinel key step) :=
  inferInstanceAs (Decidable (_ ∧ _ ∧ _))

/--
The hierarchies on which the graph of a hierarchy depends in a run.  In a warm-up the administrative
roles of a tenant depend on its roles.
-/
inductive Bears (sentinel : String) (steps : List Step) (key : HierarchyKey) :
    HierarchyKey -> Prop where
  | own : Bears sentinel steps key key
  | warmedUp {context : Option String} (hwarm : Step.warmUp context ∈ steps)
      (hkey : key = .of sentinel .adminRole context) :
      Bears sentinel steps key (.of sentinel .role context)

/-- The step is elsewhere, and not at a hierarchy on which the given one depends in a run. -/
structure Spares (sentinel : String) (steps : List Step) (key : HierarchyKey) (step : Step) :
    Prop where
  elsewhere : Elsewhere sentinel key step
  hierarchies : forall other, Bears sentinel steps key other ->
    .hierarchy other ∉ step.addresses sentinel

theorem spares_of_elsewhere {sentinel : String} {steps : List Step} {key : HierarchyKey}
    (hkind : key.kind ≠ .adminRole) {step : Step} (hstep : Elsewhere sentinel key step) :
    Spares sentinel steps key step where
  elsewhere := hstep
  hierarchies := by
    intro other hbears
    cases hbears with
    | own => exact hstep.2.1
    | warmedUp _ hadmin =>
        rw [hadmin] at hkind
        exact absurd rfl hkind

section Runs

variable {sink : Option (AuditSink τ)} {auditEnabled : Bool} {view : Decision -> Decision}
  {sentinel : String} {key : HierarchyKey} {scope : Scope}

theorem seen_id (entries : List (Step × Except Fault Reply)) :
    seen (fun decision => decision) entries = entries := by
  have hsame : forall entry : Step × Except Fault Reply,
      (entry.1, entry.2.map (Reply.viewed fun decision => decision)) = entry := by
    intro entry
    rcases entry with ⟨step, result⟩
    cases result with
    | error fault => rfl
    | ok reply => cases reply <;> rfl
  unfold seen
  simp only [hsame, List.map_id']

theorem seen_heard_cons (engine : Engine Store τ) (step : Step) (rest : List Step)
    (world : World Store τ) :
    seen view (engine.heard sentinel key (step :: rest) world) =
      if step.concerns sentinel key then
        (step, ((step.perform engine).effect world).1.map (Reply.viewed view)) ::
          seen view (engine.heard sentinel key rest ((step.perform engine).effect world).2)
      else seen view (engine.heard sentinel key rest ((step.perform engine).effect world).2) := by
  unfold heard
  rw [transcript, List.filter_cons]
  by_cases hconcerns : step.concerns sentinel key = true
  · rw [if_pos hconcerns, if_pos hconcerns]
    rfl
  · rw [if_neg hconcerns, if_neg hconcerns]
    rfl

theorem Step.covers_of_concerns (hkey : scope.Covers (.hierarchy key))
    {step : Step} (hconcerns : step.concerns sentinel key = true) :
    step.addresses sentinel ≠ [] ∧
      forall address, address ∈ step.addresses sentinel -> scope.Covers address := by
  unfold concerns at hconcerns
  rw [Bool.and_eq_true, Bool.not_eq_true', List.all_eq_true] at hconcerns
  refine ⟨fun hnone => ?_, fun address haddress => ?_⟩
  · rw [hnone] at hconcerns
    cases hconcerns.1
  · have hcases := hconcerns.2 address haddress
    rw [Bool.or_eq_true, decide_eq_true_eq, decide_eq_true_eq] at hcases
    rcases hcases with hown | htenant
    · exact hown ▸ hkey
    · exact htenant ▸ hkey.1

theorem seen_heard_of_trimmed (hview : (Store.engine sink auditEnabled).Blind view)
    (hkey : scope.Covers (.hierarchy key)) {spare : Step -> Prop} {steps kept : List Step}
    (hspare : forall step, spare step ->
      step.isGlobal = false ∧ ¬ scope.Sees (step.addresses scope.sentinel))
    (htied : forall context, Step.warmUp context ∈ steps ->
      scope.Covers (.hierarchyOf scope.sentinel .adminRole context) ->
        scope.Covers (.hierarchyOf scope.sentinel .role context))
    (htrimmed : Trimmed spare steps kept) {left right : World Store τ}
    (halike : World.Alike scope left right) :
    seen view ((Store.engine sink auditEnabled).heard scope.sentinel key steps left) =
      seen view ((Store.engine sink auditEnabled).heard scope.sentinel key kept right) := by
  -- The worlds stay alike: a kept step preserves that, and a dropped step is not seen.
  induction htrimmed generalizing left right with
  | nil => rfl
  | @keep steps kept step _ ih =>
      have hisolated := Step.isolated hview step fun context hstep =>
        htied context (hstep ▸ List.mem_cons_self)
      have hrest := ih (fun context hmember => htied context (List.mem_cons_of_mem _ hmember))
        (hisolated.preserves left right halike)
      rw [seen_heard_cons, seen_heard_cons, hrest]
      by_cases hconcerns : step.concerns scope.sentinel key = true
      · have hcovers := Step.covers_of_concerns hkey hconcerns
        have hsame := (hisolated.agrees hcovers.1 hcovers.2 left right halike).1
        rw [Action.effect_map, Action.effect_map] at hsame
        simp only at hsame
        rw [if_pos hconcerns, if_pos hconcerns, hsame]
      · rw [if_neg hconcerns, if_neg hconcerns]
  | @drop steps kept step hdropped _ ih =>
      have hisolated := Step.isolated hview step fun context hstep =>
        htied context (hstep ▸ List.mem_cons_self)
      have hunseen := hisolated.invisible (hspare step hdropped).1 (hspare step hdropped).2
      have hother : ¬ step.concerns scope.sentinel key = true := by
        intro hconcerns
        have hcovers := Step.covers_of_concerns hkey hconcerns
        rcases List.exists_mem_of_ne_nil _ hcovers.1 with ⟨address, haddress⟩
        exact (hspare step hdropped).2 ⟨address, haddress, hcovers.2 address haddress⟩
      rw [seen_heard_cons, if_neg hother]
      exact ih (fun context hmember => htied context (List.mem_cons_of_mem _ hmember))
        (hunseen left right halike)

def scopeOf (sentinel : String) (steps : List Step) (key : HierarchyKey) : Scope where
  sentinel := sentinel
  tenant := key.context
  kinds := fun kind => Bears sentinel steps key ⟨kind, key.context⟩

theorem Spares.not_sees {steps : List Step} {step : Step}
    (h : Spares sentinel steps key step) :
    ¬ (scopeOf sentinel steps key).Sees (step.addresses sentinel) := by
  intro hsees
  rcases hsees with ⟨address, haddress, hcovers⟩
  cases address with
  | hierarchy other =>
      rcases other with ⟨kind, context⟩
      rcases hcovers with ⟨hcontext, hbears⟩
      cases hcontext
      exact h.hierarchies _ hbears haddress
  | permissions tenant =>
      cases hcovers
      exact h.elsewhere.2.2 haddress

theorem covers_role_of_warmUp {steps : List Step} {context : Option String}
    (hwarm : Step.warmUp context ∈ steps)
    (hadmin : (scopeOf sentinel steps key).Covers (.hierarchyOf sentinel .adminRole context)) :
    (scopeOf sentinel steps key).Covers (.hierarchyOf sentinel .role context) := by
  have hcontext : Context.normalize sentinel context = key.context := hadmin.1
  have hbears : Bears sentinel steps key ⟨.adminRole, key.context⟩ := hadmin.2
  have hkey : HierarchyKey.of sentinel .adminRole context = ⟨.adminRole, key.context⟩ := by
    rw [← hcontext]
    rfl
  -- No hierarchy depends on administrative roles but their own.
  have hown : key = .of sentinel .adminRole context := by
    rw [hkey]
    generalize hother : HierarchyKey.mk .adminRole key.context = other at hbears
    cases hbears with
    | own => rfl
    | warmedUp _ _ => cases hother
  have hrole := Bears.warmedUp hwarm hown
  rw [show HierarchyKey.of sentinel .role context = ⟨.role, key.context⟩ by
    rw [← hcontext]; rfl] at hrole
  exact ⟨hcontext, hrole⟩

theorem alike_start {store : Store} (hstore : store.Kept scope.sentinel) (trail : τ) :
    World.Alike scope (.start scope.sentinel store trail)
      (.start scope.sentinel store trail) where
  caches := ⟨rfl, rfl, rfl, fun _ _ => rfl⟩
  stores := Store.alike_refl hstore

end Runs

end Engine

/--
Steps that address neither a hierarchy nor the permissions of its tenant do not change what is
answered to the other steps on that hierarchy, nor what is decided by it; if it holds the
administrative roles of a tenant that is warmed up, they must not address the roles of the tenant
either.  A decision may differ in what is noted about its audit, unless the sink is steady.
-/
theorem hierarchies_isolated {τ : Type} {sink : Option (AuditSink τ)} {auditEnabled : Bool}
    {sentinel : String} {store : Store} (hstore : Store.Reached sentinel store) (trail : τ)
    (kind : HierarchyKind) (context : Option String) {steps kept : List Engine.Step}
    (htrimmed : Engine.Trimmed (Engine.Spares sentinel steps (.of sentinel kind context))
      steps kept) :
    let engine := Store.engine sink auditEnabled
    let world := World.start sentinel store trail
    let key := HierarchyKey.of sentinel kind context
    Engine.seen Engine.settled (engine.heard sentinel key steps world) =
        Engine.seen Engine.settled (engine.heard sentinel key kept world) ∧
      (engine.Steady ->
        engine.heard sentinel key steps world = engine.heard sentinel key kept world) := by
  intro engine world key
  have halike : World.Alike (Engine.scopeOf sentinel steps key) world world :=
    Engine.alike_start (Store.kept_of_reached hstore) trail
  have hkey : (Engine.scopeOf sentinel steps key).Covers (.hierarchy key) := ⟨rfl, .own⟩
  have hboth : forall view, engine.Blind view ->
      Engine.seen view (engine.heard sentinel key steps world) =
        Engine.seen view (engine.heard sentinel key kept world) := by
    intro view hview
    exact Engine.seen_heard_of_trimmed hview hkey
      (fun step hspares => ⟨hspares.elsewhere.1, hspares.not_sees⟩)
      (fun context hwarm => Engine.covers_role_of_warmUp hwarm) htrimmed halike
  constructor
  · exact hboth Engine.settled (Engine.blind_settled engine)
  · intro hsteady
    have hsame := hboth (fun decision => decision) hsteady.blind_id
    rw [Engine.seen_id, Engine.seen_id] at hsame
    exact hsame

/-- A tenant is made cyclic, fails and is warmed up in vain, while another one is queried. -/
theorem hierarchies_isolated_of_a_cyclic_tenant :
    let tenant : Option String := some " T "
    let other : Option String := some "s"
    let clerk : Name := .ofText "clerk" rfl
    let boss : Name := .ofText "boss" rfl
    let steps : List Engine.Step := [
      .store (.add .role ⟨clerk, boss⟩ tenant),
      .store (.add .role ⟨clerk, boss⟩ other),
      .store (.add .role ⟨boss, clerk⟩ other),
      .warmUp other,
      .ask .role (.ascendants (some "clerk") other),
      .ask .role (.ascendants (some "Clerk") tenant)]
    let kept : List Engine.Step := [
      .store (.add .role ⟨clerk, boss⟩ tenant),
      .ask .role (.ascendants (some "Clerk") tenant)]
    let engine : Engine Store Unit := Store.engine none true
    let world : World Store Unit := .start "null" (Store.empty "null") ()
    let key := HierarchyKey.of "null" .role tenant
    Store.Reached "null" (Store.empty "null") ∧
      Engine.Trimmed (Engine.Spares "null" steps key) steps kept ∧
      (engine.heard "null" key steps world).map Engine.namesIn = [[], [boss]] ∧
      Engine.seen Engine.settled (engine.heard "null" key steps world) =
        Engine.seen Engine.settled (engine.heard "null" key kept world) := by
  intro tenant other clerk boss steps kept engine world key
  have hspares : forall step, Engine.Elsewhere "null" key step ->
      Engine.Spares "null" steps key step :=
    fun step hstep => Engine.spares_of_elsewhere (by decide) hstep
  have htrimmed : Engine.Trimmed (Engine.Spares "null" steps key) steps kept := by
    refine .keep _ (.drop (hspares _ ?_) (.drop (hspares _ ?_) (.drop (hspares _ ?_)
      (.drop (hspares _ ?_) (.keep _ .nil)))))
    all_goals decide +kernel
  refine ⟨.start, htrimmed, by decide +kernel, ?_⟩
  exact (hierarchies_isolated .start () .role tenant htrimmed).1

/--
What the two provisos are for.  A step on the roles of a tenant makes its warm-up fail before the
administrative roles are built, which leaves them to be built from a later state of the store.  A
check of another tenant uses up a failure of the sink that the check of the tenant would meet.
-/
theorem warm_up_and_audit_cross_hierarchies :
    (exists (kind : HierarchyKind) (context : Option String) (steps kept : List Engine.Step),
      let engine : Engine Store Unit := Store.engine none true
      let world : World Store Unit := .start "null" (Store.empty "null") ()
      let key := HierarchyKey.of "null" kind context
      Engine.Trimmed (Engine.Elsewhere "null" key) steps kept ∧
        Engine.seen Engine.settled (engine.heard "null" key steps world) ≠
          Engine.seen Engine.settled (engine.heard "null" key kept world)) ∧
      exists (kind : HierarchyKind) (context : Option String) (trail : AuditTrail)
        (steps kept : List Engine.Step),
        let engine : Engine Store AuditTrail := Store.engine (some AuditTrail.sink) true
        let world : World Store AuditTrail := .start "null" (Store.empty "null") trail
        let key := HierarchyKey.of "null" kind context
        Engine.Trimmed (Engine.Elsewhere "null" key) steps kept ∧
          engine.heard "null" key steps world ≠ engine.heard "null" key kept world := by
  constructor
  · let tenant : Option String := some "t"
    let clerk : Name := .ofText "clerk" rfl
    let boss : Name := .ofText "boss" rfl
    let key := HierarchyKey.of "null" .adminRole tenant
    let first : Engine.Step := .store (.add .role ⟨clerk, boss⟩ tenant)
    let second : Engine.Step := .store (.add .role ⟨boss, clerk⟩ tenant)
    let later : List Engine.Step := [
      .warmUp tenant,
      .store (.add .adminRole ⟨clerk, boss⟩ tenant),
      .ask .adminRole (.ascendants (some "clerk") tenant)]
    let engine : Engine Store Unit := Store.engine none true
    let world : World Store Unit := .start "null" (Store.empty "null") ()
    have hfirst : Engine.Elsewhere "null" key first := by decide +kernel
    have hsecond : Engine.Elsewhere "null" key second := by decide +kernel
    refine ⟨.adminRole, tenant, first :: second :: later, later,
      .drop hfirst (.drop hsecond (.keep _ (.keep _ (.keep _ .nil)))), fun hsame => ?_⟩
    have hnames := congrArg (List.map Engine.namesIn) hsame
    have hother :
        ¬ (Engine.seen Engine.settled (engine.heard "null" key (first :: second :: later)
            world)).map Engine.namesIn =
          (Engine.seen Engine.settled (engine.heard "null" key later world)).map
            Engine.namesIn := by
      decide +kernel
    exact hother hnames
  · let session : Session := ⟨"ann", [], [], none, none⟩
    let permission (context : String) : Permission :=
      ⟨"file", "read", none, false, [some "ann"], [], some context, none, none⟩
    let key := HierarchyKey.of "null" .role (some "t")
    let first : Engine.Step := .store (.addPermission (permission "s"))
    let second : Engine.Step := .checkPermission session (permission "s")
    let later : List Engine.Step := [
      .store (.addPermission (permission "t")),
      .checkPermission session (permission "t")]
    let trail : AuditTrail := { AuditTrail.standard with failures := [some .cacheClosed] }
    let engine : Engine Store AuditTrail := Store.engine (some AuditTrail.sink) true
    let world : World Store AuditTrail := .start "null" (Store.empty "null") trail
    have hfirst : Engine.Elsewhere "null" key first := by decide +kernel
    have hsecond : Engine.Elsewhere "null" key second := by decide +kernel
    refine ⟨.role, some "t", trail, first :: second :: later, later,
      .drop hfirst (.drop hsecond (.keep _ (.keep _ .nil))), fun hsame => ?_⟩
    have hnotes := congrArg (List.map Engine.notesAudit) hsame
    have hother : ¬ (engine.heard "null" key (first :: second :: later) world).map
        Engine.notesAudit = (engine.heard "null" key later world).map Engine.notesAudit := by
      decide +kernel
    exact hother hnotes

end Entitlement
