import Entitlement.Audit.Trail
import Entitlement.Proofs.Engine.EditFlow
import Entitlement.Proofs.Engine.Operations

/-!
# What a check depends on

Behind an engine with a store, a check reads of its request only the key under which the stored
permission is filed and the key of the hierarchy in which the roles are expanded, and of the session
only the user and the activated roles.  Everything that a check grants comes from the store: the
users and roles that a request carries make no difference, and neither does its spelling.
-/

namespace Entitlement

namespace Hierarchies

variable {σ : Type}

theorem effect_graph_congr (directory : Directory σ) (kind : HierarchyKind)
    {context other : Option String} {h : Hierarchies σ}
    (hkey : h.cache.key kind context = h.cache.key kind other) :
    (graph directory kind context).effect h = (graph directory kind other).effect h := by
  rw [effect_graph, effect_graph, hkey]

theorem effect_inherited_congr (directory : Directory σ) (kind : HierarchyKind)
    (roles : List (Option String)) {context other : Option String} {h : Hierarchies σ}
    (hkey : h.cache.key kind context = h.cache.key kind other) :
    (inherited directory kind roles context).effect h =
      (inherited directory kind roles other).effect h := by
  rw [effect_inherited, effect_inherited, effect_graph_congr directory kind hkey]

end Hierarchies

namespace Engine

variable {σ τ : Type}

/-!
# Rulings over a store
-/

section Rulings

variable {world : World Store τ} {sink : Option (AuditSink τ)} {auditEnabled : Bool}

theorem effect_readStored_of_missing {request : PermissionRequest}
    (hmissing : world.hierarchies.directory.permission? request = none) :
    ((Store.engine sink auditEnabled).readStored request).effect world =
      (.error (.permissionNotFound request), world) := by
  have hasked : (World.onDirectory ((Store.engine sink auditEnabled).directory.readPermission
      request)).effect world = (.ok none, world) :=
    Prod.ext (congrArg Except.ok hmissing) rfl
  unfold readStored
  rw [Action.effect_bind, Action.effect_attempt, hasked]
  rfl

theorem effect_rule_of_missing {session : Session} {permission : Permission}
    (hmissing : world.hierarchies.directory.permission? (requestFor session permission) = none) :
    ((Store.engine sink auditEnabled).rule session permission).effect world =
      (.error (.permissionNotFound (requestFor session permission)), world) :=
  Action.effect_bind_of_error _ (effect_readStored_of_missing hmissing)

theorem effect_rule_of_stored {session : Session} {permission stored : Permission}
    (hstored : world.hierarchies.directory.permission? (requestFor session permission) =
      some stored) :
    ((Store.engine sink auditEnabled).rule session permission).effect world =
      let found := stored.withContext (contextFor session permission)
      let decided := ((Store.engine sink auditEnabled).decide session found).effect world
      (decided.1.map fun verdict => (found, verdict), decided.2) := by
  have hread : ((Store.engine sink auditEnabled).readStored
      (requestFor session permission)).effect world = (.ok stored, world) :=
    effect_readStored hstored
  exact (Action.effect_bind_of_ok _ hread).trans (Action.effect_map _ _ world)

end Rulings

/-!
# Requests with the same addresses
-/

/-- Two checks for the same user and roles that read the same permission and hierarchies. -/
structure SameAddresses (h : Hierarchies Store) (session other : Session) (p q : Permission) :
    Prop where
  user_eq : session.user = other.user
  activated_eq : forall admin, session.activated admin = other.activated admin
  lookup_eq : h.directory.permissionKey (requestFor session p) =
    h.directory.permissionKey (requestFor other q)
  key_eq : forall kind, h.cache.key kind (contextFor session p) =
    h.cache.key kind (contextFor other q)

/-- Both checks fail with faults of one family, or both decide alike. -/
inductive SameOutcome : Except Fault Decision -> Except Fault Decision -> Prop where
  | failed {fault cause : Fault} (family_eq : fault.family = cause.family) :
      SameOutcome (.error fault) (.error cause)
  | decided {decision other : Decision} (granted_eq : decision.granted = other.granted)
      (reason_eq : decision.reason = other.reason) (matched_eq : decision.matched = other.matched) :
      SameOutcome (.ok decision) (.ok other)

section SameAddresses

variable {world : World Store τ} {session other : Session} {p q : Permission}

theorem SameAddresses.effect_decide (engine : Engine Store τ)
    (h : SameAddresses world.hierarchies session other p q) (stored : Permission) :
    (engine.decide session (stored.withContext (contextFor session p))).effect world =
      (engine.decide other (stored.withContext (contextFor other q))).effect world := by
  rw [Engine.effect_decide, Engine.effect_decide, contextFor_withContext, contextFor_withContext]
  dsimp only [Permission.withContext]
  rw [h.user_eq, h.activated_eq,
    Hierarchies.effect_inherited_congr engine.directory _ _ (h.key_eq _)]
  rfl

theorem SameAddresses.rule_cases (h : SameAddresses world.hierarchies session other p q)
    (sink : Option (AuditSink τ)) (auditEnabled : Bool) :
    let engine := Store.engine sink auditEnabled
    (exists fault cause after, fault.family = cause.family ∧
        (engine.rule session p).effect world = (.error fault, after) ∧
        (engine.rule other q).effect world = (.error cause, after)) ∨
      exists (stored : Permission) (verdict : Verdict) (after : World Store τ),
        (engine.rule session p).effect world =
          (.ok (stored.withContext (contextFor session p), verdict), after) ∧
        (engine.rule other q).effect world =
          (.ok (stored.withContext (contextFor other q), verdict), after) := by
  intro engine
  have hlookup : world.hierarchies.directory.permission? (requestFor session p) =
      world.hierarchies.directory.permission? (requestFor other q) :=
    congrArg (fun key => world.hierarchies.directory.permissions.get? key) h.lookup_eq
  cases hstored : world.hierarchies.directory.permission? (requestFor other q) with
  | none =>
      rw [hstored] at hlookup
      rw [effect_rule_of_missing hlookup, effect_rule_of_missing hstored]
      exact Or.inl ⟨.permissionNotFound (requestFor session p),
        .permissionNotFound (requestFor other q), world, rfl, rfl, rfl⟩
  | some stored =>
      rw [hstored] at hlookup
      rw [effect_rule_of_stored hlookup, effect_rule_of_stored hstored]
      dsimp only
      rw [h.effect_decide]
      rcases ((Store.engine sink auditEnabled).decide other
        (stored.withContext (contextFor other q))).effect world with ⟨result, after⟩
      cases result with
      | error fault => exact Or.inl ⟨fault, fault, after, rfl, rfl, rfl⟩
      | ok verdict => exact Or.inr ⟨stored, verdict, after, rfl, rfl⟩

theorem SameAddresses.sameOutcome (h : SameAddresses world.hierarchies session other p q)
    (sink : Option (AuditSink τ)) (auditEnabled : Bool) :
    let engine := Store.engine sink auditEnabled
    let first := (engine.checkPermission session p).effect world
    let second := (engine.checkPermission other q).effect world
    SameOutcome first.1 second.1 ∧
      engine.told world.trail first.1 = engine.told world.trail second.1 ∧
      first.2 = second.2 := by
  intro engine first second
  have hfirst : first = engine.concluded session world.trail
      ((engine.silent.rule session p).effect world.silent) :=
    effect_checkPermission engine session p world
  have hsecond : second = engine.concluded other world.trail
      ((engine.silent.rule other q).effect world.silent) :=
    effect_checkPermission engine other q world
  have hsilent : SameAddresses world.silent.hierarchies session other p q := h
  rcases hsilent.rule_cases none false with
    ⟨fault, cause, quiet, hfamily, hleft, hright⟩ | ⟨stored, verdict, quiet, hleft, hright⟩
  · rw [hfirst.trans (congrArg _ hleft), hsecond.trans (congrArg _ hright)]
    exact ⟨.failed hfamily, rfl, rfl⟩
  · rw [hfirst.trans (congrArg _ hleft), hsecond.trans (congrArg _ hright)]
    -- The identifier of a permission does not depend on the context in which it is decided.
    have hevent : eventOf session (stored.withContext (contextFor session p)) verdict =
        eventOf other (stored.withContext (contextFor other q)) verdict :=
      congrArg (AuditEvent.mk stored.auditId · verdict.granted) h.user_eq
    refine ⟨.decided rfl rfl rfl, ?_, ?_⟩
    · exact congrArg (engine.handed · world.trail) hevent
    · exact congrArg (fun event => quiet.withTrail (engine.trailAfter event world.trail)) hevent

end SameAddresses

/-!
# Respelled requests
-/

/-- The two requests name the same operation on the same object, up to spelling. -/
structure Respelled (p q : Permission) : Prop where
  object_eq : Store.folded p.object = Store.folded q.object
  operation_eq : Store.folded p.operation = Store.folded q.operation
  objectId_eq : Store.folded (p.objectId.getD "") = Store.folded (q.objectId.getD "")
  admin_eq : p.admin = q.admin

theorem Respelled.permissionKey_eq {p q : Permission} (h : Respelled p q) {store : Store}
    {session other : Session}
    (hcontext : Context.normalize store.sentinel (contextFor session p) =
      Context.normalize store.sentinel (contextFor other q)) :
    store.permissionKey (requestFor session p) = store.permissionKey (requestFor other q) := by
  unfold Store.permissionKey
  rw [PermissionKey.mk.injEq]
  exact ⟨hcontext, h.admin_eq, h.object_eq, h.operation_eq, h.objectId_eq⟩

/--
Of an engine with the sentinel of its store, two requests that differ only in spelling and in what
they claim to grant are checked alike, and the audit sink is told the same of them.
-/
theorem checks_ignore_spelling {ρ : Type} (sink : Option (AuditSink τ)) (auditEnabled : Bool)
    (world : World Store τ) (session : Session) (p q : Permission)
    (hsentinel : world.hierarchies.directory.sentinel = world.hierarchies.cache.sentinel)
    (hspelling : Respelled p q)
    (hcontext : Context.normalize world.hierarchies.cache.sentinel (contextFor session p) =
      Context.normalize world.hierarchies.cache.sentinel (contextFor session q)) :
    let engine := Store.engine sink auditEnabled
    let check (permission : Permission) : Operation Store ρ := .checkPermission session permission
    SameOutcome ((engine.checkPermission session p).effect world).1
        ((engine.checkPermission session q).effect world).1 ∧
      (check p).calls engine world = (check q).calls engine world ∧
      ((engine.checkPermission session p).effect world).2 =
        ((engine.checkPermission session q).effect world).2 := by
  intro engine check
  have hsame : SameAddresses world.hierarchies session session p q :=
    { user_eq := rfl
      activated_eq := fun _ => rfl
      lookup_eq := hspelling.permissionKey_eq (hsentinel ▸ hcontext)
      key_eq := fun kind => congrArg (HierarchyKey.mk kind) hcontext }
  rcases hsame.sameOutcome sink auditEnabled with ⟨houtcome, htold, hworld⟩
  refine ⟨houtcome, ?_, hworld⟩
  rw [Operation.calls_check, Operation.calls_check]
  exact htold

/-- A request that claims to be granted by its caller gets what the stored permission grants. -/
theorem checks_ignore_spelling_of_a_forged_grant :
    let edge : Relationship := ⟨.ofText "clerk" rfl, .ofText "boss" rfl⟩
    let grant : Permission :=
      ⟨"file", "read", none, false, [], [some "boss"], some "t", none, none⟩
    let forged : Permission :=
      ⟨" File ", "READ", some " ", false, [some "bob"], [], some "t ", some "x", some "y"⟩
    let session : Session := ⟨"bob", [some "clerk"], [], none, none⟩
    let stored := ((Store.addPermission grant).run ((Store.add .role edge (some "t")).run
      (Store.empty "null")).state).state
    let engine : Engine Store AuditTrail := Store.engine (some AuditTrail.sink) true
    let world : World Store AuditTrail := .start "null" stored .standard
    let check (asked : Permission) : Operation Store Unit := .checkPermission session asked
    SameOutcome ((engine.checkPermission session forged).effect world).1
        ((engine.checkPermission session grant).effect world).1 ∧
      (check forged).calls engine world = (check grant).calls engine world ∧
      ((check forged).calls engine world).map AuditCall.event = [⟨"file.read", "bob", true⟩] ∧
      ((engine.checkPermission session forged).effect world).1.toOption.map Decision.matched =
        some ["BOSS"] := by
  intro edge grant forged session stored engine world check
  have hspelling : Respelled forged grant :=
    { object_eq := by decide +kernel
      operation_eq := by decide +kernel
      objectId_eq := by decide +kernel
      admin_eq := rfl }
  have hsame := checks_ignore_spelling (ρ := Unit) (some AuditTrail.sink) true world session forged
    grant rfl hspelling (by decide +kernel)
  exact ⟨hsame.1, hsame.2.1, by decide +kernel, by decide +kernel⟩

end Engine
end Entitlement
