import Entitlement.Proofs.Engine.Spelling

/-!
# Tenant partitions

A check goes to the store for a permission and for a hierarchy, and each time the store puts the
context of the check into its own normal form.  The context of the hierarchy has been put into the
normal form of the engine before.  So the two are of one tenant unless the engine takes the context
for the global one and the store does not: a tenant that is spelled like the sentinel of the engine
has its own permissions, and they are decided by the global hierarchy.
-/

namespace Entitlement

/-- Between the two states the store has listed a hierarchy. -/
def Store.Listed (before after : Store) (key : HierarchyKey) : Prop :=
  after.fetches.get? key ≠ before.fetches.get? key

theorem Store.eq_of_listed {store : Store} {kind : HierarchyKind} {context : Option String}
    {key : HierarchyKey} (h : store.Listed ((list kind context).effect store).2 key) :
    key = store.key kind context := by
  by_contra hother
  have hkept : ((list kind context).effect store).2.fetches.get? key = store.fetches.get? key :=
    (Table.get?_put _ _ store.fetches key).trans (if_neg hother)
  exact h hkept

theorem Store.not_listed (store : Store) (key : HierarchyKey) : ¬ store.Listed store key :=
  fun h => h rfl

namespace Hierarchies

variable {kind : HierarchyKind} {context : Option String} {key : HierarchyKey}
  {h : Hierarchies Store}

/-- The key under which the store lists a hierarchy that the cache asks it for. -/
def listingKey (h : Hierarchies Store) (kind : HierarchyKind) (context : Option String) :
    HierarchyKey :=
  h.directory.key kind (some (h.cache.key kind context).context)

theorem context_listingKey (kind : HierarchyKind) (context : Option String)
    (h : Hierarchies Store) :
    (h.listingKey kind context).context =
      Context.normalize h.directory.sentinel
        (some (Context.normalize h.cache.sentinel context)) := by
  unfold listingKey Store.key Cache.key
  rw [HierarchyKey.of_context, HierarchyKey.of_context]

theorem directory_build (key : HierarchyKey) (h : Hierarchies Store) :
    ((build Store.directory key).effect h).2.directory =
      ((Store.list key.kind (some key.context)).effect h.directory).2 := by
  rw [effect_build_listed]
  cases listedGraph Store.directory key h.directory with
  | error fault => rfl
  | ok graph => rfl

theorem listingKey_of_graph
    (hlisted : h.directory.Listed ((graph Store.directory kind context).effect h).2.directory key) :
    key = h.listingKey kind context := by
  -- A closed cache and a cache that has the graph do not ask the store.
  rw [effect_graph] at hlisted
  by_cases hclosed : h.cache.closed = true
  · rw [if_pos hclosed] at hlisted
    exact absurd hlisted (h.directory.not_listed key)
  · rw [if_neg hclosed] at hlisted
    cases hloaded : h.cache.graph? (h.cache.key kind context) with
    | some loaded =>
        rw [hloaded] at hlisted
        exact absurd hlisted (h.directory.not_listed key)
    | none =>
        rw [hloaded] at hlisted
        dsimp only at hlisted
        rw [directory_build] at hlisted
        exact Store.eq_of_listed hlisted

theorem listingKey_of_inherited {roles : List (Option String)}
    (hlisted : h.directory.Listed
      ((inherited Store.directory kind roles context).effect h).2.directory key) :
    key = h.listingKey kind context := by
  rw [effect_inherited] at hlisted
  split at hlisted
  · exact absurd hlisted (h.directory.not_listed key)
  · exact listingKey_of_graph hlisted

end Hierarchies

namespace Engine

variable {τ : Type} {world : World Store τ} {sink : Option (AuditSink τ)} {auditEnabled : Bool}
  {session : Session} {permission : Permission} {key : HierarchyKey}

theorem listingKey_of_decide
    (hlisted : world.hierarchies.directory.Listed
      (((Store.engine sink auditEnabled).decide session permission).effect
        world).2.hierarchies.directory key) :
    key = world.hierarchies.listingKey (.ofRoles permission.admin)
      (contextFor session permission) := by
  rw [effect_decide] at hlisted
  split at hlisted
  · exact absurd hlisted (world.hierarchies.directory.not_listed key)
  · split at hlisted
    · exact absurd hlisted (world.hierarchies.directory.not_listed key)
    · exact Hierarchies.listingKey_of_inherited hlisted

theorem listingKey_of_rule
    (hlisted : world.hierarchies.directory.Listed
      (((Store.engine sink auditEnabled).rule session permission).effect
        world).2.hierarchies.directory key) :
    exists stored,
      world.hierarchies.directory.permission? (requestFor session permission) = some stored ∧
      key = world.hierarchies.listingKey (.ofRoles stored.admin)
        (contextFor session permission) := by
  cases hstored : world.hierarchies.directory.permission? (requestFor session permission) with
  | none =>
      rw [effect_rule_of_missing hstored] at hlisted
      exact absurd hlisted (world.hierarchies.directory.not_listed key)
  | some stored =>
      rw [effect_rule_of_stored hstored] at hlisted
      have hkey := listingKey_of_decide hlisted
      rw [contextFor_withContext] at hkey
      exact ⟨stored, rfl, hkey⟩

theorem hierarchies_checkPermission (engine : Engine Store τ) (session : Session)
    (permission : Permission) (world : World Store τ) :
    ((engine.checkPermission session permission).effect world).2.hierarchies =
      ((engine.silent.rule session permission).effect world.silent).2.hierarchies := by
  rw [effect_checkPermission]
  rcases (engine.silent.rule session permission).effect world.silent with ⟨ruling, quiet⟩
  cases ruling with
  | error fault => rfl
  | ok ruling => rfl

theorem listingKey_of_checkPermission
    (hlisted : world.hierarchies.directory.Listed
      (((Store.engine sink auditEnabled).checkPermission session permission).effect
        world).2.hierarchies.directory key) :
    exists stored,
      world.hierarchies.directory.permission? (requestFor session permission) = some stored ∧
      key = world.hierarchies.listingKey (.ofRoles stored.admin)
        (contextFor session permission) := by
  rw [hierarchies_checkPermission] at hlisted
  have hruled : world.silent.hierarchies.directory.Listed
      (((Store.engine none false).rule session permission).effect
        world.silent).2.hierarchies.directory key := hlisted
  have hkey := listingKey_of_rule hruled
  exact hkey

/-!
# One tenant or two
-/

/--
A check looks up its permission under one key of the store and has one hierarchy listed at most.
The two are of one tenant exactly if the store takes the context for the global one whenever the
engine does.  A context that both take for the global one is as good as none.
-/
theorem partitions_agree_iff (sink : Option (AuditSink τ)) (auditEnabled : Bool)
    (world : World Store τ) (session : Session) (permission : Permission) :
    let engine := Store.engine sink auditEnabled
    let store := world.hierarchies.directory
    let sentinel := world.hierarchies.cache.sentinel
    let context := contextFor session permission
    let lookup := store.permissionKey (requestFor session permission)
    let checked := (engine.checkPermission session permission).effect world
    engine.stored? (requestFor session permission) world = .ok (store.permissions.get? lookup) ∧
      (forall key, store.Listed checked.2.hierarchies.directory key ->
        exists stored, store.permissions.get? lookup = some stored ∧
          key = world.hierarchies.listingKey (.ofRoles stored.admin) context) ∧
      (forall kind, (world.hierarchies.listingKey kind context).context = lookup.context ↔
        (Context.normalize sentinel context = Context.global ->
          Context.normalize store.sentinel context = Context.global)) ∧
      (Context.normalize sentinel context = Context.global ->
        Context.normalize store.sentinel context = Context.global ->
        lookup.context = Context.global ∧
          SameOutcome checked.1 ((engine.checkPermission { session with context := none }
            { permission with context := none }).effect world).1) := by
  intro engine store sentinel context lookup checked
  refine ⟨rfl, fun key hlisted => listingKey_of_checkPermission hlisted, fun kind => ?_, ?_⟩
  · rw [Hierarchies.context_listingKey]
    exact Context.normalize_normalize_eq_iff sentinel store.sentinel context
  · intro hengine hstore
    have hspelling : Respelled permission { permission with context := none } :=
      ⟨rfl, rfl, rfl, rfl⟩
    have hsame : SameAddresses world.hierarchies session { session with context := none }
        permission { permission with context := none } :=
      { user_eq := rfl
        activated_eq := fun _ => rfl
        lookup_eq := hspelling.permissionKey_eq hstore
        key_eq := fun kind => congrArg (HierarchyKey.mk kind) hengine }
    exact ⟨hstore, (hsame.sameOutcome sink auditEnabled).1⟩

/-- A tenant is spelled like the sentinel, which the engine and its store share up to case. -/
theorem partitions_agree_for_a_respelled_sentinel :
    let edge : Relationship := ⟨.ofText "clerk" rfl, .ofText "boss" rfl⟩
    let grant : Permission := ⟨"file", "read", none, false, [], [some "boss"], none, none, none⟩
    let session : Session := ⟨"ann", [some "clerk"], [], some " NULL ", none⟩
    let world : World Store Unit := .start "Null" ((Store.addPermission grant).run
      ((Store.add .role edge none).run (Store.empty "null")).state).state ()
    world.hierarchies.directory.Listed (((Store.engine none true).checkPermission session
        grant).effect world).2.hierarchies.directory ⟨.role, ""⟩ ∧
      (exists stored, world.hierarchies.directory.permissions.get?
          (world.hierarchies.directory.permissionKey (requestFor session grant)) = some stored ∧
        ⟨.role, ""⟩ = world.hierarchies.listingKey (.ofRoles stored.admin)
          (contextFor session grant)) ∧
      (world.hierarchies.listingKey .role (contextFor session grant)).context =
        (world.hierarchies.directory.permissionKey (requestFor session grant)).context ∧
      (world.hierarchies.directory.permissionKey (requestFor session grant)).context =
        Context.global ∧
      SameOutcome (((Store.engine none true).checkPermission session grant).effect world).1
        (((Store.engine none true).checkPermission { session with context := none }
          { grant with context := none }).effect world).1 := by
  intro edge grant session world
  have hengine : Context.normalize "Null" (contextFor session grant) = Context.global := by
    decide +kernel
  have hstore : Context.normalize "null" (contextFor session grant) = Context.global := by
    decide +kernel
  have hlisted : world.hierarchies.directory.Listed (((Store.engine none true).checkPermission
      session grant).effect world).2.hierarchies.directory ⟨.role, ""⟩ := by
    unfold Store.Listed
    decide +kernel
  have hpartitions := partitions_agree_iff none true world session grant
  have hagree := (hpartitions.2.2.1 .role).mpr fun _ => hstore
  have hglobal := hpartitions.2.2.2 hengine hstore
  exact ⟨hlisted, hpartitions.2.1 ⟨.role, ""⟩ hlisted, hagree, hglobal.1, hglobal.2⟩

/--
A tenant is spelled like the sentinel of the engine, which is not that of the store.  Its own
permission is decided by the global hierarchy; and without one of its own it is not served from the
global permissions, although the engine takes it for no tenant in particular.
-/
theorem sentinel_of_the_engine_mixes_tenants :
    let edge : Relationship := ⟨.ofText "clerk" rfl, .ofText "boss" rfl⟩
    let grant (context : Option String) : Permission :=
      ⟨"file", "read", none, false, [], [some "boss"], context, none, none⟩
    let session : Session := ⟨"ann", [some "clerk"], [], none, none⟩
    let store (context : Option String) := ((Store.addPermission (grant context)).run
      ((Store.add .role edge none).run (Store.empty "null")).state).state
    let engine : Engine Store Unit := Store.engine none true
    let checked (stored asked : Option String) :=
      (engine.checkPermission session (grant asked)).effect (.start "GLOBAL" (store stored) ())
    let tenant := some "global"
    let lookup := (store tenant).permissionKey (requestFor session (grant tenant))
    (lookup.context = "global" ∧ ((store tenant).permissions.get? lookup).isSome = true ∧
        (store tenant).Listed (checked tenant tenant).2.hierarchies.directory ⟨.role, ""⟩ ∧
        (checked tenant tenant).1.toOption.map Decision.granted = some true) ∧
      Context.normalize "GLOBAL" tenant = Context.global ∧
        (checked none none).1.toOption.map Decision.granted = some true ∧
        ¬ SameOutcome (checked none tenant).1 (checked none none).1 := by
  intro edge grant session store engine checked tenant lookup
  have hgranted : (checked none none).1.toOption.map Decision.granted = some true := by
    decide +kernel
  have hmissing : (checked none tenant).1.isOk = false := by decide +kernel
  refine ⟨⟨by decide +kernel, by decide +kernel, ?_, by decide +kernel⟩, by decide +kernel,
    hgranted, fun hsame => ?_⟩
  · unfold Store.Listed
    decide +kernel
  · generalize (checked none none).1 = granted at hgranted hsame
    generalize (checked none tenant).1 = missing at hmissing hsame
    cases hsame with
    | failed => cases hgranted
    | decided => cases hmissing

end Engine
end Entitlement
