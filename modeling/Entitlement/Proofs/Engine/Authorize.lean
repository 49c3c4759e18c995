import Entitlement.Proofs.Engine.Calls
import Entitlement.Proofs.Roster

/-!
# What a decision means

A decision is read off the edges of the graph that is served for it: a granted role counts if it is
activated or if parent edges lead to it from an activated role.  The engine computes a closure over
positions, a roster and an intersection instead; the theorems below relate the two.
-/

namespace Entitlement

/-- A granted role that is activated, or to which parent edges lead from an activated role. -/
def Reaches (edges : Name -> Name -> Prop) (session : Session) (permission : Permission)
    (role : Name) : Prop :=
  exists active granted : String, exists held : Name,
    some active ∈ session.activated permission.admin ∧ Text.blank active = false ∧
      some granted ∈ permission.roles ∧ Text.blank granted = false ∧
      held.text = canonicalForm active ∧ role.text = canonicalForm granted ∧
      (held = role ∨ Relation.TransGen edges held role)

/-- The user is granted directly, or some granted role counts. -/
def Entitled (edges : Name -> Name -> Prop) (session : Session) (permission : Permission) : Prop :=
  some session.user ∈ permission.users ∨ exists role, Reaches edges session permission role

def HoldsRole (session : Session) (admin : Bool) : Prop :=
  exists active, some active ∈ session.activated admin ∧ Text.blank active = false

namespace Hierarchies

variable {σ : Type}

/-!
# Names that are given
-/

theorem mem_givenNames_iff {texts : List (Option String)} {name : Name} :
    name ∈ givenNames texts ↔
      exists text,
        some text ∈ texts ∧ Text.blank text = false ∧ name.text = canonicalForm text := by
  unfold givenNames
  rw [List.mem_filterMap]
  constructor
  · intro hgiven
    rcases hgiven with ⟨text, htext, hname⟩
    cases text with
    | none => cases hname
    | some raw =>
        cases hparse : Name.parse (some raw) with
        | error defect =>
            rw [hparse] at hname
            cases hname
        | ok parsed =>
            rw [hparse] at hname
            cases hname
            exact ⟨raw, htext, Name.parse_some_eq_ok_iff.mp hparse⟩
  · intro hgiven
    rcases hgiven with ⟨raw, hraw, hname⟩
    refine ⟨some raw, hraw, ?_⟩
    rw [Name.parse_some_eq_ok_iff.mpr hname]
    rfl

theorem givenNames_isEmpty_iff {texts : List (Option String)} :
    (givenNames texts).isEmpty = true ↔
      ¬ exists text, some text ∈ texts ∧ Text.blank text = false := by
  rw [List.isEmpty_iff, List.eq_nil_iff_forall_not_mem, not_exists]
  constructor
  · intro hnone text hgiven
    rcases hgiven with ⟨htext, hblank⟩
    exact hnone (.ofText text hblank) (mem_givenNames_iff.mpr ⟨text, htext, hblank, rfl⟩)
  · intro hnone name hname
    rcases mem_givenNames_iff.mp hname with ⟨text, htext, hblank, _⟩
    exact hnone text ⟨htext, hblank⟩

/-!
# Inherited roles
-/

def expanded (graph : Graph) (roles : List (Option String)) : List Name :=
  Roster.ofList ((givenNames roles).flatMap fun name => name :: graph.ascendants (some name.text))

theorem effect_inherited (directory : Directory σ) (kind : HierarchyKind)
    (roles : List (Option String)) (context : Option String) (h : Hierarchies σ) :
    (inherited directory kind roles context).effect h =
      if (givenNames roles).isEmpty then (.ok [], h)
      else
        (((graph directory kind context).effect h).1.map fun graph => expanded graph roles,
          ((graph directory kind context).effect h).2) := by
  unfold inherited
  dsimp only
  split
  · rfl
  · unfold ask
    rw [Action.effect_bind]
    rcases (graph directory kind context).effect h with ⟨result, state⟩
    cases result with
    | error fault => rfl
    | ok graph => rfl

theorem mem_expanded_iff {graph : Graph} (hgraph : graph.Sound) {roles : List (Option String)}
    {role : Name} :
    role ∈ expanded graph roles ↔
      exists held, held ∈ givenNames roles ∧ (held = role ∨ graph.Above held role) := by
  unfold expanded
  rw [Roster.mem_ofList, List.mem_flatMap]
  refine exists_congr fun held => and_congr_right fun _ => ?_
  rw [List.mem_cons, hgraph.mem_ascendants_text_iff, eq_comm]

end Hierarchies

namespace Engine

variable {σ τ : Type}

/-!
# Verdicts
-/

/-- What a verdict says about a request, if the graph has the given edges. -/
structure Explains (verdict : Verdict) (edges : Name -> Name -> Prop) (session : Session)
    (permission : Permission) : Prop where
  granted_iff : verdict.granted = true ↔ Entitled edges session permission
  matched_of_direct : some session.user ∈ permission.users -> verdict.matched = []
  mem_matched_iff : some session.user ∉ permission.users -> forall role,
    role ∈ verdict.matched ↔ Reaches edges session permission role

/-- The verdict on the roles that a session holds, when its user is not granted directly. -/
def verdictOf (held : List Name) (permission : Permission) : Verdict :=
  let matched := held.filter fun role => (Hierarchies.givenNames permission.roles).contains role
  if matched.isEmpty then .unmatched else .inherited matched

theorem granted_verdictOf_iff {held : List Name} {permission : Permission} :
    (verdictOf held permission).granted = true ↔
      exists role, role ∈ (verdictOf held permission).matched := by
  unfold verdictOf
  dsimp only
  split
  · simp [Verdict.granted, Verdict.matched]
  · rename_i hmatched
    rw [List.isEmpty_iff, List.eq_nil_iff_forall_not_mem, not_forall_not] at hmatched
    exact iff_of_true rfl hmatched

theorem mem_matched_verdictOf_iff {held : List Name} {permission : Permission} {role : Name} :
    role ∈ (verdictOf held permission).matched ↔
      role ∈ held ∧ role ∈ Hierarchies.givenNames permission.roles := by
  have hfilter : (verdictOf held permission).matched =
      held.filter fun role => (Hierarchies.givenNames permission.roles).contains role := by
    unfold verdictOf
    dsimp only
    split
    · rename_i hmatched
      exact (List.isEmpty_iff.mp hmatched).symm
    · rfl
  rw [hfilter, List.mem_filter, List.contains_iff_mem]

theorem effect_decide (engine : Engine σ τ) (session : Session) (permission : Permission)
    (world : World σ τ) :
    (engine.decide session permission).effect world =
      if permission.users.contains (some session.user) then (.ok .direct, world)
      else if permission.roles.isEmpty then (.ok .ungranted, world)
      else
        let inherited := (Hierarchies.inherited engine.directory (.ofRoles permission.admin)
          (session.activated permission.admin) (contextFor session permission)).effect
            world.hierarchies
        (inherited.1.map fun held => verdictOf held permission,
          { world with hierarchies := inherited.2 }) := by
  unfold Engine.decide
  split
  · rfl
  · split
    · rfl
    · unfold World.onHierarchies
      rw [Action.effect_bind, Action.effect_within]
      rcases (Hierarchies.inherited engine.directory (.ofRoles permission.admin)
          (session.activated permission.admin) (contextFor session permission)).effect
            world.hierarchies with ⟨result, state⟩
      cases result with
      | error fault => rfl
      | ok held => rfl

end Engine

/-!
# Requests that are decided
-/

section Decided

variable {edges : Name -> Name -> Prop} {session : Session} {permission : Permission}

theorem reaches_iff {role : Name} :
    Reaches edges session permission role ↔
      (exists held, held ∈ Hierarchies.givenNames (session.activated permission.admin) ∧
        (held = role ∨ Relation.TransGen edges held role)) ∧
      role ∈ Hierarchies.givenNames permission.roles := by
  simp only [Hierarchies.mem_givenNames_iff]
  constructor
  · intro hreach
    rcases hreach with ⟨active, granted, held, hactive, hheld, hgranted, hrole, hheldText,
      hroleText, hpath⟩
    exact ⟨⟨held, ⟨active, hactive, hheld, hheldText⟩, hpath⟩,
      ⟨granted, hgranted, hrole, hroleText⟩⟩
  · intro hreach
    rcases hreach with ⟨⟨held, ⟨active, hactive, hheld, hheldText⟩, hpath⟩, ⟨granted, hgranted,
      hrole, hroleText⟩⟩
    exact ⟨active, granted, held, hactive, hheld, hgranted, hrole, hheldText, hroleText, hpath⟩

namespace Engine

theorem explains_direct (hdirect : some session.user ∈ permission.users) :
    Explains .direct edges session permission where
  granted_iff := iff_of_true rfl (Or.inl hdirect)
  matched_of_direct := fun _ => rfl
  mem_matched_iff := fun hother => absurd hdirect hother

theorem explains_ungranted (hdirect : some session.user ∉ permission.users)
    (hroles : permission.roles = []) : Explains .ungranted edges session permission := by
  have hnone : forall role, ¬ Reaches edges session permission role := by
    intro role hreach
    rcases hreach with ⟨_, granted, _, _, _, hgranted, _⟩
    rw [hroles] at hgranted
    cases hgranted
  refine ⟨?_, fun h => absurd h hdirect, ?_⟩
  · refine iff_of_false Bool.false_ne_true ?_
    intro hboth
    rcases hboth with huser | ⟨role, hrole⟩
    · exact hdirect huser
    · exact hnone role hrole
  · intro _ role
    exact iff_of_false List.not_mem_nil (hnone role)

theorem explains_verdictOf (hdirect : some session.user ∉ permission.users) {held : List Name}
    (hheld : forall role, role ∈ held ↔
      exists start, start ∈ Hierarchies.givenNames (session.activated permission.admin) ∧
        (start = role ∨ Relation.TransGen edges start role)) :
    Explains (verdictOf held permission) edges session permission := by
  have hmatched : forall role,
      role ∈ (verdictOf held permission).matched ↔ Reaches edges session permission role := by
    intro role
    rw [mem_matched_verdictOf_iff, hheld, reaches_iff]
  refine ⟨?_, fun h => absurd h hdirect, fun _ => hmatched⟩
  rw [granted_verdictOf_iff]
  constructor
  · intro hrole
    rcases hrole with ⟨role, hrole⟩
    exact Or.inr ⟨role, (hmatched role).mp hrole⟩
  · intro hboth
    rcases hboth with huser | ⟨role, hrole⟩
    · exact absurd huser hdirect
    · exact ⟨role, (hmatched role).mpr hrole⟩

end Engine
end Decided

namespace Engine

variable {σ τ : Type}

def Served (engine : Engine σ τ) (world : World σ τ) (kind : HierarchyKind)
    (context : Option String) (child parent : Name) : Prop :=
  exists graph, ((Hierarchies.graph engine.directory kind context).run world.hierarchies).result =
    .ok graph ∧ graph.Edge child parent

theorem served_eq_edge {engine : Engine σ τ} {world : World σ τ} {kind : HierarchyKind}
    {context : Option String} {graph : Graph}
    (hgraph : ((Hierarchies.graph engine.directory kind context).run world.hierarchies).result =
      .ok graph) : engine.Served world kind context = graph.Edge := by
  funext child parent
  refine propext ⟨?_, fun hedge => ⟨graph, hgraph, hedge⟩⟩
  intro hedge
  rcases hedge with ⟨served, hserved, hedge⟩
  rw [hgraph] at hserved
  rw [Except.ok.inj hserved]
  exact hedge

/-- A decision is made unless a graph is needed that is not to be had. -/
theorem decide_cases (engine : Engine σ τ) (session : Session) (permission : Permission)
    {world : World σ τ} (hsound : world.hierarchies.Sound) :
    (exists verdict, ((engine.decide session permission).effect world).1 = .ok verdict ∧
        Explains verdict (engine.Served world (.ofRoles permission.admin)
          (contextFor session permission)) session permission) ∨
      exists fault, ((engine.decide session permission).effect world).1 = .error fault ∧
        some session.user ∉ permission.users ∧ permission.roles ≠ [] ∧
        HoldsRole session permission.admin ∧
        ((Hierarchies.graph engine.directory (.ofRoles permission.admin)
          (contextFor session permission)).run world.hierarchies).result = .error fault := by
  rw [effect_decide, Hierarchies.effect_inherited]
  by_cases hdirect : some session.user ∈ permission.users
  · rw [if_pos (List.contains_iff_mem.mpr hdirect)]
    exact Or.inl ⟨.direct, rfl, explains_direct hdirect⟩
  · rw [if_neg fun h => hdirect (List.contains_iff_mem.mp h)]
    by_cases hroles : permission.roles = []
    · rw [if_pos (List.isEmpty_iff.mpr hroles)]
      exact Or.inl ⟨.ungranted, rfl, explains_ungranted hdirect hroles⟩
    · rw [if_neg fun h => hroles (List.isEmpty_iff.mp h)]
      by_cases hheld : (Hierarchies.givenNames (session.activated permission.admin)).isEmpty = true
      · rw [if_pos hheld]
        refine Or.inl ⟨verdictOf [] permission, rfl, explains_verdictOf hdirect fun role => ?_⟩
        rw [List.isEmpty_iff.mp hheld]
        simp
      · rw [if_neg hheld]
        rcases hgraph : (Hierarchies.graph engine.directory (.ofRoles permission.admin)
          (contextFor session permission)).effect world.hierarchies with ⟨result, state⟩
        cases result with
        | error fault =>
            have hholds := not_not.mp fun h => hheld (Hierarchies.givenNames_isEmpty_iff.mpr h)
            refine Or.inr ⟨fault, rfl, hdirect, hroles, hholds, ?_⟩
            rw [Action.result_eq_effect, hgraph]
        | ok graph =>
            have hserved : engine.Served world (.ofRoles permission.admin)
                (contextFor session permission) = graph.Edge := by
              apply served_eq_edge
              rw [Action.result_eq_effect, hgraph]
            rw [hserved]
            refine Or.inl ⟨_, rfl, explains_verdictOf hdirect fun role => ?_⟩
            exact Hierarchies.mem_expanded_iff (Hierarchies.sound_of_graph hsound hgraph)

theorem explains_of_decide {engine : Engine σ τ} {session : Session} {permission : Permission}
    {world : World σ τ} (hsound : world.hierarchies.Sound) {verdict : Verdict}
    (hverdict : ((engine.decide session permission).effect world).1 = .ok verdict) :
    Explains verdict (engine.Served world (.ofRoles permission.admin)
      (contextFor session permission)) session permission := by
  rcases decide_cases engine session permission hsound with
    ⟨decided, hdecided, hexplains⟩ | ⟨fault, hfault, _⟩
  · rw [hdecided] at hverdict
    rw [← Except.ok.inj hverdict]
    exact hexplains
  · rw [hfault] at hverdict
    cases hverdict

theorem result_isAuthorized (engine : Engine σ τ) (session : Session) (permission : Permission)
    (world : World σ τ) :
    ((engine.isAuthorized session permission).run world).result =
      ((engine.decide session permission).effect world).1.map Verdict.granted := by
  unfold isAuthorized
  rw [Action.result_eq_effect, Action.effect_bind]
  rcases (engine.decide session permission).effect world with ⟨result, after⟩
  cases result with
  | error fault => rfl
  | ok verdict => rfl

/-!
# Checks of stored permissions
-/

def afterReading (engine : Engine σ τ) (request : PermissionRequest) (world : World σ τ) :
    World σ τ :=
  ((World.onDirectory (engine.directory.readPermission request)).run world).state

def stored? (engine : Engine σ τ) (request : PermissionRequest) (world : World σ τ) :
    Except Fault (Option Permission) :=
  ((World.onDirectory (engine.directory.readPermission request)).run world).result

theorem stored?_of_readStored {engine : Engine σ τ} {request : PermissionRequest}
    {world after : World σ τ} {stored : Permission}
    (hread : (engine.readStored request).effect world = (.ok stored, after)) :
    engine.stored? request world = .ok (some stored) ∧
      after = engine.afterReading request world := by
  unfold readStored at hread
  rcases Action.effect_bind_eq_ok hread with ⟨answer, middle, hask, hanswer⟩
  have hresult : answer = engine.stored? request world :=
    (Except.ok.inj (congrArg Prod.fst hask)).symm
  have hstate : middle = engine.afterReading request world := (congrArg Prod.snd hask).symm
  rw [← hresult, ← hstate]
  cases answer with
  | error fault => cases hanswer
  | ok found =>
      cases found with
      | none => cases hanswer
      | some permission =>
          cases hanswer
          exact ⟨rfl, rfl⟩

theorem contextFor_withContext (session : Session) (permission stored : Permission) :
    contextFor session (stored.withContext (contextFor session permission)) =
      contextFor session permission := by
  unfold contextFor Permission.withContext
  cases permission.context with
  | some context => rfl
  | none =>
      cases session.context with
      | some context => rfl
      | none => rfl

theorem sound_afterReading (engine : Engine σ τ) (request : PermissionRequest) {world : World σ τ}
    (hsound : world.hierarchies.Sound) :
    (engine.afterReading request world).hierarchies.Sound :=
  hsound

/-- A check that answers has read a stored permission and decided it. -/
theorem checkPermission_cases {engine : Engine σ τ} {session : Session} {permission : Permission}
    {world : World σ τ} {decision : Decision}
    (hdecision : ((engine.checkPermission session permission).effect world).1 = .ok decision) :
    let context := contextFor session permission
    let request := { permission.request with context }
    exists stored verdict, engine.stored? request world = .ok (some stored) ∧
      ((engine.decide session (stored.withContext context)).effect
        (engine.afterReading request world)).1 = .ok verdict ∧
      decision.permission = stored.withContext context ∧ decision.user = session.user ∧
      decision.granted = verdict.granted ∧ decision.matched = verdict.matched.map (·.text) ∧
      decision.reason = verdict.reason := by
  intro context request
  have hcheck : (engine.checkPermission session permission).effect world =
      (.ok decision, ((engine.checkPermission session permission).effect world).2) :=
    Prod.ext hdecision rfl
  unfold checkPermission at hcheck
  rcases Action.effect_bind_eq_ok hcheck with ⟨stored, middle, hread, hcheck⟩
  rcases stored?_of_readStored hread with ⟨hstored, hmiddle⟩
  rcases Action.effect_bind_eq_ok hcheck with ⟨verdict, _, hverdict, hcheck⟩
  rcases Action.effect_bind_eq_ok hcheck with ⟨auditFault, _, _, hcheck⟩
  rcases Action.effect_bind_eq_ok hcheck with ⟨_, _, _, hanswer⟩
  have hanswer := Except.ok.inj (congrArg Prod.fst hanswer)
  refine ⟨stored, verdict, hstored, ?_, ?_⟩
  · rw [← hmiddle]
    exact congrArg Prod.fst hverdict
  · rw [← hanswer]
    exact ⟨rfl, rfl, rfl, rfl, rfl⟩

/-!
# The meaning of a decision
-/

/-- What a decision on a stored permission says, if the graph has the given edges. -/
structure Justified (decision : Decision) (edges : Name -> Name -> Prop) (session : Session)
    (permission : Permission) : Prop where
  user_eq : decision.user = session.user
  permission_eq : decision.permission = permission
  granted_iff : decision.granted = true ↔ Entitled edges session permission
  matched_of_direct : some session.user ∈ permission.users -> decision.matched = []
  matched_of_denied : decision.granted = false -> decision.matched = []
  mem_matched_iff : some session.user ∉ permission.users -> forall text,
    text ∈ decision.matched ↔ exists role, role.text = text ∧ Reaches edges session permission role

theorem Explains.justified {verdict : Verdict} {edges : Name -> Name -> Prop} {session : Session}
    {permission : Permission} (h : Explains verdict edges session permission) {decision : Decision}
    (huser : decision.user = session.user) (hpermission : decision.permission = permission)
    (hgranted : decision.granted = verdict.granted)
    (hmatched : decision.matched = verdict.matched.map (·.text)) :
    Justified decision edges session permission where
  user_eq := huser
  permission_eq := hpermission
  granted_iff := by
    rw [hgranted]
    exact h.granted_iff
  matched_of_direct := by
    intro hdirect
    rw [hmatched, h.matched_of_direct hdirect]
    rfl
  matched_of_denied := by
    intro hdenied
    rw [hgranted] at hdenied
    rw [hmatched]
    cases verdict with
    | direct => cases hdenied
    | ungranted => rfl
    | inherited roles => cases hdenied
    | unmatched => rfl
  mem_matched_iff := by
    intro hdirect text
    rw [hmatched, List.mem_map]
    constructor
    · intro hmatched
      rcases hmatched with ⟨role, hrole, htext⟩
      exact ⟨role, htext, (h.mem_matched_iff hdirect role).mp hrole⟩
    · intro hmatched
      rcases hmatched with ⟨role, htext, hrole⟩
      exact ⟨role, (h.mem_matched_iff hdirect role).mpr hrole, htext⟩

/-- Decisions follow the edges of the served graph, and fail only for want of that graph. -/
theorem decisions_exact {engine : Engine σ τ} {sentinel : String} {world : World σ τ}
    (hreached : engine.Reached sentinel world) (session : Session) (permission : Permission) :
    let context := contextFor session permission
    let request := { permission.request with context }
    (forall allowed,
      ((engine.isAuthorized session permission).run world).result = .ok allowed ->
        (allowed = true ↔
          Entitled (engine.Served world (.ofRoles permission.admin) context) session permission)) ∧
      (forall fault,
        ((engine.isAuthorized session permission).run world).result = .error fault ->
          some session.user ∉ permission.users ∧ permission.roles ≠ [] ∧
          HoldsRole session permission.admin ∧
          ((Hierarchies.graph engine.directory (.ofRoles permission.admin) context).run
            world.hierarchies).result = .error fault) ∧
      forall decision,
        ((engine.checkPermission session permission).run world).result = .ok decision ->
          exists stored, engine.stored? request world = .ok (some stored) ∧
            Justified decision
              (engine.Served (engine.afterReading request world) (.ofRoles stored.admin) context)
              session (stored.withContext context) := by
  intro context request
  have hsound := sound_of_reached hreached
  rw [result_isAuthorized]
  constructor
  · intro allowed hresult
    cases hverdict : ((engine.decide session permission).effect world).1 with
    | error fault =>
        rw [hverdict] at hresult
        cases hresult
    | ok verdict =>
        rw [hverdict] at hresult
        rw [← Except.ok.inj hresult]
        exact (explains_of_decide hsound hverdict).granted_iff
  constructor
  · intro fault hresult
    rcases decide_cases engine session permission hsound with
      ⟨verdict, hverdict, _⟩ | ⟨cause, hcause, hdirect, hroles, hholds, hgraph⟩
    · rw [hverdict] at hresult
      cases hresult
    · rw [hcause] at hresult
      cases hresult
      exact ⟨hdirect, hroles, hholds, hgraph⟩
  · intro decision hdecision
    rw [Action.result_eq_effect] at hdecision
    rcases checkPermission_cases hdecision with
      ⟨stored, verdict, hstored, hverdict, hpermission, huser, hgranted, hmatched, _⟩
    have hexplains := explains_of_decide (sound_afterReading engine request hsound) hverdict
    rw [contextFor_withContext session permission stored] at hexplains
    exact ⟨stored, hstored, hexplains.justified huser hpermission hgranted hmatched⟩

theorem decisions_exact_of_inherited_role :
    let edge : Relationship := ⟨.ofText "clerk" rfl, .ofText "boss" rfl⟩
    let grant : Permission :=
      ⟨"ledger", "read", none, false, [], [some " Boss ", some " "], none, none, none⟩
    let session : Session := ⟨"ann", [none, some "Clerk "], [], some " NULL", none⟩
    let store := ((Store.addPermission grant).run ((Store.add .role edge none).run
      (Store.empty "null")).state).state
    let engine : Engine Store Unit := ⟨Store.directory, none, true⟩
    let world : World Store Unit := .start "null" store ()
    let context := some " NULL"
    let request := { grant.request with context }
    engine.Reached "null" world ∧
      exists (decision : Decision) (stored : Permission),
        ((engine.checkPermission session { grant with roles := [] }).run world).result =
          .ok decision ∧
        decision.granted = true ∧ decision.matched = ["BOSS"] ∧
        Justified decision
          (engine.Served (engine.afterReading request world) (.ofRoles stored.admin) context)
          session (stored.withContext context) := by
  intro edge grant session store engine world context request
  have hreached : engine.Reached "null" world := .start store ()
  have hanswer : (((engine.checkPermission session { grant with roles := [] }).run
      world).result.toOption).any
        (fun decision => decision.granted && decision.matched == ["BOSS"]) = true := by
    decide +kernel
  rcases hresult : ((engine.checkPermission session { grant with roles := [] }).run
    world).result with fault | decision
  · rw [hresult] at hanswer
    cases hanswer
  · rw [hresult] at hanswer
    rcases Bool.and_eq_true_iff.mp hanswer with ⟨hgranted, hmatched⟩
    rcases (decisions_exact hreached session { grant with roles := [] }).2.2 decision hresult with
      ⟨stored, _, hjustified⟩
    exact ⟨hreached, decision, stored, rfl, hgranted, eq_of_beq hmatched, hjustified⟩

end Engine
end Entitlement
