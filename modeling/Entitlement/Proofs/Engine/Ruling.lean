import Entitlement.Proofs.Engine.Silence
import Entitlement.Proofs.Hierarchies.View

/-!
# What a decision rests on

A decision is a ruling on the graph that is in view of the hierarchy in which roles are expanded, or
it needs no graph at all.  Rulings depend on the edges of a graph only.  So a decision that has been
made is made again as long as a graph with the same edges stays in view.
-/

namespace Entitlement

/--
An action answers this in a state: it has just been carried out and has left this state behind, or
it would answer this if it were carried out, and what it would answer lasts.
-/
inductive Action.Answers {σ α : Type} (x : Action σ α) (answer : α) (lasts : Prop) (state : σ) :
    Prop where
  | given {before : σ} : x.effect before = (.ok answer, state) -> Answers x answer lasts state
  | due : (x.effect state).1 = .ok answer -> lasts -> Answers x answer lasts state

theorem Action.Answers.of_map {σ α β : Type} {x : Action σ α} {f : α -> β} {b : β} {lasts : Prop}
    {state : σ} (h : Answers (do return f (← x) : Action σ β) b lasts state) :
    exists a, f a = b ∧ x.Answers a lasts state := by
  cases h with
  | @given before hmap =>
      rcases Action.effect_bind_eq_ok hmap with ⟨a, middle, hx, hanswer⟩
      cases hanswer
      exact ⟨a, rfl, .given hx⟩
  | due hmap hlasts =>
      rw [Action.effect_map] at hmap
      cases hx : (x.effect state).1 with
      | error fault =>
          rw [hx] at hmap
          cases hmap
      | ok a =>
          rw [hx] at hmap
          cases hmap
          exact ⟨a, rfl, .due hx hlasts⟩

namespace Hierarchies

theorem stands_of_answers {σ : Type} (touched : HierarchyKey) {h : Hierarchies σ}
    {directory : Directory σ} {kind : HierarchyKind} {context : Option String} {graph : Graph}
    (hanswers : (Hierarchies.graph directory kind context).Answers graph
      (Lasting directory touched (h.cache.key kind context)) h) :
    Stands directory h touched (h.cache.key kind context) graph := by
  cases hanswers with
  | given hgraph => exact stands_of_graph hgraph touched
  | due hgraph hlasting =>
      rw [result_graph] at hgraph
      exact ⟨hgraph, Or.inr hlasting⟩

theorem expanded_of_sameAnswers {first second : Graph} (hsame : first.SameAnswers second)
    (roles : List (Option String)) : expanded second roles = expanded first roles := by
  apply Roster.ofList_eq_of_mem_iff
  intro name
  rw [List.mem_flatMap, List.mem_flatMap]
  refine exists_congr fun held => and_congr_right fun _ => ?_
  rw [List.mem_cons, List.mem_cons, hsame.ascendants_iff]

end Hierarchies

namespace Engine

section Rulings

variable {session : Session} {permission : Permission}

/-!
# Rulings on a graph
-/

/-- The verdict on a request, given the graph for it or the fault instead of the graph. -/
def ruling (session : Session) (permission : Permission) (answer : Except Fault Graph) :
    Except Fault Verdict :=
  if permission.users.contains (some session.user) then .ok .direct
  else if permission.roles.isEmpty then .ok .ungranted
  else if (Hierarchies.givenNames (session.activated permission.admin)).isEmpty then
    .ok (verdictOf [] permission)
  else
    answer.map fun graph =>
      verdictOf (Hierarchies.expanded graph (session.activated permission.admin)) permission

/-- A direct grant, a denial that no graph can change, or a ruling that is read off the graph. -/
theorem ruling_cases (session : Session) (permission : Permission) :
    (some session.user ∈ permission.users ∧
        forall answer, ruling session permission answer = .ok .direct) ∨
      (some session.user ∉ permission.users ∧
        exists verdict, (forall answer, ruling session permission answer = .ok verdict) ∧
          verdict.granted = false ∧ forall edges, Explains verdict edges session permission) ∨
      (some session.user ∉ permission.users ∧
        forall answer, ruling session permission answer =
          answer.map fun graph =>
            verdictOf (Hierarchies.expanded graph (session.activated permission.admin))
              permission) := by
  unfold ruling
  split
  · rename_i hdirect
    exact Or.inl ⟨List.contains_iff_mem.mp hdirect, fun _ => rfl⟩
  · rename_i hother
    have hdirect : some session.user ∉ permission.users :=
      fun h => hother (List.contains_iff_mem.mpr h)
    right
    split
    · rename_i hroles
      exact Or.inl ⟨hdirect, .ungranted, fun _ => rfl, rfl,
        fun _ => explains_ungranted hdirect (List.isEmpty_iff.mp hroles)⟩
    · split
      · rename_i hnone
        refine Or.inl ⟨hdirect, verdictOf [] permission, fun _ => rfl, rfl, fun edges => ?_⟩
        apply explains_verdictOf hdirect
        intro role
        rw [List.isEmpty_iff.mp hnone]
        simp
      · exact Or.inr ⟨hdirect, fun _ => rfl⟩

/-- A ruling is the same whatever the answer is, or it fails just if the answer is a fault. -/
theorem ruling_fixed_or_read (session : Session) (permission : Permission) :
    (exists verdict, forall answer, ruling session permission answer = .ok verdict) ∨
      exists verdict : Graph -> Verdict,
        forall answer, ruling session permission answer = answer.map verdict := by
  rcases ruling_cases session permission with
    ⟨_, hruling⟩ | ⟨_, verdict, hruling, _, _⟩ | ⟨_, hruling⟩
  · exact Or.inl ⟨.direct, hruling⟩
  · exact Or.inl ⟨verdict, hruling⟩
  · exact Or.inr ⟨_, hruling⟩

theorem ruling_ok (session : Session) (permission : Permission) (graph : Graph) :
    exists verdict, ruling session permission (.ok graph) = .ok verdict := by
  rcases ruling_fixed_or_read session permission with ⟨verdict, hruling⟩ | ⟨verdict, hruling⟩
  · exact ⟨verdict, hruling _⟩
  · exact ⟨verdict graph, hruling _⟩

theorem ruling_of_direct (hdirect : some session.user ∈ permission.users)
    (answer : Except Fault Graph) : ruling session permission answer = .ok .direct := by
  rcases ruling_cases session permission with ⟨_, hruling⟩ | ⟨hother, _⟩ | ⟨hother, _⟩
  · exact hruling answer
  · exact absurd hdirect hother
  · exact absurd hdirect hother

theorem direct_of_ruling_error {fault : Fault} {verdict : Verdict}
    (hverdict : ruling session permission (.error fault) = .ok verdict)
    (hgranted : verdict.granted = true) : some session.user ∈ permission.users := by
  rcases ruling_cases session permission with
    ⟨hdirect, _⟩ | ⟨_, denial, hruling, hdenied, _⟩ | ⟨_, hruling⟩
  · exact hdirect
  · rw [hruling] at hverdict
    cases hverdict
    rw [hdenied] at hgranted
    cases hgranted
  · rw [hruling] at hverdict
    cases hverdict

theorem explains_ruling {graph : Graph} (hsound : graph.Sound) {verdict : Verdict}
    (hverdict : ruling session permission (.ok graph) = .ok verdict) :
    Explains verdict graph.Edge session permission := by
  rcases ruling_cases session permission with
    ⟨hdirect, hruling⟩ | ⟨_, denial, hruling, _, hexplains⟩ | ⟨hdirect, hruling⟩
  · rw [hruling] at hverdict
    cases hverdict
    exact explains_direct hdirect
  · rw [hruling] at hverdict
    cases hverdict
    exact hexplains graph.Edge
  · rw [hruling] at hverdict
    cases hverdict
    apply explains_verdictOf hdirect
    intro role
    exact Hierarchies.mem_expanded_iff hsound

theorem ruling_of_sameAnswers {first second : Graph} (hsame : first.SameAnswers second)
    (session : Session) (permission : Permission) :
    ruling session permission (.ok second) = ruling session permission (.ok first) := by
  rcases ruling_cases session permission with
    ⟨_, hruling⟩ | ⟨_, verdict, hruling, _, _⟩ | ⟨_, hruling⟩
  · rw [hruling, hruling]
  · rw [hruling, hruling]
  · rw [hruling, hruling, Except.map, Except.map, Hierarchies.expanded_of_sameAnswers hsame]

end Rulings

/-!
# What a decision rests on
-/

variable {σ τ : Type} {engine : Engine σ τ} {world next : World σ τ} {touched : HierarchyKey}
  {session : Session} {permission : Permission}

def roleKey (world : World σ τ) (session : Session) (permission : Permission) : HierarchyKey :=
  world.hierarchies.cache.key (.ofRoles permission.admin) (contextFor session permission)

/-- A decision is a ruling on the graph in view, and asks for it only if it depends on it. -/
theorem decide_rests (engine : Engine σ τ) (session : Session) (permission : Permission)
    (world : World σ τ) :
    (exists verdict, (forall answer, ruling session permission answer = .ok verdict) ∧
        (engine.decide session permission).effect world = (.ok verdict, world)) ∨
      exists verdict : Graph -> Verdict,
        (forall answer, ruling session permission answer = answer.map verdict) ∧
          (engine.decide session permission).effect world =
            let asked := (Hierarchies.graph engine.directory (.ofRoles permission.admin)
              (contextFor session permission)).effect world.hierarchies
            (asked.1.map verdict, { world with hierarchies := asked.2 }) := by
  rw [effect_decide, Hierarchies.effect_inherited]
  unfold ruling
  split
  · exact Or.inl ⟨_, fun _ => rfl, rfl⟩
  · split
    · exact Or.inl ⟨_, fun _ => rfl, rfl⟩
    · split
      · exact Or.inl ⟨_, fun _ => rfl, rfl⟩
      · refine Or.inr ⟨_, fun _ => rfl, ?_⟩
        dsimp only
        rcases (Hierarchies.graph engine.directory (.ofRoles permission.admin)
          (contextFor session permission)).effect world.hierarchies with ⟨result, state⟩
        cases result with
        | error fault => rfl
        | ok graph => rfl

theorem result_decide (engine : Engine σ τ) (session : Session) (permission : Permission)
    (world : World σ τ) :
    ((engine.decide session permission).effect world).1 =
      ruling session permission (Hierarchies.view engine.directory world.hierarchies
        (roleKey world session permission)) := by
  rcases decide_rests engine session permission world with
    ⟨verdict, hruling, hdecide⟩ | ⟨verdict, hruling, hdecide⟩
  · rw [hdecide, hruling]
  · rw [hdecide, hruling]
    dsimp only
    rw [Hierarchies.result_graph]
    rfl

/-- The verdict needs no graph, or it is the ruling on a graph that stands. -/
def Grounded (directory : Directory σ) (touched key : HierarchyKey) (h : Hierarchies σ)
    (session : Session) (permission : Permission) (verdict : Verdict) : Prop :=
  (forall answer, ruling session permission answer = .ok verdict) ∨
    exists graph, Hierarchies.Stands directory h touched key graph ∧
      ruling session permission (.ok graph) = .ok verdict

/-- A verdict that is answered rests on a graph that is loaded, or that lasts. -/
theorem grounded_of_answers (touched : HierarchyKey) {verdict : Verdict}
    (hanswers : (engine.decide session permission).Answers verdict
      (Hierarchies.Lasting engine.directory touched (roleKey world session permission)) world) :
    Grounded engine.directory touched (roleKey world session permission) world.hierarchies session
      permission verdict := by
  cases hanswers with
  | @given before hdecided =>
      rcases decide_rests engine session permission before with
        ⟨fixed, hruling, hdecide⟩ | ⟨read, hruling, hdecide⟩
      · rw [hdecide] at hdecided
        cases hdecided
        exact Or.inl hruling
      · rw [hdecide] at hdecided
        rcases hasked : (Hierarchies.graph engine.directory (.ofRoles permission.admin)
          (contextFor session permission)).effect before.hierarchies with ⟨result, state⟩
        rw [hasked] at hdecided
        cases result with
        | error fault => cases hdecided
        | ok graph =>
            cases hdecided
            exact Or.inr ⟨graph, Hierarchies.stands_of_graph hasked touched, hruling _⟩
  | due hverdict hlasting =>
      rw [result_decide] at hverdict
      rcases ruling_fixed_or_read session permission with ⟨fixed, hruling⟩ | ⟨read, hruling⟩
      · rw [hruling] at hverdict
        cases hverdict
        exact Or.inl hruling
      · cases hview : Hierarchies.view engine.directory world.hierarchies
            (roleKey world session permission) with
        | error fault =>
            rw [hview, hruling] at hverdict
            cases hverdict
        | ok graph =>
            rw [hview] at hverdict
            exact Or.inr ⟨graph, ⟨hview, Or.inr hlasting⟩, hverdict⟩

theorem Grounded.result_decide {verdict : Verdict}
    (hgrounded : Grounded engine.directory touched (roleKey world session permission)
      world.hierarchies session permission verdict)
    (hkey : roleKey next session permission = roleKey world session permission)
    (hview : forall graph,
      Hierarchies.Stands engine.directory world.hierarchies touched
          (roleKey world session permission) graph ->
        exists later,
          ruling session permission (.ok later) = ruling session permission (.ok graph) ∧
            Hierarchies.view engine.directory next.hierarchies
              (roleKey world session permission) = .ok later) :
    ((engine.decide session permission).effect next).1 = .ok verdict := by
  rw [Engine.result_decide, hkey]
  rcases hgrounded with hruling | ⟨graph, hstands, hverdict⟩
  · exact hruling _
  · rcases hview graph hstands with ⟨later, hsame, hlater⟩
    rw [hlater, hsame]
    exact hverdict

theorem result_of_answers {verdict : Verdict} {lasts : Prop}
    (hanswers : (engine.decide session permission).Answers verdict lasts world) :
    ((engine.decide session permission).effect world).1 = .ok verdict := by
  cases hanswers with
  | given hdecided =>
      have hgrounded := grounded_of_answers (roleKey world session permission) (.given hdecided)
      exact hgrounded.result_decide rfl fun graph hstands => ⟨graph, rfl, hstands.view_eq⟩
  | due hverdict _ => exact hverdict

theorem granted_of_answers {allowed : Bool} {lasts : Prop}
    (hanswers : (engine.isAuthorized session permission).Answers allowed lasts world) :
    exists verdict, verdict.granted = allowed ∧
      (engine.decide session permission).Answers verdict lasts world :=
  hanswers.of_map

/-!
# Checks of stored permissions
-/

section Checks

variable {stored : Permission} {decision : Decision} {verdict : Verdict} {before : World σ τ}

theorem readStored_of_stored? {request : PermissionRequest}
    (hstored : engine.stored? request world = .ok (some stored)) :
    (engine.readStored request).effect world =
      (.ok stored, engine.afterReading request world) := by
  have hread : (World.onDirectory (engine.directory.readPermission request)).effect world =
      (.ok (some stored), engine.afterReading request world) := Prod.ext hstored rfl
  unfold readStored
  rw [Action.effect_bind, Action.effect_attempt, hread]
  rfl

theorem decided_of_check
    (hcheck : (engine.checkPermission session permission).effect before = (.ok decision, world)) :
    exists (stored : Permission) (verdict : Verdict) (decided : World σ τ),
      engine.stored? (requestFor session permission) before = .ok (some stored) ∧
      (engine.decide session (stored.withContext (contextFor session permission))).effect
        (engine.afterReading (requestFor session permission) before) = (.ok verdict, decided) ∧
      world.hierarchies = decided.hierarchies ∧
      settled decision = decisionOf session
        (stored.withContext (contextFor session permission)) verdict none := by
  rw [effect_rule_conclude] at hcheck
  rcases Action.effect_bind_eq_ok hcheck with ⟨ruled, decided, hrule, hconclude⟩
  rw [effect_conclude] at hconclude
  rcases Action.effect_bind_eq_ok hrule with ⟨stored, middle, hread, hrest⟩
  rcases Action.effect_bind_eq_ok hrest with ⟨verdict, state, hdecide, hanswer⟩
  rcases stored?_of_readStored hread with ⟨hstored, hmiddle⟩
  rw [hmiddle] at hdecide
  cases hanswer
  cases hconclude
  exact ⟨stored, verdict, state, hstored, hdecide, rfl, rfl⟩

theorem check_of_decided
    (hstored : engine.stored? (requestFor session permission) world = .ok (some stored))
    (hverdict : ((engine.decide session
      (stored.withContext (contextFor session permission))).effect
        (engine.afterReading (requestFor session permission) world)).1 = .ok verdict) :
    exists again, ((engine.checkPermission session permission).run world).result = .ok again ∧
      settled again = decisionOf session
        (stored.withContext (contextFor session permission)) verdict none := by
  have hrule : (engine.rule session permission).effect world =
      (.ok (stored.withContext (contextFor session permission), verdict),
        ((engine.decide session (stored.withContext (contextFor session permission))).effect
          (engine.afterReading (requestFor session permission) world)).2) := by
    unfold rule
    rw [Action.effect_bind_of_ok _ (readStored_of_stored? hstored), Action.effect_map, hverdict]
    rfl
  rw [Action.result_eq_effect, effect_rule_conclude, Action.effect_bind_of_ok _ hrule,
    effect_conclude]
  exact ⟨_, rfl, rfl⟩

theorem grounded_of_check
    (hanswers : (engine.checkPermission session permission).Answers decision
      engine.directory.ListsSteadily world) (touched : HierarchyKey) :
    exists verdict,
      Grounded engine.directory touched (roleKey world session decision.permission)
          world.hierarchies session decision.permission verdict ∧
        settled decision = decisionOf session decision.permission verdict none := by
  cases hanswers with
  | given hcheck =>
      rcases decided_of_check hcheck with ⟨stored, verdict, decided, _, hdecide, hsame, hsettled⟩
      have hpermission : decision.permission =
          stored.withContext (contextFor session permission) :=
        congrArg Decision.permission hsettled
      have hgrounded := grounded_of_answers touched (.given hdecide)
      unfold roleKey at hgrounded ⊢
      rw [← hpermission, ← hsame] at hgrounded
      rw [← hpermission] at hsettled
      exact ⟨verdict, hgrounded, hsettled⟩
  | due hcheck hsteady =>
      rcases decided_of_check (Prod.ext hcheck rfl) with
        ⟨stored, verdict, decided, _, hdecide, _, hsettled⟩
      have hpermission : decision.permission =
          stored.withContext (contextFor session permission) :=
        congrArg Decision.permission hsettled
      have hgrounded := grounded_of_answers touched
        (.due (congrArg Prod.fst hdecide) (Or.inl hsteady))
      rw [← hpermission] at hgrounded hsettled
      exists verdict
      constructor
      · rcases hgrounded with hruling | ⟨graph, hstands, hverdict⟩
        · exact Or.inl hruling
        · -- The permission has been read before the decision, which makes no difference to it.
          have hview := Hierarchies.view_read_of_steady hsteady (requestFor session permission)
            world.hierarchies (roleKey world session decision.permission)
          exact Or.inr ⟨graph, ⟨hview.symm.trans hstands.view_eq, Or.inr (Or.inl hsteady)⟩,
            hverdict⟩
      · exact hsettled

end Checks

end Engine
end Entitlement
