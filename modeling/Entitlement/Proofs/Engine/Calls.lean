import Entitlement.Engine.Authorize
import Entitlement.Proofs.Hierarchies.Sound

/-!
# Calls on an engine

What a program can ask of an engine.  Only an update announces a change; every other call that
leaves the engine open at most drops graphs and builds them from what the directory lists.
-/

namespace Entitlement

inductive Question where
  | isParent (child parent context : Option String)
  | ascendants (text context : Option String)
  | descendants (text context : Option String)
  | parents (text context : Option String)
  | children (text context : Option String)
  | childCount (text context : Option String)
  | inherited (roles : List (Option String)) (context : Option String)
  | check (child parent : Entity) (mustExist : Bool)
  | validate (child parent : Entity) (mustExist : Bool)

inductive Answer where
  | truth (holds : Bool)
  | names (names : List Name)
  | count (count : Nat)
  | violation (violation : Option Violation)
  | valid

/-- The question is about a proposed relationship, which may be turned down. -/
def Question.proposes : Question -> Bool
  | .check _ _ _ | .validate _ _ _ => true
  | _ => false

def Question.ask {σ : Type} (directory : Directory σ) (kind : HierarchyKind) :
    Question -> Action (Hierarchies σ) Answer
  | .isParent child parent context => do
      return .truth (← Hierarchies.isParent directory kind child parent context)
  | .ascendants text context => do
      return .names (← Hierarchies.ask directory kind context (·.ascendants text))
  | .descendants text context => do
      return .names (← Hierarchies.ask directory kind context (·.descendants text))
  | .parents text context => do
      return .names (← Hierarchies.ask directory kind context (·.parents text))
  | .children text context => do
      return .names (← Hierarchies.ask directory kind context (·.children text))
  | .childCount text context => do
      return .count (← Hierarchies.ask directory kind context (·.childCount text))
  | .inherited roles context => do
      return .names (← Hierarchies.inherited directory kind roles context)
  | .check child parent mustExist => do
      return .violation (← Hierarchies.check directory kind child parent mustExist)
  | .validate child parent mustExist => do
      Hierarchies.validate directory kind child parent mustExist
      return .valid

namespace Engine

/-- A call that announces no change and leaves the engine open. -/
inductive Call where
  | ask (kind : HierarchyKind) (question : Question)
  | refresh (kind : HierarchyKind) (context : Option String)
  | isAuthorized (session : Session) (permission : Permission)
  | checkPermission (session : Session) (permission : Permission)
  | warmUp (contexts : List (Option String))
  | clear

variable {σ τ : Type}

def Call.perform (engine : Engine σ τ) : Call -> Action (World σ τ) Unit
  | .ask kind question => do
      let _ ← World.onHierarchies (question.ask engine.directory kind)
  | .refresh kind context => do
      let _ ← World.onHierarchies (Hierarchies.invalidate kind context)
  | .isAuthorized session permission => do
      let _ ← engine.isAuthorized session permission
  | .checkPermission session permission => do
      let _ ← engine.checkPermission session permission
  | .warmUp contexts => engine.warmUp contexts
  | .clear => World.onHierarchies Hierarchies.clear

def update (engine : Engine σ τ) (kind : HierarchyKind) (context : Option String)
    (edge : Relationship) (label : Option String) : Action (World σ τ) Bool :=
  World.onHierarchies (Hierarchies.update engine.directory kind context edge label)

end Engine

/-!
# Questions move the live hierarchies
-/

variable {σ τ : Type} {directory : Directory σ} {same : σ -> σ -> Prop} [IsPreorder σ same]

namespace Hierarchies

theorem moves_ask (hlist : forall kind context, (directory.list kind context).Moves same) {α : Type}
    (kind : HierarchyKind) (context : Option String) (query : Graph -> α) :
    (ask directory kind context query).Moves (Refreshes directory same) :=
  (moves_graph hlist kind context).map _

theorem moves_inherited (hlist : forall kind context, (directory.list kind context).Moves same)
    (kind : HierarchyKind) (roles : List (Option String)) (context : Option String) :
    (inherited directory kind roles context).Moves (Refreshes directory same) := by
  unfold inherited
  dsimp only
  split
  · exact Action.moves_pure _
  · exact moves_ask hlist kind context _

theorem moves_question (hlist : forall kind context, (directory.list kind context).Moves same)
    (kind : HierarchyKind) (question : Question) :
    (question.ask directory kind).Moves (Refreshes directory same) := by
  cases question with
  | isParent child parent context =>
      apply Action.Moves.map
      unfold isParent
      split
      · exact Action.moves_pure _
      · exact moves_ask hlist kind context _
  | ascendants text context =>
      exact (moves_ask hlist kind context _).map _
  | descendants text context =>
      exact (moves_ask hlist kind context _).map _
  | parents text context =>
      exact (moves_ask hlist kind context _).map _
  | children text context =>
      exact (moves_ask hlist kind context _).map _
  | childCount text context =>
      exact (moves_ask hlist kind context _).map _
  | inherited roles context =>
      exact (moves_inherited hlist kind roles context).map _
  | check child parent mustExist =>
      apply Action.Moves.map
      exact (moves_graph hlist kind child.context).bind fun _ => Action.moves_ofResult _
  | validate child parent mustExist =>
      apply Action.Moves.map
      exact (moves_graph hlist kind child.context).bind fun _ => Action.moves_ofResult _

omit [IsPreorder σ same] in
theorem moves_onDirectory {α : Type} {x : Action σ α} (hx : x.Moves same) :
    (onDirectory x).Moves (Refreshes directory same) :=
  hx.within fun _ _ hsame => ⟨hsame, rfl, rfl, fun _ _ hgraph => Or.inl hgraph⟩

end Hierarchies

/-!
# Calls move the world of the engine
-/

namespace World

def Refreshes (directory : Directory σ) (same : σ -> σ -> Prop) (before after : World σ τ) : Prop :=
  Hierarchies.Refreshes directory same before.hierarchies after.hierarchies

instance : IsPreorder (World σ τ) (Refreshes directory same) where
  refl := fun world => refl_of (Hierarchies.Refreshes directory same) world.hierarchies
  trans := fun _ _ _ hfirst hsecond =>
    trans_of (Hierarchies.Refreshes directory same) hfirst hsecond

omit [IsPreorder σ same] in
theorem moves_onHierarchies {α : Type} {x : Action (Hierarchies σ) α}
    (hx : x.Moves (Hierarchies.Refreshes directory same)) :
    (onHierarchies x : Action (World σ τ) α).Moves (Refreshes directory same) :=
  hx.within fun _ _ hmoved => hmoved

theorem moves_onTrail {α : Type} (x : Action τ α) :
    (onTrail x : Action (World σ τ) α).Moves (Refreshes directory same) :=
  fun world => refl_of (Hierarchies.Refreshes directory same) world.hierarchies

end World

namespace Engine

variable {engine : Engine σ τ}
  (hlist : forall kind context, (engine.directory.list kind context).Moves same)

include hlist

theorem moves_decide (session : Session) (permission : Permission) :
    (engine.decide session permission).Moves (World.Refreshes engine.directory same) := by
  unfold Engine.decide
  split
  · exact Action.moves_pure _
  · split
    · exact Action.moves_pure _
    · apply Action.Moves.map
      exact World.moves_onHierarchies (Hierarchies.moves_inherited hlist _ _ _)

theorem moves_warmUp (contexts : List (Option String)) :
    (engine.warmUp contexts).Moves (World.Refreshes engine.directory same) := by
  refine Action.moves_forEach fun context => ?_
  refine (World.moves_onHierarchies (Hierarchies.moves_graph hlist _ _)).bind fun _ => ?_
  refine (World.moves_onHierarchies (Hierarchies.moves_graph hlist _ _)).bind fun _ => ?_
  exact Action.moves_report _ _ _

omit hlist in
theorem moves_readStored
    (hread : forall request, (engine.directory.readPermission request).Moves same)
    (request : PermissionRequest) :
    (engine.readStored request).Moves (World.Refreshes engine.directory same) := by
  have hasked : (World.onDirectory (engine.directory.readPermission request) :
      Action (World σ τ) (Option Permission)).Moves (World.Refreshes engine.directory same) :=
    World.moves_onHierarchies (Hierarchies.moves_onDirectory (hread request))
  refine hasked.attempt.bind fun answer => ?_
  split
  · exact Action.moves_fail _
  · exact Action.moves_fail _
  · exact Action.moves_pure _

omit hlist in
theorem moves_audit (event : AuditEvent) :
    (engine.audit event).Moves (World.Refreshes engine.directory same) := by
  unfold audit
  split
  · refine (World.moves_onTrail _).attempt.bind fun answer => ?_
    split
    · exact Action.moves_pure _
    · exact (Action.moves_report _ _ _).map _
  · exact Action.moves_pure _

theorem moves_checkPermission
    (hread : forall request, (engine.directory.readPermission request).Moves same)
    (session : Session) (permission : Permission) :
    (engine.checkPermission session permission).Moves (World.Refreshes engine.directory same) := by
  refine (moves_readStored hread _).bind fun stored => ?_
  refine (moves_decide hlist session _).bind fun verdict => ?_
  refine (moves_audit _).bind fun auditFault => ?_
  exact (Action.moves_report _ _ _).map _

theorem Call.moves_perform
    (hread : forall request, (engine.directory.readPermission request).Moves same) (call : Call) :
    (call.perform engine).Moves (World.Refreshes engine.directory same) := by
  cases call with
  | ask kind question =>
      exact (World.moves_onHierarchies (Hierarchies.moves_question hlist kind question)).map _
  | refresh kind context =>
      exact (World.moves_onHierarchies (Hierarchies.moves_invalidate kind context)).map _
  | isAuthorized session permission =>
      apply Action.Moves.map
      exact (moves_decide hlist session permission).map _
  | checkPermission session permission =>
      apply Action.Moves.map
      exact moves_checkPermission hlist hread session permission
  | warmUp contexts => exact moves_warmUp hlist contexts
  | clear => exact World.moves_onHierarchies Hierarchies.moves_clear

/-!
# Engine states
-/

/-- The worlds that an engine gets into, whatever happens to the directory and the audit sink. -/
inductive Reached (engine : Engine σ τ) (sentinel : String) : World σ τ -> Prop where
  | start (directory : σ) (trail : τ) : Reached engine sentinel (.start sentinel directory trail)
  | call {world : World σ τ} (call : Call) : Reached engine sentinel world ->
      Reached engine sentinel ((call.perform engine).run world).state
  | update {world : World σ τ} (kind : HierarchyKind) (context : Option String)
      (edge : Relationship) (label : Option String) : Reached engine sentinel world ->
      Reached engine sentinel ((engine.update kind context edge label).run world).state
  | close {world : World σ τ} : Reached engine sentinel world ->
      Reached engine sentinel (Engine.close.run world).state
  | outside {world : World σ τ} (directory : σ) (trail : τ) : Reached engine sentinel world ->
      Reached engine sentinel ⟨{ world.hierarchies with directory }, trail⟩

omit [IsPreorder σ same] hlist in
theorem sound_of_reached {sentinel : String} {world : World σ τ}
    (h : Reached engine sentinel world) : world.hierarchies.Sound := by
  induction h with
  | start directory trail => exact Hierarchies.sound_of_graph?_eq_none fun _ => rfl
  | @call world call _ ih =>
      have hmoved : World.Refreshes engine.directory Hierarchies.Unrelated world _ :=
        call.moves_perform (fun _ _ _ => trivial) (fun _ _ => trivial) world
      exact Hierarchies.Refreshes.keepsSound hmoved ih
  | @update world kind context edge label _ ih =>
      exact Hierarchies.moves_update engine.directory kind context edge label world.hierarchies ih
  | @close world _ ih => exact Hierarchies.moves_close world.hierarchies ih
  | outside directory trail _ ih => exact ih

end Engine
end Entitlement
