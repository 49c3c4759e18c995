import Entitlement.Proofs.Graph.Guard

/-!
# The first failing step

A build goes through its rows parent by parent.  Every parent is one step, which inserts an edge
between two texts; a row that cannot be read is a single step, which fails.  A row without parents
takes no step at all, so that nothing is asked of its name.  The first step that fails ends the
build, and what it fails for depends on the edges before it only.
-/

namespace Entitlement

inductive RowStep where
  | edge (child parent : Option String)
  | broken (fault : Fault)

def Row.steps : Row -> List RowStep
  | .pair name parents => (parents.getD []).map (.edge name)
  | .ofEntity entity => entity.parents.map fun parent => .edge entity.name (some parent.text)
  | .short count => [.broken (.rowTooShort count)]
  | .long => [.broken .rowTooLong]
  | .shapeless => [.broken .rowWithoutName]
  | .faulty fault => [.broken fault]

namespace RowStep

variable {step : RowStep} {edge : Relationship} {cause : Fault}

def perform : RowStep -> Action Graph Unit
  | .edge child parent => do
      let _ ← Graph.addEdgeBetween child parent
  | .broken fault => Action.fail fault

inductive Gives : RowStep -> Relationship -> Prop where
  | edge {child parent : Option String} {lower upper : Name} :
      Name.parse child = .ok lower -> Name.parse parent = .ok upper ->
      Gives (.edge child parent) ⟨lower, upper⟩

/-- The step gives no edge.  Its child is read before its parent. -/
inductive Breaks : RowStep -> Fault -> Prop where
  | broken {fault : Fault} : Breaks (.broken fault) fault
  | child {child parent : Option String} {defect : Name.Defect} :
      Name.parse child = .error defect -> Breaks (.edge child parent) (.invalidName defect)
  | parent {child parent : Option String} {lower : Name} {defect : Name.Defect} :
      Name.parse child = .ok lower -> Name.parse parent = .error defect ->
      Breaks (.edge child parent) (.invalidName defect)

inductive Stops (edges : List Relationship) (step : RowStep) (cause : Fault) : Prop where
  | breaks : step.Breaks cause -> Stops edges step cause
  | selfReference {edge : Relationship} : step.Gives edge -> edge.child = edge.parent ->
      cause.family = .cycle -> cause.kind? = some .selfReference -> Stops edges step cause
  | closing {edge : Relationship} : step.Gives edge -> edge.child ≠ edge.parent ->
      Cyclic (edge :: edges) ->
      cause.family = .cycle -> cause.kind? = some .cycle -> Stops edges step cause

theorem gives_or_breaks (step : RowStep) :
    (exists edge, step.Gives edge) ∨ exists cause, step.Breaks cause := by
  cases step with
  | broken fault => exact Or.inr ⟨fault, .broken⟩
  | edge child parent =>
      cases hchild : Name.parse child with
      | error defect => exact Or.inr ⟨.invalidName defect, .child hchild⟩
      | ok lower =>
          cases hparent : Name.parse parent with
          | error defect => exact Or.inr ⟨.invalidName defect, .parent hchild hparent⟩
          | ok upper => exact Or.inl ⟨⟨lower, upper⟩, .edge hchild hparent⟩

theorem Gives.effect (h : step.Gives edge) (graph : Graph) :
    step.perform.effect graph =
      (((Graph.addEdge edge).effect graph).1.map fun _ => (),
        ((Graph.addEdge edge).effect graph).2) := by
  cases h with
  | edge hchild hparent =>
      have hedge := Relationship.parse_of_names hchild hparent
      unfold perform
      rw [Action.effect_discard, Graph.effect_addEdgeBetween_of_parse hedge]

theorem Breaks.effect (h : step.Breaks cause) (graph : Graph) :
    step.perform.effect graph = (.error cause, graph) := by
  have hedge : forall {child parent : Option String},
      Relationship.parse child parent = .error cause ->
        (RowStep.edge child parent).perform.effect graph = (.error cause, graph) := by
    intro child parent hfault
    unfold perform
    rw [Action.effect_discard, Graph.effect_addEdgeBetween_of_error hfault]
    rfl
  cases h with
  | broken => rfl
  | child hchild =>
      apply hedge
      unfold Relationship.parse
      rw [hchild]
      rfl
  | parent hchild hparent =>
      apply hedge
      unfold Relationship.parse
      rw [hchild, hparent]
      rfl

end RowStep

namespace Graph

variable {graph built : Graph} {edges : List Relationship}

/-!
# Rows as steps
-/

theorem effect_addRow (row : Row) (graph : Graph) :
    (addRow row).effect graph = (Action.forEach row.steps RowStep.perform).effect graph := by
  cases row with
  | pair name parents =>
      rw [Row.steps, Action.forEach_map]
      rfl
  | ofEntity entity =>
      unfold addRow Row.content
      rw [Row.steps, Action.forEach_map, Action.effect_bind, Action.effect_ofResult]
      show (Action.forEach (entity.parents.map fun parent => some parent.text) _).effect graph = _
      rw [Action.forEach_map]
      rfl
  | short count => rfl
  | long => rfl
  | shapeless => rfl
  | faulty fault => rfl

theorem effect_addRows (rows : List Row) (graph : Graph) :
    (addRows rows).effect graph =
      (Action.forEach (rows.flatMap Row.steps) RowStep.perform).effect graph := by
  unfold addRows
  induction rows generalizing graph with
  | nil => rfl
  | cons row rest ih =>
      rw [List.flatMap_cons, Action.effect_forEach_append, Action.effect_forEach_cons,
        effect_addRow]
      rcases (Action.forEach row.steps RowStep.perform).effect graph with ⟨result, state⟩
      cases result with
      | error fault => rfl
      | ok _ => exact ih state

/-!
# Step by step
-/

/-- What some steps come to after edges have been inserted: the graph of all edges, or a failure. -/
inductive Decided : List Relationship -> List RowStep -> Except Fault Graph -> Prop where
  | complete {edges : List Relationship} {graph : Graph} :
      graph.Sound -> graph.Lists edges -> Decided edges [] (.ok graph)
  | passed {edges : List Relationship} {step : RowStep} {rest : List RowStep} {edge : Relationship}
      {result : Except Fault Graph} :
      step.Gives edge -> ¬ Cyclic (edge :: edges) -> Decided (edges ++ [edge]) rest result ->
      Decided edges (step :: rest) result
  | stopped {edges : List Relationship} {step : RowStep} {rest : List RowStep} {cause : Fault} :
      step.Stops edges cause -> Decided edges (step :: rest) (.error cause)

def BuiltFrom (edges : List Relationship) (graph : Graph) : Prop :=
  (addEdges edges).effect empty = (.ok (), graph)

theorem BuiltFrom.settled (h : BuiltFrom edges graph) :
    ¬ Cyclic edges ∧ graph.Sound ∧ graph.Lists edges := by
  have hsettles := settles_edited edges
  unfold edited at hsettles
  rw [h] at hsettles
  cases hsettles with
  | built hedges hsound hlists =>
      exact ⟨not_exists.mpr (hierarchical_iff.mp hedges), hsound, hlists⟩

theorem Lists.cyclic_cons_iff (h : graph.Lists edges) {edge : Relationship} :
    Cyclic (edge :: graph.edges) ↔ Cyclic (edge :: edges) := by
  unfold Cyclic
  simp only [List.mem_cons, h.mem_edges_iff]

theorem BuiltFrom.perform (h : BuiltFrom edges graph) {step : RowStep} {edge : Relationship}
    (hgives : step.Gives edge) :
    (exists changed, step.perform.effect graph = (.ok (), changed) ∧
        BuiltFrom (edges ++ [edge]) changed) ∨
      exists cause, step.perform.effect graph = (.error cause, graph) ∧
        step.Stops edges cause := by
  rcases h.settled with ⟨_, hsound, hlists⟩
  have hguarded := hsound.guarded_addEdge edge
  rw [hgives.effect]
  rcases heffect : (addEdge edge).effect graph with ⟨answer, changed⟩
  rw [heffect] at hguarded
  cases answer with
  | ok isNew =>
      refine Or.inl ⟨changed, rfl, ?_⟩
      unfold BuiltFrom
      rw [effect_addEdges_append, h]
      show (addEdges [edge]).effect graph = _
      rw [effect_addEdges_singleton, heffect]
      rfl
  | error cause =>
      have hsame : changed = graph := hguarded.unchanged (by simp)
      refine Or.inr ⟨cause, by rw [hsame]; rfl, ?_⟩
      by_cases hself : edge.child = edge.parent
      · rcases hguarded.self_iff.mpr hself with ⟨fault, hfault, hfamily, hkind⟩
        cases hfault
        exact RowStep.Stops.selfReference hgives hself hfamily hkind
      · have hknown : edge ∉ graph.edges := fun hedge => by
          have hanswer := hguarded.known_iff.mpr hedge
          cases hanswer
        have hcyclic : Cyclic (edge :: graph.edges) := by
          by_contra hopen
          have hanswer := hguarded.new_iff.mpr ⟨hself, hknown, hopen⟩
          cases hanswer
        rcases hguarded.cycle_iff.mpr ⟨hself, hcyclic⟩ with ⟨fault, hfault, hfamily, hkind⟩
        cases hfault
        rw [hlists.cyclic_cons_iff] at hcyclic
        exact RowStep.Stops.closing hgives hself hcyclic hfamily hkind

theorem BuiltFrom.not_cyclic_cons {edge : Relationship} (h : BuiltFrom (edges ++ [edge]) graph) :
    ¬ Cyclic (edge :: edges) := by
  have hopen := h.settled.1
  unfold Cyclic at hopen ⊢
  simp only [List.mem_append, List.mem_singleton, or_comm] at hopen
  simp only [List.mem_cons]
  exact hopen

/-- Steps go on from the graph of the edges before them, up to the first one that fails. -/
theorem BuiltFrom.decided (h : BuiltFrom edges graph) (steps : List RowStep) :
    Decided edges steps (graph.edited (Action.forEach steps RowStep.perform)) := by
  -- Every step that does not fail adds its edge to those before.
  induction steps generalizing edges graph with
  | nil =>
      rcases h.settled with ⟨_, hsound, hlists⟩
      exact Decided.complete hsound hlists
  | cons step rest ih =>
      unfold edited
      rw [Action.effect_forEach_cons]
      rcases step.gives_or_breaks with ⟨edge, hgives⟩ | ⟨cause, hbreaks⟩
      · rcases h.perform hgives with ⟨changed, hstep, hbuilt⟩ | ⟨cause, hfail, hstops⟩
        · rw [hstep]
          exact Decided.passed hgives hbuilt.not_cyclic_cons (ih hbuilt)
        · rw [hfail]
          exact Decided.stopped hstops
      · rw [hbreaks.effect]
        exact Decided.stopped (.breaks hbreaks)

theorem decided_edited (rows : List Row) :
    Decided [] (rows.flatMap Row.steps) (empty.edited (addRows rows)) := by
  have hempty : BuiltFrom [] empty := rfl
  unfold edited
  rw [effect_addRows]
  exact hempty.decided (rows.flatMap Row.steps)

end Graph

end Entitlement
