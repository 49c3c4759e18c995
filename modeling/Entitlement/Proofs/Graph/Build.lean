import Entitlement.Graph.Row
import Entitlement.Proofs.Action
import Entitlement.Proofs.Graph.Acyclic

/-!
# Edits and builds

Every edit, refused or not, leaves a sound graph sound.  Inserting a list of edges one by one
succeeds exactly if the edges close no cycle with the graph and with each other; the order in which
they come does not matter, because a partial graph has no more paths than the whole one.
-/

namespace Entitlement

def Change.leavesEdge : Change -> Bool
  | .add => true
  | .remove => false

theorem Change.parse_label (change : Change) : parse (some change.label) = .ok change := by
  cases change with
  | add => rfl
  | remove => rfl

theorem Relationship.eq_iff_ends {first second : Relationship} :
    first = second ↔ first.child = second.child ∧ first.parent = second.parent := by
  cases first
  cases second
  exact Iff.of_eq (mk.injEq _ _ _ _)

namespace Graph

def KeepsSound (before after : Graph) : Prop :=
  before.Sound -> after.Sound

instance : IsPreorder Graph KeepsSound where
  refl := fun _ h => h
  trans := fun _ _ _ hfirst hsecond h => hsecond (hfirst h)

/-!
# Effects of single edits
-/

theorem effect_addEdge (edge : Relationship) (graph : Graph) :
    (addEdge edge).effect graph =
      match graph.insertEdge edge with
      | .error fault => (.error fault, graph)
      | .ok (changed, isNew) => (.ok isNew, changed) := by
  unfold addEdge
  simp only [Action.effect_bind, Action.effect_read, Action.effect_ofResult]
  cases graph.insertEdge edge with
  | error fault => rfl
  | ok answer =>
      rcases answer with ⟨changed, isNew⟩
      cases isNew with
      | true => rfl
      | false => rfl

theorem effect_dropEdge (edge : Relationship) (graph : Graph) :
    (dropEdge edge).effect graph = (.ok (graph.removeEdge edge).2, (graph.removeEdge edge).1) := by
  unfold dropEdge
  simp only [Action.effect_bind, Action.effect_read]
  rcases graph.removeEdge edge with ⟨changed, wasThere⟩
  cases wasThere with
  | true => rfl
  | false => rfl

theorem moves_addVertex (text : Option String) : (addVertex text).Moves KeepsSound := by
  unfold addVertex
  refine (Action.moves_ofResult _).bind fun name => ?_
  apply Action.Moves.map
  intro graph h
  exact h.insertVertex name

theorem moves_addEdge (edge : Relationship) : (addEdge edge).Moves KeepsSound := by
  intro graph h
  rw [Action.state_eq_effect, effect_addEdge]
  cases hinsert : graph.insertEdge edge with
  | error fault => exact h
  | ok answer => exact (h.insertEdge hinsert).1

theorem moves_dropEdge (edge : Relationship) : (dropEdge edge).Moves KeepsSound := by
  intro graph h
  rw [Action.state_eq_effect, effect_dropEdge]
  exact h.removeEdge edge

theorem moves_addEdgeBetween (child parent : Option String) :
    (addEdgeBetween child parent).Moves KeepsSound :=
  (Action.moves_ofResult _).bind moves_addEdge

theorem moves_dropEdgeBetween (child parent : Option String) :
    (dropEdgeBetween child parent).Moves KeepsSound := by
  unfold dropEdgeBetween
  split
  · exact moves_dropEdge _
  · exact Action.moves_pure false

theorem moves_apply (edge : Relationship) (change : Change) :
    (apply edge change).Moves KeepsSound := by
  cases change with
  | add => exact moves_addEdge edge
  | remove => exact moves_dropEdge edge

theorem moves_addRow (row : Row) : (addRow row).Moves KeepsSound := by
  refine (Action.moves_ofResult _).bind fun content => ?_
  refine Action.moves_forEach fun parent => ?_
  exact (moves_addEdgeBetween _ _).map _

theorem moves_addRows (rows : List Row) : (addRows rows).Moves KeepsSound :=
  Action.moves_forEach moves_addRow

theorem moves_addEdges (edges : List Relationship) : (addEdges edges).Moves KeepsSound :=
  Action.moves_forEach fun edge => (moves_addEdge edge).map _

/-!
# Builds
-/

/-- The graph that an edit makes out of a graph, if it succeeds. -/
def edited {α : Type} (graph : Graph) (edit : Action Graph α) : Except Fault Graph :=
  (edit.effect graph).1.map fun _ => (edit.effect graph).2

theorem effect_onCopy {σ α : Type} (graph : Graph) (edit : Action Graph α) (s : σ) :
    (onCopy graph edit : Action σ (Graph × α)).effect s =
      ((edit.effect graph).1.map fun answer => ((edit.effect graph).2, answer), s) := rfl

theorem effect_copyOf {σ α : Type} (graph : Graph) (edit : Action Graph α) (s : σ) :
    (do return (← onCopy graph edit).1 : Action σ Graph).effect s = (graph.edited edit, s) := by
  rw [Action.effect_bind, effect_onCopy]
  unfold edited
  cases (edit.effect graph).1 with
  | error fault => rfl
  | ok answer => rfl

theorem effect_ofRows {σ : Type} (rows : List Row) (s : σ) :
    (ofRows rows : Action σ Graph).effect s = (empty.edited (addRows rows), s) :=
  effect_copyOf empty (addRows rows) s

theorem effect_ofEdges {σ : Type} (edges : List Relationship) (s : σ) :
    (ofEdges edges : Action σ Graph).effect s = (empty.edited (addEdges edges), s) :=
  effect_copyOf empty (addEdges edges) s

theorem sound_of_edited {α : Type} {graph built : Graph} {edit : Action Graph α}
    (hgraph : graph.Sound) (hedit : edit.Moves KeepsSound)
    (hbuilt : graph.edited edit = .ok built) : built.Sound := by
  have hkept := hedit graph hgraph
  unfold edited at hbuilt
  cases hresult : (edit.effect graph).1 with
  | error fault =>
      rw [hresult] at hbuilt
      cases hbuilt
  | ok answer =>
      rw [hresult] at hbuilt
      cases hbuilt
      exact hkept

/-!
# Builds from edges
-/

section Edges

variable {graph : Graph}

def EdgeOr (graph : Graph) (edges : List Relationship) (child parent : Name) : Prop :=
  ⟨child, parent⟩ ∈ edges ∨ graph.Edge child parent

/-- An edge is refused only if it closes a cycle. -/
theorem Sound.insertEdge_error (h : graph.Sound) {edge : Relationship} {fault : Fault}
    (hinsert : graph.insertEdge edge = .error fault) :
    fault.isCycle = true ∧ exists name, Relation.TransGen (graph.EdgeOr [edge]) name name := by
  have hnew : graph.EdgeOr [edge] edge.child edge.parent := Or.inl (List.mem_singleton.mpr rfl)
  rcases h.wellFormed.insertEdge_cases edge with
    ⟨hself, hresult⟩ | ⟨_, _, hresult⟩ | ⟨_, _, hpath, hresult⟩ | ⟨_, _, _, hresult⟩
  · rw [hresult] at hinsert
    cases hinsert
    rw [← hself] at hnew
    exact ⟨rfl, edge.child, Relation.TransGen.single hnew⟩
  · rw [hresult] at hinsert
    cases hinsert
  · rw [hresult] at hinsert
    cases hinsert
    have hback : Relation.TransGen (graph.EdgeOr [edge]) edge.parent edge.child :=
      Relation.TransGen.mono (fun _ _ => Or.inr) _ _ hpath
    exact ⟨rfl, edge.child, Relation.TransGen.head hnew hback⟩
  · rw [hresult] at hinsert
    cases hinsert

theorem Sound.addEdges_cases (h : graph.Sound) (edges : List Relationship) :
    (exists built, (addEdges edges).effect graph = (.ok (), built) ∧ built.Sound ∧
        forall child parent, built.Edge child parent ↔ graph.EdgeOr edges child parent) ∨
      exists fault built, (addEdges edges).effect graph = (.error fault, built) ∧
        fault.isCycle = true ∧ exists name, Relation.TransGen (graph.EdgeOr edges) name name := by
  -- The edges of the graph together with those still to come are the same in every round.
  induction edges generalizing graph with
  | nil =>
      refine Or.inl ⟨graph, rfl, h, fun child parent => ?_⟩
      exact ⟨Or.inr, fun hedge => hedge.elim (fun hmember => nomatch hmember) id⟩
  | cons edge rest ih =>
      unfold addEdges
      rw [Action.effect_forEach_cons, Action.effect_discard, effect_addEdge]
      cases hinsert : graph.insertEdge edge with
      | error fault =>
          rcases h.insertEdge_error hinsert with ⟨hcycle, name, hpath⟩
          refine Or.inr ⟨fault, graph, rfl, hcycle, name, ?_⟩
          refine Relation.TransGen.mono (fun child parent hedge => ?_) _ _ hpath
          rcases hedge with hmember | hold
          · exact Or.inl (List.mem_cons.mpr (Or.inl (List.mem_singleton.mp hmember)))
          · exact Or.inr hold
      | ok answer =>
          rcases answer with ⟨changed, isNew⟩
          rcases h.insertEdge hinsert with ⟨hsound, _, hedges⟩
          have hunion : forall child parent,
              changed.EdgeOr rest child parent ↔ graph.EdgeOr (edge :: rest) child parent := by
            intro child parent
            unfold EdgeOr
            rw [hedges, List.mem_cons, or_assoc, or_left_comm, Relationship.eq_iff_ends]
          rcases ih hsound with ⟨built, hbuilt, hbuiltSound, hbuiltEdges⟩ |
            ⟨fault, built, hfail, hcycle, name, hpath⟩
          · refine Or.inl ⟨built, hbuilt, hbuiltSound, fun child parent => ?_⟩
            rw [hbuiltEdges, hunion]
          · refine Or.inr ⟨fault, built, hfail, hcycle, name, ?_⟩
            exact Relation.TransGen.mono (fun child parent => (hunion child parent).mp) _ _ hpath

end Edges

/-!
# Changes of one edge
-/

structure Changes (before : Graph) (edge : Relationship) (change : Change) (changed : Bool)
    (after : Graph) : Prop where
  sound : after.Sound
  hasEdge_eq : forall other,
    after.hasEdge other = if other = edge then change.leavesEdge else before.hasEdge other
  changed_eq : changed = (before.hasEdge edge != change.leavesEdge)

theorem hasEdge_eq_of_edge_iff {before after : Graph} {edge other : Relationship} {present : Bool}
    (hsame : other = edge -> after.hasEdge other = present)
    (hother : other ≠ edge -> (after.hasEdge other = true ↔ before.hasEdge other = true)) :
    after.hasEdge other = if other = edge then present else before.hasEdge other := by
  by_cases h : other = edge
  · rw [if_pos h]
    exact hsame h
  · rw [if_neg h]
    exact Bool.eq_iff_iff.mpr (hother h)

theorem Sound.changes_insertEdge {before : Graph} (h : before.Sound) {edge : Relationship}
    {inserted : Graph} {isNew : Bool} (hinsert : before.insertEdge edge = .ok (inserted, isNew)) :
    Changes before edge .add isNew inserted := by
  rcases h.insertEdge hinsert with ⟨hsound, hnew, hedges⟩
  refine ⟨hsound, fun other => hasEdge_eq_of_edge_iff ?_ ?_, ?_⟩
  · intro hother
    rw [hother]
    exact (hedges edge.child edge.parent).mpr (Or.inl ⟨rfl, rfl⟩)
  · intro hother
    refine (hedges other.child other.parent).trans (or_iff_right ?_)
    exact fun hends => hother (Relationship.eq_iff_ends.mpr hends)
  · rw [hnew]
    exact (Bool.bne_true _).symm

theorem Sound.changes_removeEdge {before : Graph} (h : before.Sound) (edge : Relationship) :
    Changes before edge .remove (before.removeEdge edge).2 (before.removeEdge edge).1 := by
  rcases h.wellFormed.removeEdge edge with ⟨_, hwas, hedges⟩
  refine ⟨h.removeEdge edge, fun other => hasEdge_eq_of_edge_iff ?_ ?_, ?_⟩
  · intro hother
    rw [hother]
    refine Bool.eq_false_iff.mpr fun hedge => ?_
    exact ((hedges edge.child edge.parent).mp hedge).1 ⟨rfl, rfl⟩
  · intro hother
    refine (hedges other.child other.parent).trans (and_iff_right ?_)
    exact fun hends => hother (Relationship.eq_iff_ends.mpr hends)
  · rw [hwas]
    exact (Bool.bne_false _).symm

theorem Sound.changes {before after : Graph} (h : before.Sound) {edge : Relationship}
    {change : Change} {changed : Bool}
    (happly : (apply edge change).effect before = (.ok changed, after)) :
    Changes before edge change changed after := by
  cases change with
  | add =>
      have hinsert : (addEdge edge).effect before = (.ok changed, after) := happly
      rw [effect_addEdge] at hinsert
      cases hresult : before.insertEdge edge with
      | error fault =>
          rw [hresult] at hinsert
          cases hinsert
      | ok answer =>
          rw [hresult] at hinsert
          cases hinsert
          exact h.changes_insertEdge hresult
  | remove =>
      have hremove : (dropEdge edge).effect before = (.ok changed, after) := happly
      rw [effect_dropEdge] at hremove
      cases hremove
      exact h.changes_removeEdge edge

theorem Changes.hasEdge_of_unchanged {before after : Graph} {edge : Relationship} {change : Change}
    (h : Changes before edge change false after) (other : Relationship) :
    before.hasEdge other = if other = edge then change.leavesEdge else before.hasEdge other := by
  by_cases hother : other = edge
  · rw [if_pos hother, hother]
    have hchanged := h.changed_eq
    cases hbefore : before.hasEdge edge with
    | true =>
        rw [hbefore] at hchanged
        cases change with
        | add => rfl
        | remove => cases hchanged
    | false =>
        rw [hbefore] at hchanged
        cases change with
        | add => cases hchanged
        | remove => rfl
  · rw [if_neg hother]

end Graph
end Entitlement
