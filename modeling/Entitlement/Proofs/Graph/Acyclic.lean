import Entitlement.Proofs.Graph.Reach

/-!
# Acyclic graphs

A graph is sound if its arena is well-formed and no path leads from a name back to itself.  An edge
is inserted only after a search has failed to find a path from its parent to its child, so a new
edge closes no cycle; removing an edge and inserting a vertex make no new paths.
-/

namespace Entitlement
namespace Graph

def Acyclic (graph : Graph) : Prop :=
  forall name, ¬ graph.Above name name

structure Sound (graph : Graph) : Prop where
  wellFormed : graph.WellFormed
  acyclic : graph.Acyclic

/-!
# Paths and one more edge
-/

section Paths

variable {α : Type} {old new : α -> α -> Prop} {child parent : α}

/-- A path that may use one more edge either does without it or reaches its lower end first. -/
theorem path_with_edge (hnew : forall x y, new x y -> x = child ∧ y = parent ∨ old x y) {a b : α}
    (hpath : Relation.TransGen new a b) :
    Relation.TransGen old a b ∨
      Relation.ReflTransGen old a child ∧ Relation.ReflTransGen old parent b := by
  -- The path grows at its upper end, so the last use of the edge decides what follows it.
  induction hpath with
  | single hstep =>
      rcases hnew _ _ hstep with ⟨hchild, hparent⟩ | hold
      · rw [hchild, hparent]
        exact Or.inr ⟨Relation.ReflTransGen.refl, Relation.ReflTransGen.refl⟩
      · exact Or.inl (Relation.TransGen.single hold)
  | tail _ hstep ih =>
      rcases hnew _ _ hstep with ⟨hchild, hparent⟩ | hold
      · rw [hparent]
        rw [hchild] at ih
        rcases ih with hdirect | ⟨hlower, _⟩
        · exact Or.inr ⟨hdirect.to_reflTransGen, Relation.ReflTransGen.refl⟩
        · exact Or.inr ⟨hlower, Relation.ReflTransGen.refl⟩
      · rcases ih with hdirect | ⟨hlower, hupper⟩
        · exact Or.inl (hdirect.tail hold)
        · exact Or.inr ⟨hlower, hupper.tail hold⟩

/-- One more edge closes no cycle if its two ends differ and no path leads down from it. -/
theorem no_cycle_with_edge (hold : forall x, ¬ Relation.TransGen old x x)
    (hnew : forall x y, new x y -> x = child ∧ y = parent ∨ old x y)
    (hends : child ≠ parent) (hopen : ¬ Relation.TransGen old parent child) (x : α) :
    ¬ Relation.TransGen new x x := by
  intro hcycle
  rcases path_with_edge hnew hcycle with hdirect | ⟨hlower, hupper⟩
  · exact hold x hdirect
  · rcases Relation.reflTransGen_iff_eq_or_transGen.mp (hupper.trans hlower) with hsame | hpath
    · exact hends hsame
    · exact hopen hpath

end Paths

/-!
# The four outcomes of an insertion
-/

variable {graph : Graph}

theorem WellFormed.insertEdge_cases (h : graph.WellFormed) (edge : Relationship) :
    (edge.child = edge.parent ∧ graph.insertEdge edge = .error (.selfEdge edge.child)) ∨
      (edge.child ≠ edge.parent ∧ graph.Edge edge.child edge.parent ∧
        graph.insertEdge edge = .ok (graph, false)) ∨
      (edge.child ≠ edge.parent ∧ ¬ graph.Edge edge.child edge.parent ∧
        graph.Above edge.parent edge.child ∧
        graph.insertEdge edge = .error (.closingEdge edge.child edge.parent)) ∨
      (edge.child ≠ edge.parent ∧ ¬ graph.Edge edge.child edge.parent ∧
        ¬ graph.Above edge.parent edge.child ∧
        graph.insertEdge edge = .ok (graph.connect edge, true)) := by
  unfold insertEdge Relationship.isSelfReference
  by_cases hself : edge.child = edge.parent
  · rw [if_pos (decide_eq_true hself)]
    exact Or.inl ⟨hself, rfl⟩
  · rw [if_neg (by rw [decide_eq_false hself]; exact Bool.false_ne_true)]
    by_cases hedge : graph.hasEdge edge = true
    · rw [if_pos hedge]
      exact Or.inr (Or.inl ⟨hself, hedge, rfl⟩)
    · rw [if_neg hedge]
      by_cases hpath : graph.Above edge.parent edge.child
      · rw [if_pos (h.leadsTo_iff.mpr ⟨hpath, hself⟩)]
        exact Or.inr (Or.inr (Or.inl ⟨hself, hedge, hpath, rfl⟩))
      · rw [if_neg (fun hleads => hpath (h.leadsTo_iff.mp hleads).1)]
        exact Or.inr (Or.inr (Or.inr ⟨hself, hedge, hpath, rfl⟩))

theorem Sound.insertEdge (h : graph.Sound) {edge : Relationship} {changed : Graph} {isNew : Bool}
    (hinsert : graph.insertEdge edge = .ok (changed, isNew)) :
    changed.Sound ∧ isNew = !graph.hasEdge edge ∧
      forall child parent, changed.Edge child parent ↔
        child = edge.child ∧ parent = edge.parent ∨ graph.Edge child parent := by
  rcases h.wellFormed.insertEdge_cases edge with
    ⟨_, hresult⟩ | ⟨_, hedge, hresult⟩ | ⟨_, _, _, hresult⟩ | ⟨hself, hedge, hpath, hresult⟩
  · rw [hresult] at hinsert
    cases hinsert
  · rw [hresult] at hinsert
    cases hinsert
    refine ⟨h, by rw [hedge]; rfl, ?_⟩
    intro child parent
    constructor
    · exact Or.inr
    · intro hedge
      rcases hedge with ⟨hchild, hparent⟩ | hold
      · rw [hchild, hparent]
        exact hedge
      · exact hold
  · rw [hresult] at hinsert
    cases hinsert
  · rw [hresult] at hinsert
    cases hinsert
    rcases h.wellFormed.connect hedge with ⟨hform, hedges⟩
    refine ⟨⟨hform, ?_⟩, by rw [Bool.eq_false_iff.mpr hedge]; rfl, hedges⟩
    exact no_cycle_with_edge h.acyclic (fun child parent => (hedges child parent).mp) hself hpath

theorem Sound.of_subgraph (h : graph.Sound) {smaller : Graph} (hform : smaller.WellFormed)
    (hedges : forall child parent, smaller.Edge child parent -> graph.Edge child parent) :
    smaller.Sound where
  wellFormed := hform
  acyclic := by
    intro name hcycle
    exact h.acyclic name (Relation.TransGen.mono hedges name name hcycle)

theorem Sound.removeEdge (h : graph.Sound) (edge : Relationship) :
    (graph.removeEdge edge).1.Sound := by
  rcases h.wellFormed.removeEdge edge with ⟨hform, _, hedges⟩
  exact h.of_subgraph hform fun child parent hedge => ((hedges child parent).mp hedge).2

theorem Sound.insertVertex (h : graph.Sound) (name : Name) : (graph.insertVertex name).Sound :=
  h.of_subgraph (h.wellFormed.insertVertex name) fun _ _ => (h.wellFormed.edge_insertVertex name).mp

theorem sound_empty : empty.Sound where
  wellFormed := wellFormed_empty
  acyclic := by
    intro name hcycle
    rcases Relation.TransGen.head'_iff.mp hcycle with ⟨middle, hedge, _⟩
    exact not_edge_empty hedge

/-!
# Queries of a sound graph

In a sound graph no name is above itself, so that the queries need not leave it out.
-/

theorem Sound.mem_ascendants_iff (h : graph.Sound) {text : Option String} {name : Name} :
    name ∈ graph.ascendants text ↔
      exists start, Name.parse text = .ok start ∧ graph.Above start name := by
  rw [h.wellFormed.mem_ascendants_iff]
  constructor
  · intro hname
    rcases hname with ⟨start, hstart, hpath, _⟩
    exact ⟨start, hstart, hpath⟩
  · intro hname
    rcases hname with ⟨start, hstart, hpath⟩
    refine ⟨start, hstart, hpath, ?_⟩
    intro hsame
    rw [hsame] at hpath
    exact h.acyclic start hpath

theorem Sound.mem_descendants_iff (h : graph.Sound) {text : Option String} {name : Name} :
    name ∈ graph.descendants text ↔
      exists start, Name.parse text = .ok start ∧ graph.Above name start := by
  rw [h.wellFormed.mem_descendants_iff]
  constructor
  · intro hname
    rcases hname with ⟨start, hstart, hpath, _⟩
    exact ⟨start, hstart, hpath⟩
  · intro hname
    rcases hname with ⟨start, hstart, hpath⟩
    refine ⟨start, hstart, hpath, ?_⟩
    intro hsame
    rw [hsame] at hpath
    exact h.acyclic start hpath

end Graph
end Entitlement
