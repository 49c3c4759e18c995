import Entitlement.Proofs.Graph.Arena

/-!
# The edge relation of a graph

Seen from outside, a graph is a relation between names.  The theorems below say what every edit does
to this relation; they are all that the later modules use of the arena.
-/

namespace Entitlement
namespace Graph

def Edge (graph : Graph) (child parent : Name) : Prop :=
  graph.hasEdge ⟨child, parent⟩ = true

variable {graph : Graph} {child parent : Name}

theorem edge_iff_position :
    graph.Edge child parent ↔
      exists i j, graph.position? child = some i ∧ graph.position? parent = some j ∧
        j ∈ graph.parentsAt i := by
  unfold Edge hasEdge
  cases graph.position? child with
  | none => simp
  | some i =>
      cases graph.position? parent with
      | none => simp
      | some j => simp

theorem WellFormed.edge_iff (h : graph.WellFormed) :
    graph.Edge child parent ↔
      exists i j, graph.nameAt? i = some child ∧ graph.nameAt? j = some parent ∧
        j ∈ graph.parentsAt i := by
  rw [edge_iff_position]
  simp only [h.position?_eq_some_iff]

theorem WellFormed.edge_iff_mem_parentsAt (h : graph.WellFormed) {i j : Nat}
    (hi : graph.nameAt? i = some child) (hj : graph.nameAt? j = some parent) :
    graph.Edge child parent ↔ j ∈ graph.parentsAt i := by
  rw [h.edge_iff]
  constructor
  · intro hedge
    rcases hedge with ⟨i', j', hi', hj', hmember⟩
    rw [h.position_unique hi hi', h.position_unique hj hj']
    exact hmember
  · intro hmember
    exact ⟨i, j, hi, hj, hmember⟩

theorem not_edge_empty : ¬ empty.Edge child parent := by
  intro h
  rcases edge_iff_position.mp h with ⟨i, j, hi, _⟩
  cases nameAt?_of_position? hi

/-!
# New vertices
-/

theorem WellFormed.insertVertex (h : graph.WellFormed) (name : Name) :
    (graph.insertVertex name).WellFormed := by
  cases hposition : graph.position? name with
  | some i =>
      rw [insertVertex_of_some hposition]
      exact h
  | none =>
      rw [insertVertex_of_none hposition]
      exact h.push hposition

theorem nameAt?_insertVertex {i : Nat} {other : Name} (hi : graph.nameAt? i = some other)
    (name : Name) : (graph.insertVertex name).nameAt? i = some other := by
  cases hposition : graph.position? name with
  | some j =>
      rw [insertVertex_of_some hposition]
      exact hi
  | none =>
      have hlt := nameAt?_lt hi
      rw [insertVertex_of_none hposition, nameAt?_push, if_neg (Nat.ne_of_lt hlt)]
      exact hi

theorem exists_position_insertVertex (graph : Graph) (name : Name) :
    exists i, (graph.insertVertex name).nameAt? i = some name := by
  cases hposition : graph.position? name with
  | some i =>
      rw [insertVertex_of_some hposition]
      exact ⟨i, nameAt?_of_position? hposition⟩
  | none =>
      rw [insertVertex_of_none hposition]
      exact ⟨graph.size, by rw [nameAt?_push, if_pos rfl]⟩

theorem WellFormed.edge_push (h : graph.WellFormed) {name : Name}
    (hname : graph.position? name = none) :
    (graph.push name).Edge child parent ↔ graph.Edge child parent := by
  rw [(h.push hname).edge_iff, h.edge_iff]
  constructor
  · intro hedge
    rcases hedge with ⟨i, j, hi, hj, hmember⟩
    rw [parentsAt_push] at hmember
    rw [nameAt?_push, if_neg (Nat.ne_of_lt (mem_parentsAt_lt hmember))] at hi
    rw [nameAt?_push, if_neg (Nat.ne_of_lt (h.parent_lt hmember))] at hj
    exact ⟨i, j, hi, hj, hmember⟩
  · intro hedge
    rcases hedge with ⟨i, j, hi, hj, hmember⟩
    refine ⟨i, j, ?_, ?_, ?_⟩
    · rw [nameAt?_push, if_neg (Nat.ne_of_lt (nameAt?_lt hi))]
      exact hi
    · rw [nameAt?_push, if_neg (Nat.ne_of_lt (nameAt?_lt hj))]
      exact hj
    · rw [parentsAt_push]
      exact hmember

theorem WellFormed.edge_insertVertex (h : graph.WellFormed) (name : Name) :
    (graph.insertVertex name).Edge child parent ↔ graph.Edge child parent := by
  cases hposition : graph.position? name with
  | some i => rw [insertVertex_of_some hposition]
  | none =>
      rw [insertVertex_of_none hposition]
      exact h.edge_push hposition

/-!
# New edges
-/

theorem WellFormed.edge_link (h : graph.WellFormed) {i j : Nat} {a b : Name}
    (hi : graph.nameAt? i = some a) (hj : graph.nameAt? j = some b)
    (hnew : ¬ graph.Edge a b) :
    (graph.link i j).Edge child parent ↔
      child = a ∧ parent = b ∨ graph.Edge child parent := by
  rw [h.edge_iff_mem_parentsAt hi hj] at hnew
  have hlinked := h.link (nameAt?_lt hi) (nameAt?_lt hj) hnew
  have hnames := nameAt?_of_rewire (vertices_link graph i j)
  rw [hlinked.edge_iff, h.edge_iff]
  simp only [hnames, mem_parentsAt_link (nameAt?_lt hi)]
  constructor
  · intro hedge
    rcases hedge with ⟨i', j', hi', hj', ⟨hiSame, hjSame⟩ | hold⟩
    · rw [hiSame, hi] at hi'
      rw [hjSame, hj] at hj'
      cases hi'
      cases hj'
      exact Or.inl ⟨rfl, rfl⟩
    · exact Or.inr ⟨i', j', hi', hj', hold⟩
  · intro hedge
    rcases hedge with ⟨hchild, hparent⟩ | ⟨i', j', hi', hj', hold⟩
    · rw [hchild, hparent]
      exact ⟨i, j, hi, hj, Or.inl ⟨rfl, rfl⟩⟩
    · exact ⟨i', j', hi', hj', Or.inr hold⟩

theorem WellFormed.connect (h : graph.WellFormed) {edge : Relationship}
    (hnew : ¬ graph.Edge edge.child edge.parent) :
    (graph.connect edge).WellFormed ∧
      forall child parent, (graph.connect edge).Edge child parent ↔
        child = edge.child ∧ parent = edge.parent ∨ graph.Edge child parent := by
  have hchildForm := h.insertVertex edge.child
  have hform := hchildForm.insertVertex edge.parent
  rcases exists_position_insertVertex graph edge.child with ⟨i, hi⟩
  rcases exists_position_insertVertex (graph.insertVertex edge.child) edge.parent with
    ⟨j, hj⟩
  have hi' := nameAt?_insertVertex hi edge.parent
  have hconnect : graph.connect edge =
      ((graph.insertVertex edge.child).insertVertex edge.parent).link i j := by
    unfold Graph.connect
    simp only [hform.position?_eq_some_iff.mpr hi', hform.position?_eq_some_iff.mpr hj]
  have hsame : forall a b, ((graph.insertVertex edge.child).insertVertex edge.parent).Edge a b ↔
      graph.Edge a b := by
    intro a b
    rw [hchildForm.edge_insertVertex, h.edge_insertVertex]
  rw [← hsame] at hnew
  rw [hconnect]
  constructor
  · apply hform.link (nameAt?_lt hi') (nameAt?_lt hj)
    rw [← hform.edge_iff_mem_parentsAt hi' hj]
    exact hnew
  · intro a b
    rw [hform.edge_link hi' hj hnew, hsame]

/-!
# Removed edges
-/

theorem WellFormed.edge_unlink (h : graph.WellFormed) {i j : Nat} {a b : Name}
    (hi : graph.nameAt? i = some a) (hj : graph.nameAt? j = some b) :
    (graph.unlink i j).Edge child parent ↔
      ¬ (child = a ∧ parent = b) ∧ graph.Edge child parent := by
  have hnames := nameAt?_of_rewire (vertices_unlink graph i j)
  rw [h.unlink.edge_iff, h.edge_iff]
  simp only [hnames, h.mem_parentsAt_unlink]
  constructor
  · intro hedge
    rcases hedge with ⟨i', j', hi', hj', hother, hold⟩
    refine ⟨?_, i', j', hi', hj', hold⟩
    intro hsame
    rcases hsame with ⟨hchild, hparent⟩
    rw [hchild] at hi'
    rw [hparent] at hj'
    exact hother ⟨h.position_unique hi' hi, h.position_unique hj' hj⟩
  · intro hedge
    rcases hedge with ⟨hother, i', j', hi', hj', hold⟩
    refine ⟨i', j', hi', hj', ?_, hold⟩
    intro hsame
    rcases hsame with ⟨hiSame, hjSame⟩
    rw [hiSame, hi] at hi'
    rw [hjSame, hj] at hj'
    cases hi'
    cases hj'
    exact hother ⟨rfl, rfl⟩

theorem WellFormed.removeEdge (h : graph.WellFormed) (edge : Relationship) :
    (graph.removeEdge edge).1.WellFormed ∧
      (graph.removeEdge edge).2 = graph.hasEdge edge ∧
      forall child parent, (graph.removeEdge edge).1.Edge child parent ↔
        ¬ (child = edge.child ∧ parent = edge.parent) ∧ graph.Edge child parent := by
  cases hedge : graph.hasEdge edge with
  | true =>
      rcases edge_iff_position.mp hedge with ⟨i, j, hi, hj, hmember⟩
      have hremove : graph.removeEdge edge = (graph.unlink i j, true) := by
        unfold Graph.removeEdge
        simp only [hi, hj]
        exact if_pos (List.contains_iff_mem.mpr hmember)
      rw [hremove]
      refine ⟨h.unlink, rfl, ?_⟩
      intro child parent
      exact h.edge_unlink (nameAt?_of_position? hi) (nameAt?_of_position? hj)
  | false =>
      have hremove : graph.removeEdge edge = (graph, false) := by
        unfold Graph.removeEdge
        unfold hasEdge at hedge
        split
        · rename_i i j hi hj
          simp only [hi, hj] at hedge
          exact if_neg (Bool.eq_false_iff.mp hedge)
        · rfl
      rw [hremove]
      refine ⟨h, rfl, ?_⟩
      intro child parent
      constructor
      · intro hold
        refine ⟨?_, hold⟩
        intro hsame
        rcases hsame with ⟨hchild, hparent⟩
        rw [hchild, hparent] at hold
        exact absurd hold (Bool.eq_false_iff.mp hedge)
      · exact And.right

end Graph
end Entitlement
