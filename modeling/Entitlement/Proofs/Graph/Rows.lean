import Entitlement.Proofs.Graph.Build

/-!
# The edges that rows give

A build reads its rows one by one and inserts the edges of each before it reads the next.  If all
rows can be read, it does the same as a build from the list of their edges; if one of them cannot be
read, the build fails, by this row or by an earlier edge.
-/

namespace Entitlement

def gather {β : Type} (read : β -> Except Fault (List Relationship)) :
    List β -> Except Fault (List Relationship)
  | [] => .ok []
  | x :: rest => do
      return (← read x) ++ (← gather read rest)

def Row.edges (row : Row) : Except Fault (List Relationship) := do
  let (name, parents) ← row.content
  gather (fun parent => do return [← Relationship.parse name parent]) parents

def readRows : List Row -> Except Fault (List Relationship) :=
  gather Row.edges

namespace Graph

theorem effect_addEdges_append (edges more : List Relationship) (graph : Graph) :
    (addEdges (edges ++ more)).effect graph =
      match ((addEdges edges).effect graph).1 with
      | .error fault => (.error fault, ((addEdges edges).effect graph).2)
      | .ok _ => (addEdges more).effect ((addEdges edges).effect graph).2 :=
  Action.effect_forEach_append edges more _ graph

theorem effect_addEdges_singleton (edge : Relationship) (graph : Graph) :
    (addEdges [edge]).effect graph =
      (((addEdge edge).effect graph).1.map fun _ => (), ((addEdge edge).effect graph).2) := by
  unfold addEdges
  rw [Action.effect_forEach_cons, Action.effect_discard]
  cases ((addEdge edge).effect graph).1 with
  | error fault => rfl
  | ok changed => rfl

/-- An edit inserts the edges of a reading, and fails if there is none. -/
def Inserts (edit : Action Graph Unit) (reading : Except Fault (List Relationship)) : Prop :=
  match reading with
  | .ok edges => forall graph, edit.effect graph = (addEdges edges).effect graph
  | .error _ => forall graph, exists fault, (edit.effect graph).1 = .error fault

theorem inserts_forEach {β : Type} {f : β -> Action Graph Unit}
    {read : β -> Except Fault (List Relationship)} (h : forall x, Inserts (f x) (read x))
    (xs : List β) : Inserts (Action.forEach xs f) (gather read xs) := by
  induction xs with
  | nil =>
      intro graph
      rfl
  | cons x rest ih =>
      have hfirst := h x
      unfold gather
      cases hread : read x with
      | error cause =>
          rw [hread] at hfirst
          intro graph
          rcases hfirst graph with ⟨fault, hfault⟩
          refine ⟨fault, ?_⟩
          rw [Action.effect_forEach_cons, hfault]
      | ok edges =>
          rw [hread] at hfirst
          cases hrest : gather read rest with
          | error cause =>
              rw [hrest] at ih
              intro graph
              rw [Action.effect_forEach_cons]
              cases ((f x).effect graph).1 with
              | error fault => exact ⟨fault, rfl⟩
              | ok _ => exact ih _
          | ok more =>
              rw [hrest] at ih
              intro graph
              show _ = (addEdges (edges ++ more)).effect graph
              rw [Action.effect_forEach_cons, effect_addEdges_append, hfirst graph]
              cases ((addEdges edges).effect graph).1 with
              | error fault => rfl
              | ok _ => exact ih _

theorem inserts_addEdgeBetween (child parent : Option String) :
    Inserts (do let _ ← addEdgeBetween child parent)
      (do return [← Relationship.parse child parent]) := by
  unfold addEdgeBetween
  cases Relationship.parse child parent with
  | error fault => exact fun graph => ⟨fault, rfl⟩
  | ok edge =>
      intro graph
      show _ = (addEdges [edge]).effect graph
      rw [Action.effect_discard, effect_addEdges_singleton]
      rfl

theorem inserts_addRow (row : Row) : Inserts (addRow row) row.edges := by
  unfold addRow Row.edges
  cases row.content with
  | error fault => exact fun graph => ⟨fault, rfl⟩
  | ok content => exact inserts_forEach (inserts_addEdgeBetween content.1) content.2

theorem inserts_addRows (rows : List Row) : Inserts (addRows rows) (readRows rows) :=
  inserts_forEach inserts_addRow rows

/-!
# Builds from rows
-/

theorem edited_addRows {rows : List Row} {edges : List Relationship}
    (h : readRows rows = .ok edges) (graph : Graph) :
    graph.edited (addRows rows) = graph.edited (addEdges edges) := by
  have hrows := inserts_addRows rows
  rw [h] at hrows
  unfold edited
  rw [hrows graph]

theorem exists_edges_of_edited {rows : List Row} {graph built : Graph}
    (h : graph.edited (addRows rows) = .ok built) :
    exists edges, readRows rows = .ok edges ∧ graph.edited (addEdges edges) = .ok built := by
  cases hread : readRows rows with
  | ok edges => exact ⟨edges, rfl, (edited_addRows hread graph).symm.trans h⟩
  | error cause =>
      have hrows := inserts_addRows rows
      rw [hread] at hrows
      rcases hrows graph with ⟨fault, hfault⟩
      unfold edited at h
      rw [hfault] at h
      cases h

/-!
# Rows of names

A row that gives names by their own texts describes the edges from its name to its parents.
-/

def rowOf (child : Name) (parents : List Name) : Row :=
  .pair (some child.text) (some (parents.map fun parent => some parent.text))

def edgesOf (lineage : List (Name × List Name)) : List Relationship :=
  lineage.flatMap fun row => row.2.map fun parent => ⟨row.1, parent⟩

theorem parse_texts (child parent : Name) :
    Relationship.parse (some child.text) (some parent.text) = .ok ⟨child, parent⟩ := by
  unfold Relationship.parse
  rw [Name.parse_text, Name.parse_text]
  rfl

theorem gather_map {β γ : Type} {read : β -> Except Fault (List Relationship)} {g : γ -> β}
    {f : γ -> List Relationship} (h : forall x, read (g x) = .ok (f x)) (xs : List γ) :
    gather read (xs.map g) = .ok (xs.flatMap f) := by
  induction xs with
  | nil => rfl
  | cons x rest ih =>
      rw [List.map_cons, gather, h, ih]
      rfl

theorem edges_rowOf (child : Name) (parents : List Name) :
    (rowOf child parents).edges = .ok (parents.map fun parent => ⟨child, parent⟩) := by
  rw [List.map_eq_flatMap]
  show gather (fun parent => do return [← Relationship.parse (some child.text) parent])
    (parents.map fun parent => some parent.text) = _
  refine gather_map (fun parent => ?_) parents
  rw [parse_texts]
  rfl

theorem readRows_rowOf (lineage : List (Name × List Name)) :
    readRows (lineage.map fun row => rowOf row.1 row.2) = .ok (edgesOf lineage) := by
  refine gather_map (fun row => ?_) lineage
  exact edges_rowOf row.1 row.2

theorem mem_edgesOf_iff {lineage : List (Name × List Name)} {child parent : Name} :
    ⟨child, parent⟩ ∈ edgesOf lineage ↔
      exists parents, (child, parents) ∈ lineage ∧ parent ∈ parents := by
  unfold edgesOf
  rw [List.mem_flatMap]
  constructor
  · intro hlisted
    rcases hlisted with ⟨row, hrow, hedge⟩
    rcases List.mem_map.mp hedge with ⟨_, hparent, hsame⟩
    cases hsame
    exact ⟨row.2, hrow, hparent⟩
  · intro hstored
    rcases hstored with ⟨parents, hrow, hparent⟩
    exact ⟨(child, parents), hrow, List.mem_map.mpr ⟨parent, hparent, rfl⟩⟩

end Graph
end Entitlement
