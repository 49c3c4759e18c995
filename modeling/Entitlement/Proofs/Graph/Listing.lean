import Entitlement.Proofs.Graph.Answers

/-!
# What a graph lists

The names of a graph are listed in the order of their positions, and its edges vertex by vertex.
In a well-formed arena neither list has repetitions.  The edge counter is right if it is the number
of listed edges; the lemmas below say how each edit of the arena changes the two lists.
-/

namespace Entitlement
namespace Graph

variable {graph : Graph}

/-!
# Listed names
-/

theorem getElem?_names (graph : Graph) (i : Nat) : graph.names[i]? = graph.nameAt? i := by
  unfold names nameAt?
  rw [List.getElem?_map, Array.getElem?_toList]

theorem mem_names_iff {name : Name} :
    name ∈ graph.names ↔ exists i, graph.nameAt? i = some name := by
  simp only [List.mem_iff_getElem?, getElem?_names]

theorem position?_eq_none_iff {name : Name} : graph.position? name = none ↔ name ∉ graph.names := by
  rw [mem_names_iff]
  constructor
  · intro hnone hname
    rcases hname with ⟨i, hi⟩
    exact nameAt?_ne_of_position?_eq_none hnone i hi
  · intro hnone
    cases hposition : graph.position? name with
    | none => rfl
    | some i => exact absurd ⟨i, nameAt?_of_position? hposition⟩ hnone

theorem length_names (graph : Graph) : graph.names.length = graph.size := by
  unfold names size
  rw [List.length_map, Array.length_toList]

theorem WellFormed.nodup_names (h : graph.WellFormed) : graph.names.Nodup := by
  refine List.nodup_iff_getElem?_ne_getElem?.mpr fun i j hlt hbound hsame => ?_
  rw [getElem?_names, getElem?_names] at hsame
  rw [length_names] at hbound
  rcases exists_nameAt? hbound with ⟨name, hname⟩
  exact Nat.ne_of_lt hlt (h.position_unique (hsame.trans hname) hname)

theorem names_push (graph : Graph) (name : Name) :
    (graph.push name).names = graph.names ++ [name] := by
  unfold push names
  rw [Array.toList_push, List.map_append]
  rfl

theorem names_insertVertex (graph : Graph) (name : Name) :
    (graph.insertVertex name).names =
      if name ∈ graph.names then graph.names else graph.names ++ [name] := by
  cases hposition : graph.position? name with
  | some i =>
      have hmember : name ∈ graph.names := mem_names_iff.mpr ⟨i, nameAt?_of_position? hposition⟩
      rw [insertVertex_of_some hposition, if_pos hmember]
  | none =>
      rw [insertVertex_of_none hposition, if_neg (position?_eq_none_iff.mp hposition), names_push]

theorem names_of_rewire {changed : Graph} {child parent : Nat}
    {onParents onChildren : List Nat -> List Nat}
    (h : changed.vertices = rewire graph.vertices child parent onParents onChildren) :
    changed.names = graph.names := by
  apply List.ext_getElem?
  intro i
  rw [getElem?_names, getElem?_names]
  exact nameAt?_of_rewire h i

theorem names_connect (graph : Graph) (edge : Relationship) :
    (graph.connect edge).names =
      ((graph.insertVertex edge.child).insertVertex edge.parent).names := by
  unfold connect
  dsimp only
  split
  · exact names_of_rewire (vertices_link _ _ _)
  · rfl

theorem names_removeEdge (graph : Graph) (edge : Relationship) :
    (graph.removeEdge edge).1.names = graph.names := by
  unfold removeEdge
  split
  · split
    · exact names_of_rewire (vertices_unlink _ _ _)
    · rfl
  · rfl

theorem hasVertex_iff {text : Option String} :
    graph.hasVertex text = true ↔ exists name, Name.parse text = .ok name ∧ name ∈ graph.names := by
  unfold hasVertex find?
  cases Name.parse text with
  | error defect => simp
  | ok name =>
      rw [Option.isSome_iff_ne_none, Ne, position?_eq_none_iff, not_not]
      simp

theorem find?_eq_none_iff {text : Option String} :
    graph.find? text = none ↔ forall name, Name.parse text = .ok name -> name ∉ graph.names := by
  have hvertex : (graph.find? text).isSome ↔
      exists name, Name.parse text = .ok name ∧ name ∈ graph.names := hasVertex_iff
  rw [← Option.not_isSome_iff_eq_none, hvertex]
  simp only [not_exists, not_and]

/-!
# Listed edges
-/

theorem WellFormed.mem_edges_iff (h : graph.WellFormed) {edge : Relationship} :
    edge ∈ graph.edges ↔ graph.hasEdge edge = true := by
  have hvertex : forall i vertex, graph.vertices[i]? = some vertex ->
      graph.nameAt? i = some vertex.name ∧ graph.parentsAt i = vertex.parents := by
    intro i vertex hi
    unfold nameAt? parentsAt
    rw [hi]
    exact ⟨rfl, rfl⟩
  have hedge : graph.hasEdge edge = true ↔ graph.Edge edge.child edge.parent := Iff.rfl
  rw [hedge, h.edge_iff]
  unfold edges
  rw [List.mem_flatMap]
  constructor
  · intro hlisted
    rcases hlisted with ⟨vertex, hmember, hlisted⟩
    rcases List.mem_map.mp hlisted with ⟨parent, hparent, hsame⟩
    rcases mem_namesAt_iff.mp hparent with ⟨j, hj, hname⟩
    rcases List.mem_iff_getElem?.mp hmember with ⟨i, hi⟩
    rw [Array.getElem?_toList] at hi
    rw [← (hvertex i vertex hi).2] at hj
    rw [← hsame]
    exact ⟨i, j, (hvertex i vertex hi).1, hname, hj⟩
  · intro hposition
    rcases hposition with ⟨i, j, hi, hj, hmember⟩
    unfold nameAt? at hi
    rcases Option.map_eq_some_iff.mp hi with ⟨vertex, hfound, hname⟩
    rw [(hvertex i vertex hfound).2] at hmember
    refine ⟨vertex, List.mem_iff_getElem?.mpr ⟨i, by rw [Array.getElem?_toList, hfound]⟩, ?_⟩
    refine List.mem_map.mpr ⟨edge.parent, mem_namesAt_iff.mpr ⟨j, hmember, hj⟩, ?_⟩
    rw [hname]

theorem WellFormed.nodup_edges (h : graph.WellFormed) : graph.edges.Nodup := by
  unfold edges
  refine List.nodup_flatMap.mpr ⟨?_, ?_⟩
  · intro vertex hmember
    rcases List.mem_iff_getElem?.mp hmember with ⟨i, hi⟩
    have hparents : graph.parentsAt i = vertex.parents := by
      unfold parentsAt
      rw [Array.getElem?_toList] at hi
      rw [hi]
    rw [← hparents]
    refine (h.nodup_namesAt (h.parents_nodup i)).map fun first second hsame => ?_
    exact congrArg Relationship.parent hsame
  · -- Edges of different vertices have different children.
    have hnames : graph.vertices.toList.Pairwise fun first second => first.name ≠ second.name :=
      List.pairwise_map.mp h.nodup_names
    refine hnames.imp fun hother edge hfirst hsecond => ?_
    rcases List.mem_map.mp hfirst with ⟨_, _, hchild⟩
    rcases List.mem_map.mp hsecond with ⟨_, _, hchild'⟩
    rw [← hchild'] at hchild
    exact hother (congrArg Relationship.child hchild)

/-!
# The edge counter
-/

theorem edgeCount_insertVertex (graph : Graph) (name : Name) :
    (graph.insertVertex name).edgeCount = graph.edgeCount := by
  unfold insertVertex
  split <;> rfl

theorem WellFormed.edgeCount_connect (h : graph.WellFormed) (edge : Relationship) :
    (graph.connect edge).edgeCount = graph.edgeCount + 1 := by
  have hform := (h.insertVertex edge.child).insertVertex edge.parent
  rcases exists_position_insertVertex graph edge.child with ⟨i, hi⟩
  rcases exists_position_insertVertex (graph.insertVertex edge.child) edge.parent with ⟨j, hj⟩
  have hi' := nameAt?_insertVertex hi edge.parent
  have hcount : forall name other, ((graph.insertVertex name).insertVertex other).edgeCount =
      graph.edgeCount := by
    intro name other
    rw [edgeCount_insertVertex, edgeCount_insertVertex]
  unfold Graph.connect
  simp only [hform.position?_eq_some_iff.mpr hi', hform.position?_eq_some_iff.mpr hj]
  exact congrArg (· + 1) (hcount edge.child edge.parent)

theorem removeEdge_of_absent {edge : Relationship} (h : graph.hasEdge edge = false) :
    graph.removeEdge edge = (graph, false) := by
  unfold hasEdge at h
  unfold removeEdge
  split
  · rename_i i j hi hj
    simp only [hi, hj] at h
    exact if_neg (Bool.eq_false_iff.mp h)
  · rfl

theorem edgeCount_removeEdge (graph : Graph) (edge : Relationship) :
    (graph.removeEdge edge).1.edgeCount =
      if graph.hasEdge edge then graph.edgeCount - 1 else graph.edgeCount := by
  unfold removeEdge hasEdge
  split
  · split <;> rfl
  · rfl

end Graph
end Entitlement
