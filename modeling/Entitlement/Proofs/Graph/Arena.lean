import Entitlement.Graph.Basic
import Mathlib.Data.List.Nodup

/-!
# The arena of a graph

The vertices of a graph stand in an arena.  In a well-formed arena every name has one position,
every edge is known at both of its ends, and no edge is listed twice.  The equations below say what
each edit of the arena does to the name, the parents and the children at every position; that the
arena stays well-formed follows from them.
-/

namespace Entitlement
namespace Graph

def nameAt? (graph : Graph) (i : Nat) : Option Name :=
  graph.vertices[i]?.map (·.name)

/-- Names and positions correspond, and the two ends of every edge agree on it. -/
structure WellFormed (graph : Graph) : Prop where
  position_unique : forall {i j name},
    graph.nameAt? i = some name -> graph.nameAt? j = some name -> i = j
  parent_lt : forall {i j}, j ∈ graph.parentsAt i -> j < graph.size
  mirror : forall {i j}, j ∈ graph.parentsAt i ↔ i ∈ graph.childrenAt j
  parents_nodup : forall i, (graph.parentsAt i).Nodup
  children_nodup : forall i, (graph.childrenAt i).Nodup

/-!
# Positions
-/

theorem nameAt?_lt {graph : Graph} {i : Nat} {name : Name} (h : graph.nameAt? i = some name) :
    i < graph.size := by
  unfold nameAt? at h
  rcases Option.map_eq_some_iff.mp h with ⟨vertex, hvertex, _⟩
  exact (Array.getElem?_eq_some_iff.mp hvertex).1

theorem exists_nameAt? {graph : Graph} {i : Nat} (h : i < graph.size) :
    exists name, graph.nameAt? i = some name := by
  have hvertex : graph.vertices[i]? = some graph.vertices[i] := Array.getElem?_eq_getElem h
  exact ⟨_, by unfold nameAt?; rw [hvertex]; rfl⟩

theorem nameAt?_of_position? {graph : Graph} {name : Name} {i : Nat}
    (h : graph.position? name = some i) : graph.nameAt? i = some name := by
  unfold position? at h
  rcases Array.findIdx?_eq_some_iff_getElem.mp h with ⟨hlt, hname, _⟩
  unfold nameAt?
  rw [Array.getElem?_eq_getElem hlt]
  exact congrArg some (of_decide_eq_true hname)

theorem nameAt?_ne_of_position?_eq_none {graph : Graph} {name : Name}
    (h : graph.position? name = none) (i : Nat) : graph.nameAt? i ≠ some name := by
  intro hname
  unfold nameAt? at hname
  rcases Option.map_eq_some_iff.mp hname with ⟨vertex, hvertex, hsame⟩
  have hmember : vertex ∈ graph.vertices := Array.mem_of_getElem? hvertex
  have hother := Array.findIdx?_eq_none_iff.mp h vertex hmember
  rw [decide_eq_false_iff_not] at hother
  exact hother hsame

theorem WellFormed.position?_eq_some_iff {graph : Graph} (h : graph.WellFormed) {name : Name}
    {i : Nat} : graph.position? name = some i ↔ graph.nameAt? i = some name := by
  constructor
  · exact nameAt?_of_position?
  · intro hname
    cases hposition : graph.position? name with
    | none => exact absurd hname (nameAt?_ne_of_position?_eq_none hposition i)
    | some j => rw [h.position_unique (nameAt?_of_position? hposition) hname]

theorem mem_parentsAt_lt {graph : Graph} {i j : Nat} (h : j ∈ graph.parentsAt i) :
    i < graph.size := by
  unfold parentsAt at h
  split at h
  · rename_i vertex hvertex
    exact (Array.getElem?_eq_some_iff.mp hvertex).1
  · cases h

theorem parentsAt_eq_nil {graph : Graph} {i : Nat} (hi : ¬ i < graph.size) :
    graph.parentsAt i = [] := by
  apply List.eq_nil_iff_forall_not_mem.mpr
  intro j hj
  exact hi (mem_parentsAt_lt hj)

theorem mem_childrenAt_lt {graph : Graph} {i j : Nat} (h : j ∈ graph.childrenAt i) :
    i < graph.size := by
  unfold childrenAt at h
  split at h
  · rename_i vertex hvertex
    exact (Array.getElem?_eq_some_iff.mp hvertex).1
  · cases h

theorem childrenAt_eq_nil {graph : Graph} {i : Nat} (hi : ¬ i < graph.size) :
    graph.childrenAt i = [] := by
  apply List.eq_nil_iff_forall_not_mem.mpr
  intro j hj
  exact hi (mem_childrenAt_lt hj)

/-!
# A new vertex
-/

@[simp] theorem nameAt?_empty (i : Nat) : empty.nameAt? i = none := rfl

@[simp] theorem parentsAt_empty (i : Nat) : empty.parentsAt i = [] := rfl

@[simp] theorem childrenAt_empty (i : Nat) : empty.childrenAt i = [] := rfl

theorem wellFormed_empty : empty.WellFormed where
  position_unique := by
    intro i j name hi
    cases hi
  parent_lt := by
    intro i j hj
    cases hj
  mirror := by
    intro i j
    simp
  parents_nodup := by
    intro i
    exact List.nodup_nil
  children_nodup := by
    intro i
    exact List.nodup_nil

def push (graph : Graph) (name : Name) : Graph :=
  { graph with vertices := graph.vertices.push ⟨name, [], []⟩ }

theorem insertVertex_of_some {graph : Graph} {name : Name} {i : Nat}
    (h : graph.position? name = some i) : graph.insertVertex name = graph := by
  unfold insertVertex
  rw [h]

theorem insertVertex_of_none {graph : Graph} {name : Name} (h : graph.position? name = none) :
    graph.insertVertex name = graph.push name := by
  unfold insertVertex
  rw [h]
  rfl

theorem size_push (graph : Graph) (name : Name) : (graph.push name).size = graph.size + 1 := by
  unfold push size
  exact Array.size_push _

theorem nameAt?_push (graph : Graph) (name : Name) (i : Nat) :
    (graph.push name).nameAt? i = if i = graph.size then some name else graph.nameAt? i := by
  unfold push nameAt? size
  rw [Array.getElem?_push]
  split
  · rfl
  · rfl

theorem parentsAt_push (graph : Graph) (name : Name) (i : Nat) :
    (graph.push name).parentsAt i = graph.parentsAt i := by
  unfold push parentsAt
  rw [Array.getElem?_push]
  by_cases hlast : i = graph.vertices.size
  · rw [if_pos hlast, hlast, Array.getElem?_size]
  · rw [if_neg hlast]

theorem childrenAt_push (graph : Graph) (name : Name) (i : Nat) :
    (graph.push name).childrenAt i = graph.childrenAt i := by
  unfold push childrenAt
  rw [Array.getElem?_push]
  by_cases hlast : i = graph.vertices.size
  · rw [if_pos hlast, hlast, Array.getElem?_size]
  · rw [if_neg hlast]

theorem WellFormed.push {graph : Graph} (h : graph.WellFormed) {name : Name}
    (hname : graph.position? name = none) : (graph.push name).WellFormed where
  position_unique := by
    intro i j other hi hj
    rw [nameAt?_push] at hi hj
    have hnew := nameAt?_ne_of_position?_eq_none hname
    by_cases hiLast : i = graph.size
    · by_cases hjLast : j = graph.size
      · rw [hiLast, hjLast]
      · rw [if_pos hiLast] at hi
        rw [if_neg hjLast, ← hi] at hj
        exact absurd hj (hnew j)
    · by_cases hjLast : j = graph.size
      · rw [if_pos hjLast] at hj
        rw [if_neg hiLast, ← hj] at hi
        exact absurd hi (hnew i)
      · rw [if_neg hiLast] at hi
        rw [if_neg hjLast] at hj
        exact h.position_unique hi hj
  parent_lt := by
    intro i j hj
    rw [parentsAt_push] at hj
    rw [size_push]
    exact Nat.lt_succ_of_lt (h.parent_lt hj)
  mirror := by
    intro i j
    rw [parentsAt_push, childrenAt_push]
    exact h.mirror
  parents_nodup := by
    intro i
    rw [parentsAt_push]
    exact h.parents_nodup i
  children_nodup := by
    intro i
    rw [childrenAt_push]
    exact h.children_nodup i

/-!
# Changed ends of an edge

Inserting and removing an edge change the parents at one position and the children at another.
-/

/-- The vertices with changed parents at one position and changed children at another. -/
def rewire (vertices : Array Vertex) (child parent : Nat)
    (onParents onChildren : List Nat -> List Nat) : Array Vertex :=
  (vertices.modify child fun vertex =>
      { vertex with parents := onParents vertex.parents }).modify parent fun vertex =>
    { vertex with children := onChildren vertex.children }

theorem getElem?_rewire (vertices : Array Vertex) (child parent : Nat)
    (onParents onChildren : List Nat -> List Nat) (i : Nat) :
    (rewire vertices child parent onParents onChildren)[i]? =
      vertices[i]?.map fun vertex =>
        { name := vertex.name
          parents := if i = child then onParents vertex.parents else vertex.parents
          children := if i = parent then onChildren vertex.children else vertex.children } := by
  unfold rewire
  rw [Array.getElem?_modify, Array.getElem?_modify]
  cases vertices[i]? with
  | none => simp
  | some vertex =>
      by_cases hchild : i = child
      · by_cases hparent : i = parent
        · simp [← hchild, ← hparent]
        · simp [← hchild, hparent, Ne.symm hparent]
      · by_cases hparent : i = parent
        · simp [hchild, Ne.symm hchild, ← hparent]
        · simp [hchild, Ne.symm hchild, hparent, Ne.symm hparent]

theorem vertices_link (graph : Graph) (child parent : Nat) :
    (graph.link child parent).vertices =
      rewire graph.vertices child parent (parent :: ·) (child :: ·) := rfl

theorem vertices_unlink (graph : Graph) (child parent : Nat) :
    (graph.unlink child parent).vertices =
      rewire graph.vertices child parent (·.erase parent) (·.erase child) := rfl

section Rewire

variable {graph changed : Graph} {child parent : Nat} {onParents onChildren : List Nat -> List Nat}

theorem size_of_rewire
    (h : changed.vertices = rewire graph.vertices child parent onParents onChildren) :
    changed.size = graph.size := by
  unfold size
  rw [h, rewire, Array.size_modify, Array.size_modify]

theorem nameAt?_of_rewire
    (h : changed.vertices = rewire graph.vertices child parent onParents onChildren) (i : Nat) :
    changed.nameAt? i = graph.nameAt? i := by
  unfold nameAt?
  rw [h, getElem?_rewire, Option.map_map]
  rfl

theorem parentsAt_of_rewire
    (h : changed.vertices = rewire graph.vertices child parent onParents onChildren)
    {i : Nat} (hi : i < graph.size) :
    changed.parentsAt i =
      if i = child then onParents (graph.parentsAt i) else graph.parentsAt i := by
  unfold parentsAt
  rw [h, getElem?_rewire, Array.getElem?_eq_getElem hi]
  rfl

theorem childrenAt_of_rewire
    (h : changed.vertices = rewire graph.vertices child parent onParents onChildren)
    {i : Nat} (hi : i < graph.size) :
    changed.childrenAt i =
      if i = parent then onChildren (graph.childrenAt i) else graph.childrenAt i := by
  unfold childrenAt
  rw [h, getElem?_rewire, Array.getElem?_eq_getElem hi]
  rfl

theorem WellFormed.of_rewire (hgraph : graph.WellFormed)
    (h : changed.vertices = rewire graph.vertices child parent onParents onChildren)
    (hbound : forall {j}, child < graph.size -> j ∈ onParents (graph.parentsAt child) ->
      j < graph.size)
    (hmirror : forall {i j}, j ∈ changed.parentsAt i ↔ i ∈ changed.childrenAt j)
    (hparents : (onParents (graph.parentsAt child)).Nodup)
    (hchildren : (onChildren (graph.childrenAt parent)).Nodup) : changed.WellFormed where
  position_unique := by
    intro i j name hi hj
    rw [nameAt?_of_rewire h] at hi hj
    exact hgraph.position_unique hi hj
  parent_lt := by
    intro i j hj
    have hi := mem_parentsAt_lt hj
    rw [size_of_rewire h] at hi ⊢
    rw [parentsAt_of_rewire h hi] at hj
    split at hj
    · rename_i hchild
      rw [hchild] at hi hj
      exact hbound hi hj
    · exact hgraph.parent_lt hj
  mirror := hmirror
  parents_nodup := by
    intro i
    by_cases hi : i < graph.size
    · rw [parentsAt_of_rewire h hi]
      split
      · rename_i hchild
        rw [hchild]
        exact hparents
      · exact hgraph.parents_nodup i
    · rw [← size_of_rewire h] at hi
      rw [parentsAt_eq_nil hi]
      exact List.nodup_nil
  children_nodup := by
    intro i
    by_cases hi : i < graph.size
    · rw [childrenAt_of_rewire h hi]
      split
      · rename_i hparent
        rw [hparent]
        exact hchildren
      · exact hgraph.children_nodup i
    · rw [← size_of_rewire h] at hi
      rw [childrenAt_eq_nil hi]
      exact List.nodup_nil

end Rewire

/-!
# A new edge
-/

section Link

variable {graph : Graph} {child parent : Nat}

theorem mem_parentsAt_link (hchild : child < graph.size) {i j : Nat} :
    j ∈ (graph.link child parent).parentsAt i ↔
      i = child ∧ j = parent ∨ j ∈ graph.parentsAt i := by
  by_cases hi : i < graph.size
  · rw [parentsAt_of_rewire (vertices_link graph child parent) hi]
    by_cases hsame : i = child
    · rw [if_pos hsame, List.mem_cons]
      simp [hsame]
    · rw [if_neg hsame]
      simp [hsame]
  · constructor
    · intro hj
      have hlt := mem_parentsAt_lt hj
      rw [size_of_rewire (vertices_link graph child parent)] at hlt
      exact absurd hlt hi
    · intro hmember
      rcases hmember with ⟨hsame, _⟩ | hj
      · rw [hsame] at hi
        exact absurd hchild hi
      · exact absurd (mem_parentsAt_lt hj) hi

theorem mem_childrenAt_link (hparent : parent < graph.size) {i j : Nat} :
    i ∈ (graph.link child parent).childrenAt j ↔
      i = child ∧ j = parent ∨ i ∈ graph.childrenAt j := by
  by_cases hj : j < graph.size
  · rw [childrenAt_of_rewire (vertices_link graph child parent) hj]
    by_cases hsame : j = parent
    · rw [if_pos hsame, List.mem_cons]
      simp [hsame]
    · rw [if_neg hsame]
      simp [hsame]
  · constructor
    · intro hi
      have hlt := mem_childrenAt_lt hi
      rw [size_of_rewire (vertices_link graph child parent)] at hlt
      exact absurd hlt hj
    · intro hmember
      rcases hmember with ⟨_, hsame⟩ | hi
      · rw [hsame] at hj
        exact absurd hparent hj
      · exact absurd (mem_childrenAt_lt hi) hj

theorem WellFormed.link (h : graph.WellFormed) (hchild : child < graph.size)
    (hparent : parent < graph.size) (hnew : parent ∉ graph.parentsAt child) :
    (graph.link child parent).WellFormed := by
  apply h.of_rewire (vertices_link graph child parent)
  · intro j _ hj
    rcases List.mem_cons.mp hj with hlast | hold
    · rw [hlast]
      exact hparent
    · exact h.parent_lt hold
  · intro i j
    rw [mem_parentsAt_link hchild, mem_childrenAt_link hparent, h.mirror]
  · exact List.nodup_cons.mpr ⟨hnew, h.parents_nodup child⟩
  · rw [h.mirror] at hnew
    exact List.nodup_cons.mpr ⟨hnew, h.children_nodup parent⟩

end Link

/-!
# A removed edge
-/

section Unlink

variable {graph : Graph} {child parent : Nat}

theorem WellFormed.mem_parentsAt_unlink (h : graph.WellFormed) {i j : Nat} :
    j ∈ (graph.unlink child parent).parentsAt i ↔
      ¬ (i = child ∧ j = parent) ∧ j ∈ graph.parentsAt i := by
  by_cases hi : i < graph.size
  · rw [parentsAt_of_rewire (vertices_unlink graph child parent) hi]
    by_cases hsame : i = child
    · rw [if_pos hsame, (h.parents_nodup i).mem_erase_iff]
      simp [hsame]
    · rw [if_neg hsame]
      simp [hsame]
  · constructor
    · intro hj
      have hlt := mem_parentsAt_lt hj
      rw [size_of_rewire (vertices_unlink graph child parent)] at hlt
      exact absurd hlt hi
    · intro hmember
      rcases hmember with ⟨_, hj⟩
      exact absurd (mem_parentsAt_lt hj) hi

theorem WellFormed.mem_childrenAt_unlink (h : graph.WellFormed) {i j : Nat} :
    i ∈ (graph.unlink child parent).childrenAt j ↔
      ¬ (i = child ∧ j = parent) ∧ i ∈ graph.childrenAt j := by
  by_cases hj : j < graph.size
  · rw [childrenAt_of_rewire (vertices_unlink graph child parent) hj]
    by_cases hsame : j = parent
    · rw [if_pos hsame, (h.children_nodup j).mem_erase_iff]
      simp [hsame]
    · rw [if_neg hsame]
      simp [hsame]
  · constructor
    · intro hi
      have hlt := mem_childrenAt_lt hi
      rw [size_of_rewire (vertices_unlink graph child parent)] at hlt
      exact absurd hlt hj
    · intro hmember
      rcases hmember with ⟨_, hi⟩
      exact absurd (mem_childrenAt_lt hi) hj

theorem WellFormed.unlink (h : graph.WellFormed) : (graph.unlink child parent).WellFormed := by
  apply h.of_rewire (vertices_unlink graph child parent)
  · intro j _ hj
    exact h.parent_lt (List.mem_of_mem_erase hj)
  · intro i j
    rw [h.mem_parentsAt_unlink, h.mem_childrenAt_unlink, h.mirror]
  · exact (h.parents_nodup child).erase parent
  · exact (h.children_nodup parent).erase child

end Unlink

end Graph
end Entitlement
