import Entitlement.Proofs.Closure
import Entitlement.Proofs.Graph.Edge
import Entitlement.Proofs.Name

/-!
# What the queries of a graph answer

The queries work on positions; the theorems below say what they answer in terms of the edge relation
between names.  A path of positions and a path of names lead to the same vertices, so the search for
ascendants finds the transitive closure of the edge relation, and the search for descendants finds
its converse.
-/

namespace Entitlement
namespace Graph

def Above (graph : Graph) : Name -> Name -> Prop :=
  Relation.TransGen graph.Edge

variable {graph : Graph}

/-!
# Paths of positions and paths of names
-/

theorem WellFormed.above_of_path (h : graph.WellFormed) {i j : Nat}
    (hpath : Relation.TransGen (fun source target => target ∈ graph.parentsAt source) i j)
    {a b : Name} (hi : graph.nameAt? i = some a) (hj : graph.nameAt? j = some b) :
    graph.Above a b := by
  induction hpath generalizing b with
  | single hstep =>
      exact Relation.TransGen.single ((h.edge_iff_mem_parentsAt hi hj).mpr hstep)
  | tail _ hstep ih =>
      rcases exists_nameAt? (mem_parentsAt_lt hstep) with ⟨middle, hmiddle⟩
      exact (ih hmiddle).tail ((h.edge_iff_mem_parentsAt hmiddle hj).mpr hstep)

theorem WellFormed.path_of_above (h : graph.WellFormed) {a b : Name} (hpath : graph.Above a b)
    {i j : Nat} (hi : graph.nameAt? i = some a) (hj : graph.nameAt? j = some b) :
    Relation.TransGen (fun source target => target ∈ graph.parentsAt source) i j := by
  induction hpath generalizing j with
  | single hedge =>
      exact Relation.TransGen.single ((h.edge_iff_mem_parentsAt hi hj).mp hedge)
  | tail _ hedge ih =>
      rcases h.edge_iff.mp hedge with ⟨k, _, hk, _, _⟩
      exact (ih hk).tail ((h.edge_iff_mem_parentsAt hk hj).mp hedge)

theorem WellFormed.path_iff (h : graph.WellFormed) {i j : Nat} {a b : Name}
    (hi : graph.nameAt? i = some a) (hj : graph.nameAt? j = some b) :
    Relation.TransGen (fun source target => target ∈ graph.parentsAt source) i j ↔
      graph.Above a b := by
  constructor
  · intro hpath
    exact h.above_of_path hpath hi hj
  · intro hpath
    exact h.path_of_above hpath hi hj

theorem WellFormed.downward_path_iff (h : graph.WellFormed) {i j : Nat} {a b : Name}
    (hi : graph.nameAt? i = some a) (hj : graph.nameAt? j = some b) :
    Relation.TransGen (fun source target => target ∈ graph.childrenAt source) i j ↔
      graph.Above b a := by
  have hmirror : (fun source target => target ∈ graph.childrenAt source) =
      Function.swap fun source target => target ∈ graph.parentsAt source := by
    funext source target
    exact propext h.mirror.symm
  rw [hmirror, Relation.transGen_swap]
  exact h.path_iff hj hi

theorem WellFormed.positions_of_above (h : graph.WellFormed) {a b : Name}
    (hpath : graph.Above a b) :
    (exists i, graph.nameAt? i = some a) ∧ exists j, graph.nameAt? j = some b := by
  have hstart : exists middle, graph.Edge a middle := by
    rcases Relation.TransGen.head'_iff.mp hpath with ⟨middle, hedge, _⟩
    exact ⟨middle, hedge⟩
  have hend : exists middle, graph.Edge middle b := by
    rcases Relation.TransGen.tail'_iff.mp hpath with ⟨middle, _, hedge⟩
    exact ⟨middle, hedge⟩
  rcases hstart with ⟨_, hfirst⟩
  rcases hend with ⟨_, hlast⟩
  rcases h.edge_iff.mp hfirst with ⟨i, _, hi, _, _⟩
  rcases h.edge_iff.mp hlast with ⟨_, j, _, hj, _⟩
  exact ⟨⟨i, hi⟩, ⟨j, hj⟩⟩

/-!
# The search from a position
-/

theorem WellFormed.child_lt (h : graph.WellFormed) {i j : Nat} (hj : j ∈ graph.childrenAt i) :
    j < graph.size :=
  mem_parentsAt_lt (h.mirror.mpr hj)

theorem mem_reachedFrom_iff {next : Nat -> List Nat} {i j : Nat}
    (hbound : forall source target, target ∈ next source -> target < graph.size) :
    j ∈ graph.reachedFrom next i ↔
      Relation.TransGen (fun source target => target ∈ next source) i j ∧ j ≠ i := by
  unfold reachedFrom
  rw [List.mem_filter, decide_eq_true_iff]
  exact and_congr_left fun _ => mem_closure_range_iff hbound

theorem WellFormed.position_ne_iff (h : graph.WellFormed) {i j : Nat} {a b : Name}
    (hi : graph.nameAt? i = some a) (hj : graph.nameAt? j = some b) : j ≠ i ↔ b ≠ a := by
  rw [not_iff_not]
  constructor
  · intro hsame
    rw [hsame, hi] at hj
    exact (Option.some.inj hj).symm
  · intro hsame
    rw [hsame] at hj
    exact h.position_unique hj hi

theorem WellFormed.mem_reachedFrom_parentsAt_iff (h : graph.WellFormed) {i j : Nat} {a b : Name}
    (hi : graph.nameAt? i = some a) (hj : graph.nameAt? j = some b) :
    j ∈ graph.reachedFrom graph.parentsAt i ↔ graph.Above a b ∧ b ≠ a := by
  rw [mem_reachedFrom_iff (fun _ _ => h.parent_lt), h.path_iff hi hj, h.position_ne_iff hi hj]

theorem WellFormed.mem_reachedFrom_childrenAt_iff (h : graph.WellFormed) {i j : Nat} {a b : Name}
    (hi : graph.nameAt? i = some a) (hj : graph.nameAt? j = some b) :
    j ∈ graph.reachedFrom graph.childrenAt i ↔ graph.Above b a ∧ b ≠ a := by
  rw [mem_reachedFrom_iff (fun _ _ => h.child_lt), h.downward_path_iff hi hj,
    h.position_ne_iff hi hj]

theorem WellFormed.leadsTo_iff (h : graph.WellFormed) {a b : Name} :
    graph.leadsTo a b = true ↔ graph.Above a b ∧ b ≠ a := by
  constructor
  · intro hleads
    unfold leadsTo at hleads
    split at hleads
    · rename_i i j hi hj
      have hmember := List.contains_iff_mem.mp hleads
      exact (h.mem_reachedFrom_parentsAt_iff (nameAt?_of_position? hi)
        (nameAt?_of_position? hj)).mp hmember
    · cases hleads
  · intro hpath
    rcases h.positions_of_above hpath.1 with ⟨⟨i, hi⟩, ⟨j, hj⟩⟩
    unfold leadsTo
    simp only [h.position?_eq_some_iff.mpr hi, h.position?_eq_some_iff.mpr hj]
    exact List.contains_iff_mem.mpr ((h.mem_reachedFrom_parentsAt_iff hi hj).mpr hpath)

/-!
# Queries by text
-/

theorem mem_namesAt_iff {positions : List Nat} {name : Name} :
    name ∈ graph.namesAt positions ↔ exists i, i ∈ positions ∧ graph.nameAt? i = some name := by
  unfold namesAt
  exact List.mem_filterMap

theorem WellFormed.find?_eq_some_iff (h : graph.WellFormed) {text : Option String} {i : Nat} :
    graph.find? text = some i ↔
      exists name, Name.parse text = .ok name ∧ graph.nameAt? i = some name := by
  unfold find?
  cases Name.parse text with
  | error defect => simp
  | ok name => simp [h.position?_eq_some_iff]

theorem WellFormed.mem_query_iff (h : graph.WellFormed) {positions : Nat -> List Nat}
    (related : Name -> Name -> Prop)
    (hrelated : forall {i j a b}, graph.nameAt? i = some a -> graph.nameAt? j = some b ->
      (j ∈ positions i ↔ related a b))
    (hknown : forall {a b}, related a b ->
      (exists i, graph.nameAt? i = some a) ∧ exists j, graph.nameAt? j = some b)
    {text : Option String} {name : Name} :
    name ∈ (match graph.find? text with
        | some i => graph.namesAt (positions i)
        | none => []) ↔
      exists start, Name.parse text = .ok start ∧ related start name := by
  constructor
  · intro hmember
    split at hmember
    · rename_i i hi
      rcases h.find?_eq_some_iff.mp hi with ⟨start, hstart, hposition⟩
      rcases mem_namesAt_iff.mp hmember with ⟨j, hj, hname⟩
      exact ⟨start, hstart, (hrelated hposition hname).mp hj⟩
    · cases hmember
  · intro hreach
    rcases hreach with ⟨start, hstart, hpair⟩
    rcases hknown hpair with ⟨⟨i, hi⟩, ⟨j, hj⟩⟩
    have hfind : graph.find? text = some i := h.find?_eq_some_iff.mpr ⟨start, hstart, hi⟩
    rw [hfind]
    exact mem_namesAt_iff.mpr ⟨j, (hrelated hi hj).mpr hpair, hj⟩

theorem WellFormed.positions_of_edge (h : graph.WellFormed) {a b : Name} (hedge : graph.Edge a b) :
    (exists i, graph.nameAt? i = some a) ∧ exists j, graph.nameAt? j = some b := by
  rcases h.edge_iff.mp hedge with ⟨i, j, hi, hj, _⟩
  exact ⟨⟨i, hi⟩, ⟨j, hj⟩⟩

theorem WellFormed.mem_ascendants_iff (h : graph.WellFormed) {text : Option String} {name : Name} :
    name ∈ graph.ascendants text ↔
      exists start, Name.parse text = .ok start ∧ graph.Above start name ∧ name ≠ start :=
  h.mem_query_iff (fun start name => graph.Above start name ∧ name ≠ start)
    h.mem_reachedFrom_parentsAt_iff fun hpair => h.positions_of_above hpair.1

theorem WellFormed.mem_descendants_iff (h : graph.WellFormed) {text : Option String} {name : Name} :
    name ∈ graph.descendants text ↔
      exists start, Name.parse text = .ok start ∧ graph.Above name start ∧ name ≠ start :=
  h.mem_query_iff (fun start name => graph.Above name start ∧ name ≠ start)
    h.mem_reachedFrom_childrenAt_iff fun hpair => (h.positions_of_above hpair.1).symm

theorem WellFormed.mem_parents_iff (h : graph.WellFormed) {text : Option String} {name : Name} :
    name ∈ graph.parents text ↔
      exists start, Name.parse text = .ok start ∧ graph.Edge start name :=
  h.mem_query_iff graph.Edge (fun hi hj => (h.edge_iff_mem_parentsAt hi hj).symm)
    h.positions_of_edge

theorem WellFormed.mem_children_iff (h : graph.WellFormed) {text : Option String} {name : Name} :
    name ∈ graph.children text ↔
      exists start, Name.parse text = .ok start ∧ graph.Edge name start :=
  h.mem_query_iff (fun start name => graph.Edge name start)
    (fun hi hj => by rw [← h.mirror, h.edge_iff_mem_parentsAt hj hi])
    fun hedge => (h.positions_of_edge hedge).symm

end Graph
end Entitlement
