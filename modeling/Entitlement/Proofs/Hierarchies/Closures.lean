import Entitlement.Directory.Memory
import Entitlement.Hierarchies.Query
import Entitlement.Proofs.Graph.Order
import Entitlement.Proofs.Graph.Walk
import Entitlement.Proofs.Hierarchies.View

/-!
# Exact closures

The ascendants of a name are the names that paths of edges lead up to, and its descendants are those
that paths lead up from.  The two searches run over different adjacency lists, but these mirror each
other, so one name is an ascendant of a second one exactly if the second is a descendant of the
first; and this is what live hierarchies say when they are asked whether a name is a parent.
-/

namespace Entitlement
namespace Graph

variable {graph : Graph}

/-!
# Searches of a graph
-/

/-- The search from a position ends, and finds these names on its way, its start left out. -/
def Finds (graph : Graph) (next : Nat -> List Nat) (i : Nat) (names : List Name) : Prop :=
  exists visited, Walk.Ends next i visited ∧
    forall name, name ∈ graph.namesAt (visited.filter (· ≠ i)) ↔ name ∈ names

theorem finds_reachedFrom {next : Nat -> List Nat}
    (hbound : forall source target, target ∈ next source -> target < graph.size) (i : Nat) :
    graph.Finds next i (graph.namesAt (graph.reachedFrom next i)) := by
  rcases Walk.exists_ends hbound i with ⟨visited, hends⟩
  have hmember : forall j, j ∈ visited.filter (· ≠ i) ↔ j ∈ graph.reachedFrom next i := by
    intro j
    rw [List.mem_filter, decide_eq_true_iff, hends.mem_iff, mem_reachedFrom_iff hbound]
    exact Iff.rfl
  refine ⟨visited, hends, fun name => ?_⟩
  simp only [mem_namesAt_iff, hmember]

theorem WellFormed.finds_ascendants (h : graph.WellFormed) {text : Option String} {i : Nat}
    (hfind : graph.find? text = some i) :
    graph.Finds graph.parentsAt i (graph.ascendants text) := by
  unfold ascendants
  rw [hfind]
  exact finds_reachedFrom (fun _ _ => h.parent_lt) i

theorem WellFormed.finds_descendants (h : graph.WellFormed) {text : Option String} {i : Nat}
    (hfind : graph.find? text = some i) :
    graph.Finds graph.childrenAt i (graph.descendants text) := by
  unfold descendants
  rw [hfind]
  exact finds_reachedFrom (fun _ _ => h.child_lt) i

/-!
# Texts that name no vertex
-/

inductive Unlisted (graph : Graph) (text : Option String) : Prop where
  | nameless : Name.Nameless text -> Unlisted graph text
  | unknown {name : Name} : Name.parse text = .ok name -> name ∉ graph.names -> Unlisted graph text

theorem Unlisted.find?_eq_none {text : Option String} (h : graph.Unlisted text) :
    graph.find? text = none := by
  apply find?_eq_none_iff.mpr
  intro name hname
  cases h with
  | nameless hnameless =>
      rcases Name.nameless_iff.mp hnameless with ⟨defect, hdefect⟩
      rw [hname] at hdefect
      cases hdefect
  | unknown hother hunknown =>
      rw [hname] at hother
      rw [Except.ok.inj hother]
      exact hunknown

/-!
# Closures and single steps
-/

theorem Sound.mem_ascendants_of_parse (h : graph.Sound) {text : Option String} {start : Name}
    (hstart : Name.parse text = .ok start) {name : Name} :
    name ∈ graph.ascendants text ↔ graph.Above start name := by
  rw [h.mem_ascendants_iff, hstart]
  simp only [Except.ok.injEq, exists_eq_left']

theorem Sound.mem_descendants_of_parse (h : graph.Sound) {text : Option String} {start : Name}
    (hstart : Name.parse text = .ok start) {name : Name} :
    name ∈ graph.descendants text ↔ graph.Above name start := by
  rw [h.mem_descendants_iff, hstart]
  simp only [Except.ok.injEq, exists_eq_left']

theorem above_iff_parent {start name : Name} :
    graph.Above start name ↔
      graph.Edge start name ∨ exists parent, graph.Edge start parent ∧ graph.Above parent name := by
  constructor
  · intro hpath
    rcases Relation.TransGen.head'_iff.mp hpath with ⟨parent, hedge, hrest⟩
    rcases Relation.reflTransGen_iff_eq_or_transGen.mp hrest with hsame | habove
    · rw [hsame]
      exact Or.inl hedge
    · exact Or.inr ⟨parent, hedge, habove⟩
  · intro hpath
    rcases hpath with hedge | ⟨parent, hedge, habove⟩
    · exact Relation.TransGen.single hedge
    · exact Relation.TransGen.head hedge habove

theorem Sound.mem_ascendants_iff_parents (h : graph.Sound) {text : Option String} {name : Name} :
    name ∈ graph.ascendants text ↔
      name ∈ graph.parents text ∨
        exists parent, parent ∈ graph.parents text ∧
          name ∈ graph.ascendants (some parent.text) := by
  cases hstart : Name.parse text with
  | error defect =>
      rw [h.mem_ascendants_iff]
      simp only [h.wellFormed.mem_parents_iff, hstart, reduceCtorEq, false_and, exists_false,
        or_self]
  | ok start =>
      rw [h.mem_ascendants_of_parse hstart, above_iff_parent]
      simp only [h.wellFormed.mem_parents_iff, h.mem_ascendants_text_iff, hstart, Except.ok.injEq,
        exists_eq_left']

structure ExactClosures (graph : Graph) : Prop where
  finds_ascendants : forall text i, graph.find? text = some i ->
    graph.Finds graph.parentsAt i (graph.ascendants text)
  finds_descendants : forall text i, graph.find? text = some i ->
    graph.Finds graph.childrenAt i (graph.descendants text)
  unlisted : forall text, graph.Unlisted text ->
    graph.ascendants text = [] ∧ graph.descendants text = []
  mem_ascendants_iff : forall text start, Name.parse text = .ok start ->
    forall name, name ∈ graph.ascendants text ↔ graph.Above start name
  mem_descendants_iff : forall text start, Name.parse text = .ok start ->
    forall name, name ∈ graph.descendants text ↔ graph.Above name start
  dual : forall low high lower upper, Name.parse low = .ok lower -> Name.parse high = .ok upper ->
    (upper ∈ graph.ascendants low ↔ lower ∈ graph.descendants high)
  mem_ascendants_iff_parents : forall text name, name ∈ graph.ascendants text ↔
    name ∈ graph.parents text ∨
      exists parent, parent ∈ graph.parents text ∧ name ∈ graph.ascendants (some parent.text)

theorem Sound.exactClosures (h : graph.Sound) : graph.ExactClosures where
  finds_ascendants := fun _ _ hfind => h.wellFormed.finds_ascendants hfind
  finds_descendants := fun _ _ hfind => h.wellFormed.finds_descendants hfind
  unlisted := by
    intro text hunlisted
    unfold ascendants descendants
    rw [hunlisted.find?_eq_none]
    exact ⟨rfl, rfl⟩
  mem_ascendants_iff := fun _ _ hstart _ => h.mem_ascendants_of_parse hstart
  mem_descendants_iff := fun _ _ hstart _ => h.mem_descendants_of_parse hstart
  dual := by
    intro low high lower upper hlow hhigh
    rw [h.mem_ascendants_of_parse hlow, h.mem_descendants_of_parse hhigh]
  mem_ascendants_iff_parents := fun _ _ => h.mem_ascendants_iff_parents

end Graph

namespace Hierarchies

variable {σ : Type}

theorem result_isParent {directory : Directory σ} {kind : HierarchyKind} {context : Option String}
    {h : Hierarchies σ} {graph : Graph}
    (hserved : ((Hierarchies.graph directory kind context).run h).result = .ok graph)
    (child : Option String) {parent : Option String} {upper : Name}
    (hparent : Name.parse parent = .ok upper) :
    ((isParent directory kind child parent context).run h).result =
      .ok ((graph.ascendants child).contains upper) := by
  rw [Action.result_eq_effect] at hserved ⊢
  unfold isParent
  rw [hparent]
  show ((ask directory kind context fun graph => (graph.ascendants child).contains upper).effect
    h).1 = _
  unfold ask
  rw [Action.result_map, hserved]
  rfl

end Hierarchies

/--
The searches of a graph end and find exactly the names above and below their start.  So a name is an
ascendant of a second one exactly if that is one of its descendants, and exactly if live hierarchies
that serve the graph say that it is a parent.
-/
theorem closures_exact_and_dual {graph : Graph} (hreachable : graph.Reachable) :
    graph.ExactClosures ∧
      forall (σ : Type) (directory : Directory σ) (kind : HierarchyKind) (context : Option String)
        (h : Hierarchies σ),
        ((Hierarchies.graph directory kind context).run h).result = .ok graph ->
        forall low high lower upper, Name.parse low = .ok lower -> Name.parse high = .ok upper ->
          exists answer,
            ((Hierarchies.isParent directory kind low high context).run h).result = .ok answer ∧
            (answer = true ↔ upper ∈ graph.ascendants low) ∧
            (answer = true ↔ lower ∈ graph.descendants high) := by
  have hexact := hreachable.sound.exactClosures
  refine ⟨hexact, ?_⟩
  intro σ directory kind context h hserved low high lower upper hlow hhigh
  have hanswer : (graph.ascendants low).contains upper = true ↔ upper ∈ graph.ascendants low :=
    List.contains_iff_mem
  refine ⟨_, Hierarchies.result_isParent hserved low hhigh, hanswer, ?_⟩
  exact hanswer.trans (hexact.dual low high lower upper hlow hhigh)

theorem closures_exact_and_dual_of_a_lattice :
    let clerk : Name := .ofText "clerk" rfl
    let boss : Name := .ofText "boss" rfl
    let lead : Name := .ofText "lead" rfl
    let owner : Name := .ofText "owner" rfl
    exists (graph : Graph) (h : Hierarchies Store),
      graph.Reachable ∧ graph.edges = [⟨clerk, lead⟩, ⟨clerk, boss⟩, ⟨boss, owner⟩, ⟨lead, owner⟩] ∧
        ((Hierarchies.graph Store.directory .role (some " NULL ")).run h).result = .ok graph ∧
        clerk ∈ graph.descendants (some "OWNER") ∧
        ((Hierarchies.isParent Store.directory .role (some " Clerk ") (some "OWNER")
          (some " NULL ")).run h).result = .ok true := by
  intro clerk boss lead owner
  let build : Action Unit Graph :=
    Graph.Source.build (.edgeList [⟨clerk, boss⟩, ⟨clerk, lead⟩, ⟨boss, owner⟩, ⟨lead, owner⟩])
  have hbuilt : ((build.run ()).result.toOption.any fun graph =>
      decide (graph.edges = [⟨clerk, lead⟩, ⟨clerk, boss⟩, ⟨boss, owner⟩, ⟨lead, owner⟩]) &&
        (graph.ascendants (some " Clerk ")).contains owner) = true := by decide +kernel
  rcases (Option.any_eq_true _ _).mp hbuilt with ⟨graph, hgraph, hchecked⟩
  rcases (Bool.and_eq_true _ _).mp hchecked with ⟨hedges, hupper⟩
  have hreachable : graph.Reachable := Graph.Reachable.built (Action.eq_ok_of_toOption hgraph)
  let h : Hierarchies Store :=
    ⟨(Cache.empty "null").publish ⟨.role, ""⟩ graph, Store.empty "null"⟩
  have hkey : h.cache.key .role (some " NULL ") = ⟨.role, ""⟩ := by
    show HierarchyKey.of "null" .role (some " NULL ") = ⟨.role, ""⟩
    decide +kernel
  have hloaded : h.cache.graph? (h.cache.key .role (some " NULL ")) = some graph := by
    rw [hkey, Cache.graph?_publish, if_pos rfl]
  have hserved : ((Hierarchies.graph Store.directory .role (some " NULL ")).run h).result =
      .ok graph :=
    Hierarchies.result_graph_of_loaded Store.directory rfl hloaded
  rcases closures_exact_and_dual hreachable with ⟨_, hservice⟩
  rcases hservice Store Store.directory .role (some " NULL ") h hserved (some " Clerk ")
    (some "OWNER") clerk owner (by decide +kernel) (by decide +kernel) with
    ⟨answer, hanswer, hascendant, hdescendant⟩
  have htrue : answer = true := hascendant.mpr (List.contains_iff_mem.mp hupper)
  rw [htrue] at hanswer
  exact ⟨graph, h, hreachable, of_decide_eq_true hedges, hserved, hdescendant.mp htrue, hanswer⟩

end Entitlement
