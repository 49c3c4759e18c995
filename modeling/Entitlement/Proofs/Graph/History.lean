import Entitlement.Proofs.Graph.Build

/-!
# Histories of graphs

A program that works with graphs starts from empty ones, copies those that it holds and edits them
in place.  An edit may be refused; the program then goes on with the graph as the edit has left it.
Whatever it does, every graph that it holds stays sound, so the names of each are strictly ordered
by the ascendants relation.
-/

namespace Entitlement

inductive GraphCall where
  | addVertex (text : Option String)
  | addEdge (child parent : Option String)
  | removeEdge (child parent : Option String)
  | apply (edge : Relationship) (change : Option String)

namespace GraphCall

/-- Carry out a call. The label of a change is read before anything is changed. -/
def perform : GraphCall -> Action Graph Unit
  | .addVertex text => do
      let _ ← Graph.addVertex text
  | .addEdge child parent => do
      let _ ← Graph.addEdgeBetween child parent
  | .removeEdge child parent => do
      let _ ← Graph.dropEdgeBetween child parent
  | .apply edge change => do
      let _ ← Graph.apply edge (← Action.ofResult (Change.parse change))

theorem moves_perform (call : GraphCall) : call.perform.Moves Graph.KeepsSound := by
  cases call with
  | addVertex text =>
      exact (Graph.moves_addVertex text).map _
  | addEdge child parent =>
      exact (Graph.moves_addEdgeBetween child parent).map _
  | removeEdge child parent =>
      exact (Graph.moves_dropEdgeBetween child parent).map _
  | apply edge change =>
      refine (Action.moves_ofResult _).bind fun change => ?_
      exact (Graph.moves_apply edge change).map _

end GraphCall

namespace Graph

/-- The graphs that a program may hold, in the order in which it has made them. -/
inductive Held : List Graph -> Prop where
  | nothing : Held []
  | fresh {graphs : List Graph} : Held graphs -> Held (graphs ++ [empty])
  | copy {graphs : List Graph} {graph : Graph} :
      Held graphs -> graph ∈ graphs -> Held (graphs ++ [graph])
  /-- A call edits one of the graphs, whether it succeeds or not. -/
  | edit {graphs : List Graph} {graph : Graph} {i : Nat} (call : GraphCall) :
      Held graphs -> graphs[i]? = some graph -> Held (graphs.set i (call.perform.run graph).state)

theorem sound_of_held {graphs : List Graph} (h : Held graphs) {graph : Graph}
    (hgraph : graph ∈ graphs) : graph.Sound := by
  induction h generalizing graph with
  | nothing => cases hgraph
  | fresh _ ih =>
      rcases List.mem_append.mp hgraph with hold | hnew
      · exact ih hold
      · rw [List.mem_singleton.mp hnew]
        exact sound_empty
  | copy _ hsource ih =>
      rcases List.mem_append.mp hgraph with hold | hnew
      · exact ih hold
      · rw [List.mem_singleton.mp hnew]
        exact ih hsource
  | edit call _ hsource ih =>
      rcases List.mem_or_eq_of_mem_set hgraph with hold | hnew
      · exact ih hold
      · rw [hnew]
        exact call.moves_perform _ (ih (List.mem_of_getElem? hsource))

/-!
# What soundness means for paths and queries
-/

/-- A hierarchy without cycles, as it shows in its positions, its names and its queries. -/
structure Ordered (graph : Graph) : Prop where
  no_cycle_of_positions : forall i,
    ¬ Relation.TransGen (fun source target => target ∈ graph.parentsAt source) i i
  no_cycle_of_names : graph.Acyclic
  not_own_ascendant : forall text name, Name.parse text = .ok name -> name ∉ graph.ascendants text
  not_own_descendant : forall text name, Name.parse text = .ok name -> name ∉ graph.descendants text
  strict_order : IsStrictOrder Name fun lower upper => upper ∈ graph.ascendants (some lower.text)

variable {graph : Graph}

theorem Sound.mem_ascendants_text_iff (h : graph.Sound) {lower upper : Name} :
    upper ∈ graph.ascendants (some lower.text) ↔ graph.Above lower upper := by
  rw [h.mem_ascendants_iff]
  constructor
  · intro hreach
    rcases hreach with ⟨start, hstart, hpath⟩
    rw [Name.parse_text] at hstart
    rw [Except.ok.inj hstart]
    exact hpath
  · intro hpath
    exact ⟨lower, Name.parse_text lower, hpath⟩

theorem Sound.ordered (h : graph.Sound) : graph.Ordered where
  no_cycle_of_positions := by
    intro i hcycle
    rcases Relation.TransGen.tail'_iff.mp hcycle with ⟨_, _, hlast⟩
    rcases exists_nameAt? (h.wellFormed.parent_lt hlast) with ⟨name, hname⟩
    exact h.acyclic name ((h.wellFormed.path_iff hname hname).mp hcycle)
  no_cycle_of_names := h.acyclic
  not_own_ascendant := by
    intro text name hname hmember
    rcases h.mem_ascendants_iff.mp hmember with ⟨start, hstart, hpath⟩
    rw [hname] at hstart
    rw [← Except.ok.inj hstart] at hpath
    exact h.acyclic name hpath
  not_own_descendant := by
    intro text name hname hmember
    rcases h.mem_descendants_iff.mp hmember with ⟨start, hstart, hpath⟩
    rw [hname] at hstart
    rw [← Except.ok.inj hstart] at hpath
    exact h.acyclic name hpath
  strict_order :=
    { irrefl := by
        intro name hself
        exact h.acyclic name (h.mem_ascendants_text_iff.mp hself)
      trans := by
        intro lower middle upper hfirst hsecond
        have hlow := h.mem_ascendants_text_iff.mp hfirst
        have hhigh := h.mem_ascendants_text_iff.mp hsecond
        exact h.mem_ascendants_text_iff.mpr (hlow.trans hhigh) }

end Graph
end Entitlement
