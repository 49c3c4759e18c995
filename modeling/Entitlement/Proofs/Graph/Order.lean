import Entitlement.Proofs.Graph.History
import Entitlement.Proofs.Graph.Outline
import Entitlement.Proofs.Graph.Rows

/-!
# Builds in any order

A build inserts edges one by one and judges each against the partial graph before it.  Nevertheless
what comes out depends on the set of edges only: a build succeeds exactly if the set is a hierarchy,
and then it lists this set, whatever the order, the repetitions and the rows in which the edges
came.
-/

namespace Entitlement

/-- Edges that neither lead from a name to itself nor close a cycle. -/
structure Hierarchical (edges : List Relationship) : Prop where
  no_self_edge : forall name, ⟨name, name⟩ ∉ edges
  no_cycle : forall name,
    ¬ Relation.TransGen (fun child parent => ⟨child, parent⟩ ∈ edges) name name

theorem hierarchical_iff {edges : List Relationship} :
    Hierarchical edges ↔ forall name,
      ¬ Relation.TransGen (fun child parent => ⟨child, parent⟩ ∈ edges) name name := by
  constructor
  · intro h
    exact h.no_cycle
  · intro h
    exact ⟨fun name hself => h name (Relation.TransGen.single hself), h⟩

theorem hierarchical_congr {edges more : List Relationship}
    (hsame : forall edge, edge ∈ edges ↔ edge ∈ more) : Hierarchical edges ↔ Hierarchical more := by
  simp only [hierarchical_iff, hsame]

/-!
# Outlines of builds
-/

namespace Outline

variable {outline after : Outline}

theorem mem_withEdge (outline : Outline) (edge : Relationship) (name : Name) :
    name ∈ (outline.withEdge edge).names ↔
      name ∈ outline.names ∨ name = edge.child ∨ name = edge.parent := by
  unfold withEdge
  rw [mem_withName, mem_withName, or_assoc]

theorem of_add_ok {edge : Relationship} {changed : Bool}
    (h : outline.add edge = (.ok changed, after)) :
    after.edges = insert edge outline.edges ∧ forall name, name ∈ after.names ↔
      name ∈ outline.names ∨ name = edge.child ∨ name = edge.parent := by
  unfold add at h
  split_ifs at h with hself hold hleads
  · cases h
  · cases h
    have hends := outline.ends_mem edge hold
    refine ⟨(Finset.insert_eq_of_mem hold).symm, fun name => ?_⟩
    refine (or_iff_left_of_imp ?_).symm
    rintro (hname | hname)
    · rw [hname]
      exact hends.1
    · rw [hname]
      exact hends.2
  · cases h
  · cases h
    exact ⟨rfl, outline.mem_withEdge edge⟩

end Outline

namespace Graph

variable {graph built : Graph} {outline : Outline}

theorem Represents.addEdges {edges : List Relationship} (h : graph.Represents outline)
    (hbuilt : (Graph.addEdges edges).effect graph = (.ok (), built)) :
    exists after : Outline, built.Represents after ∧ after.edges = outline.edges ∪ edges.toFinset ∧
      forall name, name ∈ after.names ↔
        name ∈ outline.names ∨
          exists edge, edge ∈ edges ∧ (name = edge.child ∨ name = edge.parent) := by
  induction edges generalizing graph outline with
  | nil =>
      cases hbuilt
      exact ⟨outline, h, by simp, by simp⟩
  | cons edge rest ih =>
      have hfirst := h.addEdge edge
      unfold Graph.addEdges at hbuilt
      rw [Action.effect_forEach_cons, Action.effect_discard] at hbuilt
      rcases heffect : (Graph.addEdge edge).effect graph with ⟨answer, middle⟩
      rcases hadd : outline.add edge with ⟨expected, written⟩
      rw [heffect, hadd] at hfirst
      rw [heffect] at hbuilt
      cases answer with
      | error fault => cases hbuilt
      | ok changed =>
          rcases hfirst with ⟨hanswer, hmiddle⟩
          dsimp only at hanswer hmiddle
          rw [← hanswer] at hadd
          rcases Outline.of_add_ok hadd with ⟨hedges, hnames⟩
          rcases ih hmiddle hbuilt with ⟨after, hafter, hafterEdges, hafterNames⟩
          refine ⟨after, hafter, ?_, ?_⟩
          · rw [hafterEdges, hedges, List.toFinset_cons, Finset.insert_union, Finset.union_insert]
          · intro name
            rw [hafterNames, hnames, or_assoc]
            simp only [List.mem_cons, or_and_right, exists_or, exists_eq_left]

/-!
# What a build comes to
-/

/-- The graph has these edges and no others, and their ends and no other vertices. -/
structure Lists (graph : Graph) (edges : List Relationship) : Prop where
  hasEdge_iff : forall edge, graph.hasEdge edge = true ↔ edge ∈ edges
  mem_edges_iff : forall edge, edge ∈ graph.edges ↔ edge ∈ edges
  edges_nodup : graph.edges.Nodup
  edgeCount_eq : graph.edgeCount = edges.toFinset.card
  mem_names_iff : forall name, name ∈ graph.names ↔
    exists edge, edge ∈ edges ∧ (name = edge.child ∨ name = edge.parent)
  names_nodup : graph.names.Nodup

theorem lists_of_addEdges {edges : List Relationship}
    (hbuilt : (addEdges edges).effect empty = (.ok (), built)) : built.Lists edges := by
  rcases represents_empty.addEdges hbuilt with ⟨outline, h, hedges, hnames⟩
  have hmember : forall edge, edge ∈ outline.edges ↔ edge ∈ edges := by
    intro edge
    rw [hedges, Finset.mem_union, List.mem_toFinset]
    exact or_iff_right (Finset.notMem_empty edge)
  have hreads := h.reads
  refine ⟨?_, ?_, hreads.edges_nodup, ?_, ?_, ?_⟩
  · intro edge
    rw [h.hasEdge_iff, hmember]
  · intro edge
    rw [hreads.mem_edges_iff, hmember]
  · rw [h.edgeCount_eq, hedges]
    exact congrArg Finset.card (Finset.empty_union _)
  · intro name
    rw [h.names_eq, hnames]
    exact or_iff_right (List.not_mem_nil)
  · rw [h.names_eq]
    exact outline.names_nodup

inductive Settles (edges : List Relationship) : Except Fault Graph -> Prop where
  | built {graph : Graph} :
      Hierarchical edges -> graph.Sound -> graph.Lists edges -> Settles edges (.ok graph)
  | refused {fault : Fault} :
      ¬ Hierarchical edges -> fault.isCycle = true -> Settles edges (.error fault)

theorem edgeOr_empty (edges : List Relationship) :
    empty.EdgeOr edges = fun child parent => ⟨child, parent⟩ ∈ edges := by
  funext child parent
  exact propext (or_iff_left not_edge_empty)

theorem settles_edited (edges : List Relationship) :
    Settles edges (empty.edited (addEdges edges)) := by
  unfold edited
  rcases sound_empty.addEdges_cases edges with ⟨built, hbuilt, hsound, hedges⟩ |
    ⟨fault, built, hfail, hcycle, name, hpath⟩
  · rw [hbuilt]
    refine Settles.built (hierarchical_iff.mpr ?_) hsound (lists_of_addEdges hbuilt)
    rw [edgeOr_empty] at hedges
    intro name hpath
    exact hsound.acyclic name (Relation.TransGen.mono (fun _ _ => (hedges _ _).mpr) _ _ hpath)
  · rw [hfail]
    rw [edgeOr_empty] at hpath
    exact Settles.refused (fun hhierarchical => hhierarchical.no_cycle name hpath) hcycle

/-!
# Graphs that list the same edges
-/

/-- Two graphs that cannot be told apart but by the order in which they list things. -/
structure Interchangeable (first second : Graph) : Prop extends SameAnswers first second where
  names_perm : first.names.Perm second.names
  edges_perm : first.edges.Perm second.edges
  size_eq : first.size = second.size
  edgeCount_eq : first.edgeCount = second.edgeCount
  hasVertex_eq : forall text, first.hasVertex text = second.hasVertex text
  joins_eq : forall child parent, first.joins child parent = second.joins child parent

theorem interchangeable_of_lists {first second : Graph} {edges more : List Relationship}
    (hsame : forall edge, edge ∈ edges ↔ edge ∈ more) (hfirst : first.Sound)
    (hedges : first.Lists edges) (hsecond : second.Sound) (hmore : second.Lists more) :
    first.Interchangeable second := by
  have hedge : forall edge, first.hasEdge edge = true ↔ second.hasEdge edge = true := by
    intro edge
    rw [hedges.hasEdge_iff, hmore.hasEdge_iff, hsame]
  have hnames : forall name, name ∈ first.names ↔ name ∈ second.names := by
    intro name
    simp only [hedges.mem_names_iff, hmore.mem_names_iff, hsame]
  have hperm := (List.perm_ext_iff_of_nodup hedges.names_nodup hmore.names_nodup).mpr hnames
  refine ⟨hfirst.sameAnswers hsecond fun edge => Bool.eq_iff_iff.mpr (hedge edge), hperm, ?_, ?_,
    ?_, ?_, ?_⟩
  · refine (List.perm_ext_iff_of_nodup hedges.edges_nodup hmore.edges_nodup).mpr fun edge => ?_
    rw [hedges.mem_edges_iff, hmore.mem_edges_iff, hsame]
  · rw [← length_names, ← length_names, hperm.length_eq]
  · rw [hedges.edgeCount_eq, hmore.edgeCount_eq]
    refine congrArg Finset.card (Finset.ext fun edge => ?_)
    rw [List.mem_toFinset, List.mem_toFinset, hsame]
  · intro text
    refine Bool.eq_iff_iff.mpr ?_
    simp only [hasVertex_iff, hnames]
  · intro child parent
    refine Bool.eq_iff_iff.mpr ?_
    simp only [joins_iff, hedge]

inductive BuiltAlike : Except Fault Graph -> Except Fault Graph -> Prop where
  | built {first second : Graph} :
      first.Interchangeable second -> BuiltAlike (.ok first) (.ok second)
  | refused {first second : Fault} :
      first.isCycle = true -> second.isCycle = true -> BuiltAlike (.error first) (.error second)

theorem builtAlike_of_settles {edges more : List Relationship}
    (hsame : forall edge, edge ∈ edges ↔ edge ∈ more) {first second : Except Fault Graph}
    (hfirst : Settles edges first) (hsecond : Settles more second) : BuiltAlike first second := by
  cases hfirst with
  | built hedges hsound hlists =>
      cases hsecond with
      | built hmore hsound' hlists' =>
          exact BuiltAlike.built (interchangeable_of_lists hsame hsound hlists hsound' hlists')
      | refused hmore _ => exact absurd ((hierarchical_congr hsame).mp hedges) hmore
  | refused hedges hcycle =>
      cases hsecond with
      | built hmore _ _ => exact absurd ((hierarchical_congr hsame).mpr hmore) hedges
      | refused _ hcycle' => exact BuiltAlike.refused hcycle hcycle'

/-!
# Sources of builds
-/

inductive Source where
  | edgeList (edges : List Relationship)
  | rowList (rows : List Row)

def Source.read : Source -> Except Fault (List Relationship)
  | .edgeList edges => .ok edges
  | .rowList rows => readRows rows

def Source.build {σ : Type} : Source -> Action σ Graph
  | .edgeList edges => ofEdges edges
  | .rowList rows => ofRows rows

theorem Source.settles {σ : Type} {source : Source} {edges : List Relationship}
    (h : source.read = .ok edges) (s : σ) : Settles edges ((source.build.run s).result) := by
  cases source with
  | edgeList given =>
      cases h
      rw [Source.build, Action.result_eq_effect, effect_ofEdges]
      exact settles_edited edges
  | rowList rows =>
      rw [Source.build, Action.result_eq_effect, effect_ofRows, edited_addRows h]
      exact settles_edited edges

/-- The graphs that come about by builds and calls. A copy of a graph is the graph itself. -/
inductive Reachable : Graph -> Prop where
  | fresh : Reachable empty
  | built {σ : Type} {source : Source} {s : σ} {graph : Graph} :
      (source.build.run s).result = .ok graph -> Reachable graph
  | edited {graph : Graph} (call : GraphCall) :
      Reachable graph -> Reachable (call.perform.run graph).state

theorem Source.sound {σ : Type} {source : Source} {s : σ}
    (h : (source.build.run s).result = .ok graph) : graph.Sound := by
  cases source with
  | edgeList edges =>
      rw [Source.build, Action.result_eq_effect, effect_ofEdges] at h
      exact sound_of_edited sound_empty (moves_addEdges edges) h
  | rowList rows =>
      rw [Source.build, Action.result_eq_effect, effect_ofRows] at h
      exact sound_of_edited sound_empty (moves_addRows rows) h

theorem Reachable.sound (h : graph.Reachable) : graph.Sound := by
  induction h with
  | fresh => exact sound_empty
  | built hbuilt => exact Source.sound hbuilt
  | edited call _ ih => exact call.moves_perform _ ih

theorem Sound.rebuild (h : graph.Sound) {σ : Type} {edges : List Relationship}
    (hperm : edges.Perm graph.edges) (s : σ) :
    exists built, ((ofEdges edges).run s).result = .ok built ∧ built.edges.Perm graph.edges := by
  have hmember : forall child parent, ⟨child, parent⟩ ∈ edges -> graph.Edge child parent := by
    intro child parent hedge
    exact h.wellFormed.mem_edges_iff.mp (hperm.mem_iff.mp hedge)
  have hedges : Hierarchical edges := by
    refine hierarchical_iff.mpr fun name hpath => ?_
    exact h.acyclic name (Relation.TransGen.mono hmember _ _ hpath)
  have hsettles : Settles edges ((ofEdges edges).run s).result :=
    Source.settles (Eq.refl (Source.edgeList edges).read) s
  cases hbuilt : ((ofEdges edges).run s).result with
  | error fault =>
      rw [hbuilt] at hsettles
      cases hsettles with
      | refused hcyclic _ => exact absurd hedges hcyclic
  | ok built =>
      rw [hbuilt] at hsettles
      cases hsettles with
      | built _ _ hlists =>
          refine ⟨built, rfl, ?_⟩
          refine (List.perm_ext_iff_of_nodup hlists.edges_nodup h.wellFormed.nodup_edges).mpr ?_
          intro edge
          rw [hlists.mem_edges_iff, hperm.mem_iff]

end Graph

/--
A build succeeds exactly if its edges are a hierarchy, and then the graph has these edges and their
ends as vertices; otherwise it fails for a cycle.  So builds from the same set of edges come to the
same, and the edges of any graph build it again.
-/
theorem builds_settled_by_edge_set {σ : Type} (s : σ) :
    (forall (source : Graph.Source) (edges : List Relationship), source.read = .ok edges ->
      Graph.Settles edges ((source.build.run s).result)) ∧
    (forall (first second : Graph.Source) (edges more : List Relationship),
      first.read = .ok edges -> second.read = .ok more ->
      (forall edge, edge ∈ edges ↔ edge ∈ more) ->
      Graph.BuiltAlike ((first.build.run s).result) ((second.build.run s).result)) ∧
    forall (graph : Graph) (edges : List Relationship), graph.Reachable ->
      edges.Perm graph.edges ->
      exists built, ((Graph.ofEdges edges).run s).result = .ok built ∧
        built.edges.Perm graph.edges := by
  refine ⟨?_, ?_, ?_⟩
  · intro source edges hread
    exact Graph.Source.settles hread s
  · intro first second edges more hfirst hsecond hsame
    exact Graph.builtAlike_of_settles hsame (Graph.Source.settles hfirst s)
      (Graph.Source.settles hsecond s)
  · intro graph edges hreachable hperm
    exact hreachable.sound.rebuild hperm s

theorem builds_settled_by_edge_set_of_a_chain :
    let clerk : Name := .ofText "clerk" rfl
    let boss : Name := .ofText " Boss " rfl
    let owner : Name := .ofText "owner" rfl
    let rows : Graph.Source :=
      .rowList [Graph.rowOf clerk [boss], Graph.rowOf boss [owner]]
    let list : Graph.Source := .edgeList [⟨boss, owner⟩, ⟨clerk, boss⟩, ⟨boss, owner⟩]
    let call : GraphCall := .addEdge (some "clerk") (some "boss")
    let graph := (call.perform.run .empty).state
    Graph.Settles [⟨clerk, boss⟩, ⟨boss, owner⟩] ((rows.build.run ()).result) ∧
      Graph.BuiltAlike ((rows.build.run ()).result) ((list.build.run ()).result) ∧
      graph.edges = [⟨clerk, boss⟩] ∧
      exists built, ((Graph.ofEdges graph.edges.reverse).run ()).result = .ok built ∧
        built.edges.Perm graph.edges := by
  intro clerk boss owner rows list call graph
  have hread : forall a b c : Name,
      (Graph.Source.rowList [Graph.rowOf a [b], Graph.rowOf b [c]]).read =
        .ok [⟨a, b⟩, ⟨b, c⟩] := by
    intro a b c
    exact Graph.readRows_rowOf [(a, [b]), (b, [c])]
  have hsame : forall (a b c : Name) (edge : Relationship),
      edge ∈ [⟨a, b⟩, ⟨b, c⟩] ↔ edge ∈ [⟨b, c⟩, ⟨a, b⟩, ⟨b, c⟩] := by
    intro a b c edge
    simp only [List.mem_cons, List.not_mem_nil, or_false]
    tauto
  have hreachable : graph.Reachable := Graph.Reachable.fresh.edited call
  rcases builds_settled_by_edge_set () with ⟨hsettles, halike, hrebuild⟩
  refine ⟨hsettles rows _ (hread clerk boss owner), ?_, by decide +kernel, ?_⟩
  · exact halike rows list _ _ (hread clerk boss owner) rfl (hsame clerk boss owner)
  · exact hrebuild graph _ hreachable (List.reverse_perm _)

end Entitlement
