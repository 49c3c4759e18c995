import Entitlement.Directory.Memory
import Entitlement.Hierarchies.Query
import Entitlement.Proofs.Graph.History
import Entitlement.Proofs.Hierarchies.Refresh

/-!
# Every published graph is sound

Live hierarchies are sound if every graph in their cache is.  A cache starts without graphs, a build
publishes the graph of some rows, and a change publishes an edited graph; so the live hierarchies
stay sound whatever the directory answers and however it changes.
-/

namespace Entitlement
namespace Hierarchies

variable {σ : Type}

def Sound (h : Hierarchies σ) : Prop :=
  forall key graph, h.cache.graph? key = some graph -> graph.Sound

def KeepsSound (before after : Hierarchies σ) : Prop :=
  before.Sound -> after.Sound

instance : IsPreorder (Hierarchies σ) KeepsSound where
  refl := fun _ h => h
  trans := fun _ _ _ hfirst hsecond h => hsecond (hfirst h)

theorem sound_of_graph?_eq_none {h : Hierarchies σ}
    (hnone : forall key, h.cache.graph? key = none) :
    h.Sound := by
  intro key graph hgraph
  rw [hnone key] at hgraph
  cases hgraph

theorem sound_of_lists {directory : Directory σ} {state : σ} {key : HierarchyKey} {graph : Graph}
    (h : Lists directory state key graph) : graph.Sound := by
  rcases h with ⟨rows, _, hrows⟩
  exact Graph.sound_of_edited Graph.sound_empty (Graph.moves_addRows rows) hrows

theorem Refreshes.keepsSound {directory : Directory σ} {same : σ -> σ -> Prop}
    {before after : Hierarchies σ} (h : Refreshes directory same before after) :
    KeepsSound before after := by
  intro hsound key graph hgraph
  rcases h.graph_cases key graph hgraph with hold | ⟨state, _, hlists⟩
  · exact hsound key graph hold
  · exact sound_of_lists hlists

theorem moves_keepsSound {α : Type} (directory : Directory σ) {x : Action (Hierarchies σ) α}
    (h : x.Moves (Refreshes directory Unrelated)) : x.Moves KeepsSound :=
  fun before => (h before).keepsSound

theorem sound_of_graph {directory : Directory σ} {kind : HierarchyKind} {context : Option String}
    {h state : Hierarchies σ} (hsound : h.Sound) {graph : Graph}
    (hgraph : (Hierarchies.graph directory kind context).effect h = (.ok graph, state)) :
    graph.Sound := by
  have hmoved : (Hierarchies.graph directory kind context).Moves (Refreshes directory Unrelated) :=
    moves_graph (fun _ _ _ => trivial) kind context
  have hkept := moves_keepsSound directory hmoved h hsound
  rw [Action.state_eq_effect, hgraph] at hkept
  exact hkept _ graph (graph?_of_graph hgraph)

theorem Sound.afterChange {h : Hierarchies σ} (hsound : h.Sound) {graph : Graph}
    (hgraph : graph.Sound) (key : HierarchyKey) (changed : Bool) :
    (h.afterChange key graph changed).Sound := by
  intro other published hpublished
  rw [graph?_afterChange] at hpublished
  split at hpublished
  · cases hpublished
    exact hgraph
  · exact hsound other published hpublished

theorem hasEdge_of_afterChange {h : Hierarchies σ} {key : HierarchyKey}
    {current updated graph : Graph} {edge : Relationship} {change : Change} {changed : Bool}
    (hloaded : h.cache.graph? key = some current)
    (hchanges : Graph.Changes current edge change changed updated)
    (hgraph : (h.afterChange key updated changed).cache.graph? key = some graph)
    (other : Relationship) :
    graph.hasEdge other = if other = edge then change.leavesEdge else current.hasEdge other := by
  rw [graph?_afterChange] at hgraph
  cases changed with
  | true =>
      rw [if_pos ⟨rfl, rfl⟩] at hgraph
      rw [← Option.some.inj hgraph]
      exact hchanges.hasEdge_eq other
  | false =>
      rw [if_neg fun hboth => Bool.false_ne_true hboth.1, hloaded] at hgraph
      rw [← Option.some.inj hgraph]
      exact hchanges.hasEdge_of_unchanged other

theorem moves_change (directory : Directory σ) (kind : HierarchyKind) (context : Option String)
    (edge : Relationship) (label : Option String) :
    (change directory kind context edge label).Moves KeepsSound := by
  intro h hsound
  rw [Action.state_eq_effect]
  rcases change_cases Unrelated (fun _ _ _ => trivial) kind context edge label h with
    ⟨fault, state, hstate, hfail⟩ |
    ⟨state, current, change, changed, updated, hstate, hloaded, _, happly, hchange⟩
  · rw [hfail]
    exact hstate.keepsSound hsound
  · rw [hchange]
    have hready := hstate.keepsSound hsound
    exact hready.afterChange ((hready _ current hloaded).changes happly).sound _ changed

theorem effect_update (directory : Directory σ) (kind : HierarchyKind)
    (context : Option String) (edge : Relationship) (label : Option String) (h : Hierarchies σ) :
    (update directory kind context edge label).effect h =
      (change directory kind context edge label).effect h := by
  unfold update
  rw [Action.effect_bind, Action.effect_attempt]
  rcases (change directory kind context edge label).effect h with ⟨result, state⟩
  cases result with
  | error fault =>
      simp only
      split
      · rfl
      · rfl
  | ok changed => rfl

theorem moves_update (directory : Directory σ) (kind : HierarchyKind) (context : Option String)
    (edge : Relationship) (label : Option String) :
    (update directory kind context edge label).Moves KeepsSound := by
  refine (moves_change directory kind context edge label).attempt.bind fun answer => ?_
  split
  · split
    · exact (Action.moves_report _ _ _).bind fun _ => Action.moves_fail _
    · exact Action.moves_fail _
  · exact (Action.moves_report _ _ _).map _

theorem moves_close : (close : Action (Hierarchies σ) Unit).Moves KeepsSound := by
  intro h _
  rw [Action.state_eq_effect, effect_close]
  exact sound_of_graph?_eq_none fun key => Cache.graph?_close _ key

/-!
# Runs of live hierarchies
-/

inductive Call where
  | graph (kind : HierarchyKind) (context : Option String)
  /-- A change as far as its graph is at hand, when a graph that was built for it is published. -/
  | prepare (kind : HierarchyKind) (context : Option String)
  | change (kind : HierarchyKind) (context : Option String) (edge : Relationship)
      (label : Option String)
  | invalidate (kind : HierarchyKind) (context : Option String)
  | clear
  | close

def Call.perform (directory : Directory σ) : Call -> Action (Hierarchies σ) Unit
  | .graph kind context => do
      let _ ← Hierarchies.graph directory kind context
  | .prepare kind context => do
      let _ ← Hierarchies.prepare directory kind context
  | .change kind context edge label => do
      let _ ← Hierarchies.change directory kind context edge label
  | .invalidate kind context => do
      let _ ← Hierarchies.invalidate kind context
  | .clear => Hierarchies.clear
  | .close => Hierarchies.close

theorem Call.moves_perform (directory : Directory σ) (call : Call) :
    (call.perform directory).Moves KeepsSound := by
  have hlist : forall kind context, (directory.list kind context).Moves Unrelated :=
    fun _ _ _ => trivial
  cases call with
  | graph kind context =>
      apply Action.Moves.map
      exact moves_keepsSound directory (moves_graph hlist kind context)
  | prepare kind context =>
      apply Action.Moves.map
      exact moves_keepsSound directory (moves_prepare hlist kind context)
  | change kind context edge label =>
      exact (moves_change directory kind context edge label).map _
  | invalidate kind context =>
      apply Action.Moves.map
      exact moves_keepsSound directory (moves_invalidate kind context)
  | clear => exact moves_keepsSound directory moves_clear
  | close => exact moves_close

/-- The live hierarchies that calls lead to, whatever happens to the directory meanwhile. -/
inductive Reached (directory : Directory σ) (sentinel : String) : Hierarchies σ -> Prop where
  | start (state : σ) : Reached directory sentinel ⟨Cache.empty sentinel, state⟩
  | call {h : Hierarchies σ} (call : Call) : Reached directory sentinel h ->
      Reached directory sentinel ((call.perform directory).run h).state
  | outside {h : Hierarchies σ} (state : σ) : Reached directory sentinel h ->
      Reached directory sentinel { h with directory := state }

theorem sound_of_reached {directory : Directory σ} {sentinel : String} {h : Hierarchies σ}
    (hreached : Reached directory sentinel h) : h.Sound := by
  induction hreached with
  | start state => exact sound_of_graph?_eq_none fun _ => rfl
  | call call _ ih => exact call.moves_perform directory _ ih
  | outside state _ ih => exact ih

end Hierarchies

/-- However a graph comes about, its names are strictly ordered. -/
theorem every_graph_ordered :
    (forall graphs graph, Graph.Held graphs -> graph ∈ graphs -> graph.Ordered) ∧
      (forall (σ : Type) (edges : List Relationship) (state : σ) (graph : Graph),
        ((Graph.ofEdges edges).run state).result = .ok graph -> graph.Ordered) ∧
      (forall (σ : Type) (rows : List Row) (state : σ) (graph : Graph),
        ((Graph.ofRows rows).run state).result = .ok graph -> graph.Ordered) ∧
      forall (σ : Type) (directory : Directory σ) (sentinel : String) (h : Hierarchies σ),
        Hierarchies.Reached directory sentinel h -> forall key graph,
          h.cache.graph? key = some graph -> graph.Ordered := by
  refine ⟨?_, ?_, ?_, ?_⟩
  · intro graphs graph hheld hgraph
    exact (Graph.sound_of_held hheld hgraph).ordered
  · intro σ edges state graph hresult
    rw [Action.result_eq_effect, Graph.effect_ofEdges] at hresult
    exact (Graph.sound_of_edited Graph.sound_empty (Graph.moves_addEdges edges) hresult).ordered
  · intro σ rows state graph hresult
    rw [Action.result_eq_effect, Graph.effect_ofRows] at hresult
    exact (Graph.sound_of_edited Graph.sound_empty (Graph.moves_addRows rows) hresult).ordered
  · intro σ directory sentinel h hreached key graph hgraph
    exact (Hierarchies.sound_of_reached hreached key graph hgraph).ordered

theorem graphs_with_an_edge_ordered :
    let edge : Relationship := ⟨.ofText "clerk" rfl, .ofText " Boss " rfl⟩
    (exists graph, Graph.Held [graph] ∧ graph.hasEdge edge = true ∧ graph.Ordered) ∧
      (exists graph, ((Graph.ofEdges [edge]).run ()).result = .ok graph ∧ graph.Ordered) ∧
      (exists graph, ((Graph.ofRows [.pair (some "clerk") (some [some "boss"])]).run ()).result =
        .ok graph ∧ graph.Ordered) ∧
      exists h graph, Hierarchies.Reached Store.directory "null" h ∧
        h.cache.graph? ⟨.role, ""⟩ = some graph ∧ graph.hasEdge edge = true ∧ graph.Ordered := by
  intro edge
  refine ⟨?_, ?_, ?_, ?_⟩
  · have hfresh : Graph.Held [.empty] := Graph.Held.fresh Graph.Held.nothing
    have hheld : Graph.Held [(((GraphCall.apply edge (some "add")).perform).run .empty).state] :=
      hfresh.edit (i := 0) (.apply edge (some "add")) rfl
    exact ⟨_, hheld, by decide +kernel,
      every_graph_ordered.1 _ _ hheld (List.mem_singleton.mpr rfl)⟩
  · have hok : ((Graph.ofEdges [edge]).run ()).result.isOk = true := by decide +kernel
    rcases Action.exists_of_isOk hok with ⟨graph, hgraph⟩
    exact ⟨graph, hgraph, every_graph_ordered.2.1 Unit _ () graph hgraph⟩
  · have hok : ((Graph.ofRows [.pair (some "clerk") (some [some "boss"])]).run ()).result.isOk =
        true := by decide +kernel
    rcases Action.exists_of_isOk hok with ⟨graph, hgraph⟩
    exact ⟨graph, hgraph, every_graph_ordered.2.2.1 Unit _ () graph hgraph⟩
  · let call : Hierarchies.Call := .change .role (some " NULL ") edge (some "add")
    have hreached : Hierarchies.Reached Store.directory "null"
        ((call.perform Store.directory).run ⟨Cache.empty "null", Store.empty "null"⟩).state :=
      .call call (.start (Store.empty "null"))
    have hloaded : (((call.perform Store.directory).run
        ⟨Cache.empty "null", Store.empty "null"⟩).state.cache.graph? ⟨.role, ""⟩).any
          (·.hasEdge edge) = true := by decide +kernel
    rcases (Option.any_eq_true _ _).mp hloaded with ⟨graph, hgraph, hedge⟩
    exact ⟨_, graph, hreached, hgraph, hedge,
      every_graph_ordered.2.2.2 Store Store.directory "null" _ hreached _ _ hgraph⟩

end Entitlement
