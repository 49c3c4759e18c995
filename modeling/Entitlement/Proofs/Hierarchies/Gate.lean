import Entitlement.Proofs.Graph.Gate
import Entitlement.Proofs.Hierarchies.View

/-!
# The gate of live hierarchies

Live hierarchies put their gate in front of the graph that they serve for the tenant of the child.
What the gate says there, it says about the edits of this graph and about the updates of the live
hierarchies, which edit the same graph; and after an update that succeeds it has changed its mind
accordingly.
-/

namespace Entitlement

namespace Graph

variable {graph : Graph} {edge : Relationship} {child parent : Option String}

theorem effect_dropEdgeBetween_of_parse (hedge : Relationship.parse child parent = .ok edge) :
    (dropEdgeBetween child parent).effect graph = (dropEdge edge).effect graph := by
  unfold dropEdgeBetween
  rw [hedge]

/-- What the gate says of two texts is what the edits of the graph answer, before and after. -/
structure Gated (graph : Graph) (child parent : Option String) (edge : Relationship) : Prop where
  concordant : Concordant edge (graph.check child parent) (graph.validate child parent)
    ((addEdgeBetween child parent).effect graph).1 ((dropEdgeBetween child parent).effect graph).1
  after_add : forall changed now, (addEdgeBetween child parent).effect graph = (.ok changed, now) ->
    now.check child parent true = .ok none
  after_remove : forall now, (dropEdgeBetween child parent).effect graph = (.ok true, now) ->
    now.check child parent false = .ok none

theorem Sound.concordant_of_parse (h : graph.Sound)
    (hedge : Relationship.parse child parent = .ok edge) :
    Concordant edge (graph.check child parent) (graph.validate child parent)
      ((addEdgeBetween child parent).effect graph).1
      ((dropEdgeBetween child parent).effect graph).1 := by
  have hcheck : graph.check child parent = fun mustExist => .ok (graph.violation? edge mustExist) :=
    funext (check_of_parse hedge)
  have hvalidate : graph.validate child parent =
      fun mustExist => enforce mustExist (graph.violation? edge mustExist) :=
    funext (validate_of_parse hedge)
  rw [hcheck, hvalidate, effect_addEdgeBetween_of_parse hedge,
    effect_dropEdgeBetween_of_parse hedge]
  exact h.concordant edge

theorem Sound.gated (h : graph.Sound) (hedge : Relationship.parse child parent = .ok edge) :
    graph.Gated child parent edge where
  concordant := h.concordant_of_parse hedge
  after_add := by
    intro changed now hadd
    rw [effect_addEdgeBetween_of_parse hedge] at hadd
    have hchanges : Changes graph edge .add changed now := h.changes hadd
    rw [check_of_parse hedge, hchanges.found_after_add]
  after_remove := by
    intro now hremove
    rw [effect_dropEdgeBetween_of_parse hedge] at hremove
    have hchanges : Changes graph edge .remove true now := h.changes hremove
    rw [check_of_parse hedge, hchanges.found_after_remove h]

end Graph

namespace Hierarchies

variable {σ : Type} {directory : Directory σ} {kind : HierarchyKind} {h next : Hierarchies σ}
  {graph : Graph} {child parent : Entity} {edge : Relationship} {change : Change} {changed : Bool}

/-- What the gate says of two entities, and what the edits of a served graph and updates answer. -/
structure Gated (directory : Directory σ) (kind : HierarchyKind) (h : Hierarchies σ)
    (child parent : Entity) (edge : Relationship) (graph : Graph) : Prop where
  concordant : Concordant edge
    (fun mustExist => ((check directory kind child parent mustExist).run h).result)
    (fun mustExist => ((validate directory kind child parent mustExist).run h).result)
    ((Graph.addEdgeBetween child.name parent.name).effect graph).1
    ((Graph.dropEdgeBetween child.name parent.name).effect graph).1
  add_eq : ((update directory kind child.context edge (some Change.add.label)).run h).result =
    ((Graph.addEdgeBetween child.name parent.name).effect graph).1
  remove_eq :
    ((update directory kind child.context edge (some Change.remove.label)).run h).result =
      ((Graph.dropEdgeBetween child.name parent.name).effect graph).1
  after_add : forall changed next,
    (update directory kind child.context edge (some Change.add.label)).effect h =
      (.ok changed, next) ->
    ((check directory kind child parent true).run next).result = .ok none
  after_remove : forall next,
    (update directory kind child.context edge (some Change.remove.label)).effect h =
      (.ok true, next) ->
    ((check directory kind child parent false).run next).result = .ok none

theorem result_check (hview : view directory h (h.cache.key kind child.context) = .ok graph)
    (mustExist : Bool) :
    ((check directory kind child parent mustExist).run h).result =
      graph.check child.name parent.name mustExist := by
  rw [Action.result_eq_effect]
  unfold check
  rw [Action.effect_bind, result_graph, hview]
  rfl

theorem result_validate (hview : view directory h (h.cache.key kind child.context) = .ok graph)
    (mustExist : Bool) :
    ((validate directory kind child parent mustExist).run h).result =
      graph.validate child.name parent.name mustExist := by
  rw [Action.result_eq_effect]
  unfold validate
  rw [Action.effect_bind, result_graph, hview]
  rfl

theorem Carried.result_check {before now : Graph}
    (hcarried : Carried directory (h.cache.key kind child.context) edge change changed h next
      before now)
    (hedge : Relationship.parse child.name parent.name = .ok edge) (mustExist : Bool) :
    ((check directory kind child parent mustExist).run next).result =
      .ok (now.violation? edge mustExist) := by
  have hview : view directory next (next.cache.key kind child.context) = .ok now := by
    rw [hcarried.besides.key_eq]
    exact view_of_loaded hcarried.open_after hcarried.loaded
  rw [Hierarchies.result_check hview, Graph.check_of_parse hedge]

theorem gated_of_view (hview : view directory h (h.cache.key kind child.context) = .ok graph)
    (hgraph : graph.Sound) (hedge : Relationship.parse child.name parent.name = .ok edge) :
    Gated directory kind h child parent edge graph where
  concordant := by
    simp only [result_check hview, result_validate hview]
    exact hgraph.concordant_of_parse hedge
  add_eq := by
    rw [Action.result_eq_effect, result_update hview (Change.parse_label .add),
      Graph.effect_addEdgeBetween_of_parse hedge]
    rfl
  remove_eq := by
    rw [Action.result_eq_effect, result_update hview (Change.parse_label .remove),
      Graph.effect_dropEdgeBetween_of_parse hedge]
    rfl
  after_add := by
    intro changed next hupdate
    rcases carried_of_view hview hgraph (Change.parse_label .add) hupdate with ⟨now, hcarried⟩
    rw [hcarried.result_check hedge, hcarried.changes.found_after_add]
  after_remove := by
    intro next hupdate
    rcases carried_of_view hview hgraph (Change.parse_label .remove) hupdate with ⟨now, hcarried⟩
    rw [hcarried.result_check hedge, hcarried.changes.found_after_remove hgraph]

end Hierarchies

/--
For any two names, a check of an edge that must exist passes exactly if the edge can be removed, and
a check of one that must not exist passes exactly if adding it succeeds or closes a cycle.  What a
check reports is what the edit would answer and what a validation fails for; and all this holds of
a graph by itself and of live hierarchies that serve it.
-/
theorem gate_agrees_with_edits {graph : Graph} (hreachable : graph.Reachable) :
    (forall (child parent : String) (hchild : Text.blank child = false)
      (hparent : Text.blank parent = false),
      graph.Gated (some child) (some parent) ⟨.ofText child hchild, .ofText parent hparent⟩) ∧
    forall (σ : Type) (directory : Directory σ) (kind : HierarchyKind) (h : Hierarchies σ)
      (child parent : Entity) (lower upper : Name),
      ((Hierarchies.graph directory kind child.context).run h).result = .ok graph ->
      Name.parse child.name = .ok lower -> Name.parse parent.name = .ok upper ->
      Hierarchies.Gated directory kind h child parent ⟨lower, upper⟩ graph := by
  constructor
  · intro child parent hchild hparent
    exact hreachable.sound.gated (Relationship.parse_of_not_blank hchild hparent)
  · intro σ directory kind h child parent lower upper hserved hchild hparent
    rw [Action.result_eq_effect, Hierarchies.result_graph] at hserved
    exact Hierarchies.gated_of_view hserved hreachable.sound
      (Relationship.parse_of_names hchild hparent)

theorem gate_agrees_with_edits_of_a_chain :
    let clerk : Name := .ofText "clerk" rfl
    let boss : Name := .ofText "boss" rfl
    let owner : Name := .ofText "owner" rfl
    let child : Entity := .ofRole ⟨some "Clerk", some " NULL ", [], none, false⟩
    let parent : Entity := .ofRole ⟨some " boss ", none, [], none, false⟩
    exists (graph : Graph) (h next : Hierarchies Store),
      graph.Reachable ∧ graph.edges = [⟨clerk, boss⟩, ⟨boss, owner⟩] ∧
        graph.check (some " Owner ") (some "clerk") false = .ok none ∧
        ((Hierarchies.graph Store.directory .role child.context).run h).result = .ok graph ∧
        ((Hierarchies.check Store.directory .role child parent true).run h).result = .ok none ∧
        (Hierarchies.update Store.directory .role child.context ⟨clerk, boss⟩
          (some Change.remove.label)).effect h = (.ok true, next) ∧
        ((Hierarchies.check Store.directory .role child parent false).run next).result =
          .ok none := by
  intro clerk boss owner child parent
  let build : GraphCall := .addEdge (some "clerk") (some "boss")
  let extend : GraphCall := .addEdge (some "boss") (some "owner")
  let refusal (fault : Fault) : Bool :=
    fault.isCycle && decide (fault.kind? = some .cycle)
  let graph : Graph := (extend.perform.run (build.perform.run .empty).state).state
  have hreachable : graph.Reachable := (Graph.Reachable.fresh.edited build).edited extend
  have hedges : graph.edges = [⟨clerk, boss⟩, ⟨boss, owner⟩] := by decide +kernel
  have hrefused : Action.failsWith refusal
      ((Graph.addEdgeBetween (some " Owner ") (some "clerk")).effect graph).1 = true := by
    decide +kernel
  have hdropped : ((Graph.dropEdgeBetween child.name parent.name).effect graph).1 = .ok true :=
    Action.eq_ok_of_toOption (by decide +kernel)
  clear_value graph
  rcases gate_agrees_with_edits hreachable with ⟨hdirect, hservice⟩
  rcases Action.exists_of_failsWith hrefused with ⟨fault, hfault, hsort⟩
  rcases (Bool.and_eq_true _ _).mp hsort with ⟨hcycle, hkind⟩
  have hclosing : RefusedAs .cycle
      ((Graph.addEdgeBetween (some " Owner ") (some "clerk")).effect graph).1 :=
    ⟨fault, hfault, of_decide_eq_true hcycle, of_decide_eq_true hkind⟩
  let h : Hierarchies Store :=
    ⟨(Cache.empty "null").publish ⟨.role, ""⟩ graph, Store.empty "null"⟩
  have hkey : h.cache.key .role child.context = ⟨.role, ""⟩ := by
    show HierarchyKey.of "null" .role (some " NULL ") = ⟨.role, ""⟩
    decide +kernel
  have hloaded : h.cache.graph? (h.cache.key .role child.context) = some graph := by
    rw [hkey, Cache.graph?_publish, if_pos rfl]
  have hserved : ((Hierarchies.graph Store.directory .role child.context).run h).result =
      .ok graph :=
    Hierarchies.result_graph_of_loaded Store.directory rfl hloaded
  have hgated := hservice Store Store.directory .role h child parent clerk boss hserved
    (by decide +kernel) (by decide +kernel)
  have hresult := hgated.remove_eq.trans hdropped
  rw [Action.result_eq_effect] at hresult
  have hupdate : (Hierarchies.update Store.directory .role child.context ⟨clerk, boss⟩
      (some Change.remove.label)).effect h = (.ok true, _) := Prod.ext hresult rfl
  have hfree := (hdirect " Owner " "clerk" (by decide +kernel) (by decide +kernel)).concordant
  exact ⟨graph, h, _, hreachable, hedges, hfree.absent_iff.mpr (Or.inr hclosing), hserved,
    hgated.concordant.present_iff.mpr hdropped, hupdate, hgated.after_remove _ hupdate⟩

end Entitlement
