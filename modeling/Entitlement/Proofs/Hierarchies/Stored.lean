import Entitlement.Proofs.Directory.Memory
import Entitlement.Proofs.Hierarchies.Sound

/-!
# Live hierarchies over a store

A build from a well-formed store publishes a graph with exactly the stored edges, unless they have a
cycle.  The cache and the store normalize contexts apart from each other, so they must be configured
with the same sentinel to mean the same hierarchy by a context.
-/

namespace Entitlement
namespace Hierarchies

/-- An open cache and a well-formed store that agree about contexts. -/
structure Ready (h : Hierarchies Store) : Prop where
  wellFormed : h.directory.WellFormed
  sentinel_eq : h.directory.sentinel = h.cache.sentinel
  is_open : h.cache.closed = false
  sound : h.Sound

variable {h before after : Hierarchies Store}

theorem Ready.key_eq (hready : h.Ready) (kind : HierarchyKind) (context : Option String) :
    h.directory.key kind context = h.cache.key kind context := by
  unfold Store.key Cache.key
  rw [hready.sentinel_eq]

theorem moves_listing (kind : HierarchyKind) (context : Option String) :
    (Store.directory.list kind context).Moves Store.SameEdges :=
  Store.moves_list kind context

theorem Ready.refreshes (hready : before.Ready)
    (hrefresh : Refreshes Store.directory Store.SameEdges before after) : after.Ready where
  wellFormed := hrefresh.directory_same.wellFormed hready.wellFormed
  sentinel_eq := by
    rw [hrefresh.directory_same.1, hrefresh.sentinel_eq]
    exact hready.sentinel_eq
  is_open := hrefresh.closed_eq.trans hready.is_open
  sound := hrefresh.keepsSound hready.sound

theorem key_of_refreshes (hrefresh : Refreshes Store.directory Store.SameEdges before after)
    (kind : HierarchyKind) (context : Option String) :
    after.cache.key kind context = before.cache.key kind context := by
  unfold Cache.key
  rw [hrefresh.sentinel_eq]

theorem Ready.afterChange (hready : h.Ready) {graph : Graph} (hgraph : graph.Sound)
    (key : HierarchyKey) (changed : Bool) : (h.afterChange key graph changed).Ready where
  wellFormed := hready.wellFormed
  sentinel_eq := hready.sentinel_eq.trans (sentinel_afterChange h key graph changed).symm
  is_open := (closed_afterChange h key graph changed).trans hready.is_open
  sound := hready.sound.afterChange hgraph key changed

theorem Ready.written (hready : h.Ready) (key : HierarchyKey) (edge : Relationship)
    (change : Change) :
    ({ h with directory := h.directory.written key edge change } : Hierarchies Store).Ready where
  wellFormed := hready.wellFormed.written key edge change
  sentinel_eq := (Store.sentinel_written _ key edge change).trans hready.sentinel_eq
  is_open := hready.is_open
  sound := hready.sound

theorem key_afterChange (key : HierarchyKey) (graph : Graph) (changed : Bool)
    (kind : HierarchyKind) (context : Option String) :
    (h.afterChange key graph changed).cache.key kind context = h.cache.key kind context := by
  unfold Cache.key
  rw [sentinel_afterChange]

/-!
# Graphs that are built from the store
-/

theorem list_of_key (store : Store) (kind : HierarchyKind) (context : Option String) :
    ((Store.directory.list (store.key kind context).kind
      (some (store.key kind context).context)).effect store).1 =
        .ok (Store.Lineage.rows (store.lineage (store.key kind context))) := by
  have hkey : store.key (store.key kind context).kind (some (store.key kind context).context) =
      store.key kind context := HierarchyKey.of_of store.sentinel kind context
  exact (Store.effect_list _ _ store).trans (by rw [hkey])

theorem hasEdge_of_lists {store : Store} (hstore : store.WellFormed) {kind : HierarchyKind}
    {context : Option String} {graph : Graph}
    (hlists : Lists Store.directory store (store.key kind context) graph) (edge : Relationship) :
    graph.hasEdge edge = store.hasEdge (store.key kind context) edge := by
  rcases hlists with ⟨rows, hrows, hgraph⟩
  rw [list_of_key store kind context] at hrows
  rw [← Except.ok.inj hrows] at hgraph
  rcases hstore.rows_cases (store.key kind context) with
    ⟨listed, hlisted, _, hedges⟩ | ⟨fault, hfault, _⟩
  · rw [hgraph] at hlisted
    rw [Except.ok.inj hlisted]
    exact hedges edge
  · rw [hgraph] at hfault
    cases hfault

theorem Ready.build_cases (hready : h.Ready) (kind : HierarchyKind) (context : Option String) :
    (exists graph, ((build Store.directory (h.cache.key kind context)).effect h).1 = .ok graph ∧
        graph.Sound ∧
        forall edge, graph.hasEdge edge = h.directory.hasEdge (h.cache.key kind context) edge) ∨
      exists fault, ((build Store.directory (h.cache.key kind context)).effect h).1 = .error fault ∧
        fault.isCycle = true ∧ ¬ h.directory.Acyclic (h.cache.key kind context) := by
  have hrows := list_of_key h.directory kind context
  rw [hready.key_eq] at hrows
  rw [effect_build]
  rcases hlist : (Store.directory.list (h.cache.key kind context).kind
    (some (h.cache.key kind context).context)).effect h.directory with ⟨result, state⟩
  rw [hlist] at hrows
  cases hrows
  rcases hready.wellFormed.rows_cases (h.cache.key kind context) with
    ⟨graph, hgraph, hsound, hedges⟩ | ⟨fault, hfault, hcycle, hstore⟩
  · simp only [hgraph]
    exact Or.inl ⟨graph, rfl, hsound, hedges⟩
  · simp only [hfault]
    refine Or.inr ⟨fault, ?_, hcycle, hstore⟩
    unfold refused
    rw [if_pos (Fault.isOwn_of_isCycle hcycle)]

theorem Ready.graph_cases (hready : h.Ready) (kind : HierarchyKind) (context : Option String)
    (hnone : h.cache.graph? (h.cache.key kind context) = none) :
    (exists answered, ((graph Store.directory kind context).effect h).1 = .ok answered ∧
        answered.Sound ∧
        forall edge, answered.hasEdge edge = h.directory.hasEdge (h.cache.key kind context) edge) ∨
      exists fault, ((graph Store.directory kind context).effect h).1 = .error fault ∧
        fault.isCycle = true ∧ ¬ h.directory.Acyclic (h.cache.key kind context) := by
  rw [effect_graph, if_neg (Bool.eq_false_iff.mp hready.is_open), hnone]
  let entered : Hierarchies Store :=
    { h with
      cache := (h.cache.withEntry (h.cache.key kind context)).count fun counts =>
        { counts with misses := counts.misses + 1 } }
  have hsentinel : entered.cache.sentinel = h.cache.sentinel := Cache.sentinel_withEntry _ _
  have hentered : entered.Ready :=
    { wellFormed := hready.wellFormed
      sentinel_eq := hready.sentinel_eq.trans hsentinel.symm
      is_open := (Cache.closed_withEntry _ _).trans hready.is_open
      sound := fun key graph hgraph =>
        hready.sound key graph ((Cache.graph?_withEntry _ _ key).symm.trans hgraph) }
  have hkey : entered.cache.key kind context = h.cache.key kind context := by
    unfold Cache.key
    rw [hsentinel]
  have hbuild := hentered.build_cases kind context
  rw [hkey] at hbuild
  exact hbuild

/-!
# Reloading
-/

def reload {σ : Type} (directory : Directory σ) (kind : HierarchyKind) (context : Option String) :
    Action (Hierarchies σ) Graph := do
  let _ ← invalidate kind context
  graph directory kind context

theorem graph?_invalidate {σ : Type} (kind : HierarchyKind) (context : Option String)
    (h : Hierarchies σ) :
    ((invalidate kind context : Action (Hierarchies σ) Bool).effect h).2.cache.graph?
      (h.cache.key kind context) = none := by
  rw [effect_invalidate]
  split
  · rw [Cache.graph?_count, Cache.graph?_drop, if_pos rfl]
  · rename_i hloaded
    exact Option.not_isSome_iff_eq_none.mp hloaded

/-- Reloading answers the stored edges, unless they have a cycle. -/
theorem Ready.reload_cases (hready : h.Ready) (kind : HierarchyKind) (context : Option String) :
    (exists answered, ((reload Store.directory kind context).effect h).1 = .ok answered ∧
        answered.Sound ∧
        forall edge, answered.hasEdge edge = h.directory.hasEdge (h.cache.key kind context) edge) ∨
      exists fault, ((reload Store.directory kind context).effect h).1 = .error fault ∧
        fault.isCycle = true ∧ ¬ h.directory.Acyclic (h.cache.key kind context) := by
  have hmoved : Refreshes Store.directory Store.SameEdges h _ := moves_invalidate kind context h
  have hnone := graph?_invalidate kind context h
  have hok : exists dropped,
      ((invalidate kind context : Action (Hierarchies Store) Bool).effect h).1 = .ok dropped := by
    rw [effect_invalidate]
    split
    · exact ⟨true, rfl⟩
    · exact ⟨false, rfl⟩
  rw [Action.state_eq_effect] at hmoved
  unfold reload
  rw [Action.effect_bind]
  rcases hdrop : (invalidate kind context : Action (Hierarchies Store) Bool).effect h with
    ⟨result, state⟩
  rw [hdrop] at hmoved hnone hok
  rcases hok with ⟨dropped, hdropped⟩
  rw [hdropped]
  have hkey := key_of_refreshes hmoved kind context
  rw [← hkey] at hnone
  have hcases := (hready.refreshes hmoved).graph_cases kind context hnone
  unfold Store.Acyclic Store.Edge at hcases ⊢
  simp only [hmoved.directory_same.hasEdge_eq, hkey] at hcases
  exact hcases

end Hierarchies
end Entitlement
