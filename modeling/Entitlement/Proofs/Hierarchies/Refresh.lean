import Entitlement.Proofs.Hierarchies.Effect

/-!
# Graphs come from the directory

Apart from the changes that are announced to them, live hierarchies only ever drop graphs and build
them from what the directory lists.  A directory may change while it is asked; the relation `same`
says how far, and a build sees it as it is at that time.
-/

namespace Entitlement
namespace Hierarchies

variable {σ : Type}

def Lists (directory : Directory σ) (state : σ) (key : HierarchyKey) (graph : Graph) : Prop :=
  exists rows, ((directory.list key.kind (some key.context)).effect state).1 = .ok rows ∧
    Graph.empty.edited (Graph.addRows rows) = .ok graph

/-- Every graph of the second live hierarchies is one of the first, or is listed in between. -/
structure Refreshes (directory : Directory σ) (same : σ -> σ -> Prop)
    (before after : Hierarchies σ) : Prop where
  directory_same : same before.directory after.directory
  sentinel_eq : after.cache.sentinel = before.cache.sentinel
  closed_eq : after.cache.closed = before.cache.closed
  graph_cases : forall key graph, after.cache.graph? key = some graph ->
    before.cache.graph? key = some graph ∨
      exists state, same before.directory state ∧ Lists directory state key graph

variable {directory : Directory σ} {same : σ -> σ -> Prop}

instance [IsPreorder σ same] : IsPreorder (Hierarchies σ) (Refreshes directory same) where
  refl := fun h =>
    { directory_same := refl_of same h.directory
      sentinel_eq := rfl
      closed_eq := rfl
      graph_cases := fun _ _ hgraph => Or.inl hgraph }
  trans := fun before middle after hfirst hsecond =>
    { directory_same := trans_of same hfirst.directory_same hsecond.directory_same
      sentinel_eq := hsecond.sentinel_eq.trans hfirst.sentinel_eq
      closed_eq := hsecond.closed_eq.trans hfirst.closed_eq
      graph_cases := by
        intro key graph hgraph
        rcases hsecond.graph_cases key graph hgraph with hmiddle | ⟨state, hstate, hlists⟩
        · exact hfirst.graph_cases key graph hmiddle
        · exact Or.inr ⟨state, trans_of same hfirst.directory_same hstate, hlists⟩ }

/-- A directory that may change in any way while it is asked. -/
def Unrelated (_ _ : σ) : Prop :=
  True

instance : IsPreorder σ Unrelated where
  refl := fun _ => trivial
  trans := fun _ _ _ _ _ => trivial

/-!
# What a build leaves behind
-/

theorem graph?_afterBuild (h : Hierarchies σ) (key : HierarchyKey) (graph : Graph) (state : σ)
    (other : HierarchyKey) :
    (h.afterBuild key graph state).cache.graph? other =
      if other = key then some graph else h.cache.graph? other := by
  unfold afterBuild
  rw [Cache.graph?_count, Cache.graph?_publish]

theorem build_cases (directory : Directory σ) (key : HierarchyKey) (h : Hierarchies σ) :
    (exists fault, (build directory key).effect h =
        (.error fault,
          h.afterFailure ((directory.list key.kind (some key.context)).effect h.directory).2)) ∨
      exists graph, Lists directory h.directory key graph ∧
        (build directory key).effect h =
          (.ok graph,
            h.afterBuild key graph
              ((directory.list key.kind (some key.context)).effect h.directory).2) := by
  rw [effect_build]
  unfold Lists
  rcases (directory.list key.kind (some key.context)).effect h.directory with ⟨result, state⟩
  cases result with
  | error cause => exact Or.inl ⟨_, rfl⟩
  | ok rows =>
      simp only
      cases hrows : Graph.empty.edited (Graph.addRows rows) with
      | error fault => exact Or.inl ⟨_, rfl⟩
      | ok graph => exact Or.inr ⟨graph, ⟨rows, rfl, hrows⟩, rfl⟩

section Moves

variable [IsPreorder σ same]

/-!
# Actions that refresh
-/

theorem moves_readCache :
    (readCache : Action (Hierarchies σ) Cache).Moves (Refreshes directory same) :=
  fun h => refl_of (Refreshes directory same) h

theorem moves_updateCache {f : Cache -> Cache}
    (hsentinel : forall cache, (f cache).sentinel = cache.sentinel)
    (hclosed : forall cache, (f cache).closed = cache.closed)
    (hgraph : forall cache key graph, (f cache).graph? key = some graph ->
      cache.graph? key = some graph) :
    (updateCache f : Action (Hierarchies σ) Unit).Moves (Refreshes directory same) := by
  intro h
  exact ⟨refl_of same h.directory, hsentinel h.cache, hclosed h.cache,
    fun key graph hafter => Or.inl (hgraph h.cache key graph hafter)⟩

theorem moves_count (f : CacheCounts -> CacheCounts) :
    (updateCache (·.count f) : Action (Hierarchies σ) Unit).Moves (Refreshes directory same) :=
  moves_updateCache (fun _ => rfl) (fun _ => rfl) fun _ _ _ hafter => hafter

theorem moves_enter (key : HierarchyKey) :
    (enter key : Action (Hierarchies σ) Unit).Moves (Refreshes directory same) := by
  refine moves_readCache.bind fun cache => ?_
  split
  · exact Action.moves_fail _
  · refine moves_updateCache (fun cache => cache.sentinel_withEntry key)
      (fun cache => cache.closed_withEntry key) ?_
    intro cache other graph hafter
    rw [Cache.graph?_withEntry] at hafter
    exact hafter

theorem moves_build (hlist : forall kind context, (directory.list kind context).Moves same)
    (key : HierarchyKey) : (build directory key).Moves (Refreshes directory same) := by
  intro h
  have hasked := hlist key.kind (some key.context) h.directory
  rw [Action.state_eq_effect] at hasked ⊢
  rcases build_cases directory key h with ⟨fault, hfail⟩ | ⟨graph, hlists, hbuild⟩
  · rw [hfail]
    exact ⟨hasked, rfl, rfl, fun _ _ hafter => Or.inl hafter⟩
  · rw [hbuild]
    refine ⟨hasked, rfl, rfl, ?_⟩
    intro other published hafter
    rw [graph?_afterBuild] at hafter
    by_cases hsame : other = key
    · rw [if_pos hsame] at hafter
      cases hafter
      rw [hsame]
      exact Or.inr ⟨h.directory, refl_of same h.directory, hlists⟩
    · rw [if_neg hsame] at hafter
      exact Or.inl hafter

theorem moves_graph (hlist : forall kind context, (directory.list kind context).Moves same)
    (kind : HierarchyKind) (context : Option String) :
    (graph directory kind context).Moves (Refreshes directory same) := by
  refine moves_readCache.bind fun cache => ?_
  refine (moves_enter _).bind fun _ => ?_
  refine moves_readCache.bind fun cache => ?_
  split
  · exact (moves_count _).map _
  · exact (moves_count _).bind fun _ => moves_build hlist _

theorem moves_graphToChange (hlist : forall kind context, (directory.list kind context).Moves same)
    (key : HierarchyKey) : (graphToChange directory key).Moves (Refreshes directory same) := by
  refine moves_readCache.bind fun cache => ?_
  split
  · exact Action.moves_pure _
  · exact moves_build hlist key

theorem moves_invalidate (kind : HierarchyKind) (context : Option String) :
    (invalidate kind context : Action (Hierarchies σ) Bool).Moves (Refreshes directory same) := by
  refine moves_readCache.bind fun cache => moves_readCache.bind fun current => ?_
  split
  · refine Action.Moves.bind ?_ fun _ => (Action.moves_report _ _ _).bind fun _ =>
      Action.moves_pure _
    refine moves_updateCache (fun cache => Cache.sentinel_drop cache _)
      (fun cache => Cache.closed_drop cache _) ?_
    intro cache other graph hafter
    rw [Cache.graph?_count, Cache.graph?_drop] at hafter
    split at hafter
    · cases hafter
    · exact hafter
  · exact Action.moves_pure _

theorem moves_clear : (clear : Action (Hierarchies σ) Unit).Moves (Refreshes directory same) := by
  refine moves_readCache.bind fun cache => Action.Moves.bind ?_ fun _ => Action.moves_report _ _ _
  refine moves_updateCache (fun _ => rfl) (fun _ => rfl) ?_
  intro cache key graph hafter
  rw [Cache.graph?_count, Cache.graph?_dropAll] at hafter
  cases hafter

theorem moves_prepare (hlist : forall kind context, (directory.list kind context).Moves same)
    (kind : HierarchyKind) (context : Option String) :
    (prepare directory kind context).Moves (Refreshes directory same) := by
  refine moves_readCache.bind fun cache => ?_
  exact (moves_enter _).bind fun _ => moves_graphToChange hlist _

end Moves

/-!
# Announced changes
-/

theorem graph?_afterChange (h : Hierarchies σ) (key : HierarchyKey) (graph : Graph) (changed : Bool)
    (other : HierarchyKey) :
    (h.afterChange key graph changed).cache.graph? other =
      if changed = true ∧ other = key then some graph else h.cache.graph? other := by
  unfold afterChange
  rw [Cache.graph?_count]
  cases changed with
  | true => simp
  | false => simp

theorem sentinel_afterChange (h : Hierarchies σ) (key : HierarchyKey) (graph : Graph)
    (changed : Bool) : (h.afterChange key graph changed).cache.sentinel = h.cache.sentinel := by
  cases changed with
  | true => rfl
  | false => rfl

theorem closed_afterChange (h : Hierarchies σ) (key : HierarchyKey) (graph : Graph)
    (changed : Bool) : (h.afterChange key graph changed).cache.closed = h.cache.closed := by
  cases changed with
  | true => rfl
  | false => rfl

theorem graph?_of_build {key : HierarchyKey} {h state : Hierarchies σ} {built : Graph}
    (hbuild : (build directory key).effect h = (.ok built, state)) :
    state.cache.graph? key = some built := by
  rcases build_cases directory key h with ⟨fault, hfail⟩ | ⟨graph, _, hgraph⟩
  · rw [hbuild] at hfail
    cases hfail
  · rw [hbuild] at hgraph
    cases hgraph
    rw [graph?_afterBuild, if_pos rfl]

theorem graph?_of_graph {kind : HierarchyKind} {context : Option String} {h state : Hierarchies σ}
    {answered : Graph} (hgraph : (graph directory kind context).effect h = (.ok answered, state)) :
    state.cache.graph? (h.cache.key kind context) = some answered := by
  rw [effect_graph] at hgraph
  split at hgraph
  · cases hgraph
  · cases hloaded : h.cache.graph? (h.cache.key kind context) with
    | some loaded =>
        rw [hloaded] at hgraph
        cases hgraph
        rw [Cache.graph?_count, Cache.graph?_withEntry]
        exact hloaded
    | none =>
        rw [hloaded] at hgraph
        exact graph?_of_build hgraph

theorem graph?_of_prepare {kind : HierarchyKind} {context : Option String} {h state : Hierarchies σ}
    {current : Graph}
    (hprepare : (prepare directory kind context).effect h = (.ok current, state)) :
    state.cache.graph? (h.cache.key kind context) = some current := by
  rw [effect_prepare] at hprepare
  split at hprepare
  · cases hprepare
  · rw [effect_graphToChange, Cache.graph?_withEntry] at hprepare
    cases hloaded : h.cache.graph? (h.cache.key kind context) with
    | some loaded =>
        simp only [hloaded] at hprepare
        cases hprepare
        rw [Cache.graph?_withEntry]
        exact hloaded
    | none =>
        simp only [hloaded] at hprepare
        exact graph?_of_build hprepare

/-- A change fails after at most a build, or edits the graph that is loaded after that. -/
theorem change_cases (same : σ -> σ -> Prop) [IsPreorder σ same]
    (hlist : forall kind context, (directory.list kind context).Moves same) (kind : HierarchyKind)
    (context : Option String) (edge : Relationship) (label : Option String) (h : Hierarchies σ) :
    (exists fault state, Refreshes directory same h state ∧
        (change directory kind context edge label).effect h = (.error fault, state)) ∨
      exists state current change changed updated, Refreshes directory same h state ∧
        state.cache.graph? (h.cache.key kind context) = some current ∧
        Change.parse label = .ok change ∧
        (Graph.apply edge change).effect current = (.ok changed, updated) ∧
        (Hierarchies.change directory kind context edge label).effect h =
          (.ok changed, state.afterChange (h.cache.key kind context) updated changed) := by
  have hprepared : Refreshes directory same h _ := moves_prepare hlist kind context h
  rw [Action.state_eq_effect] at hprepared
  rcases change_outcomes directory kind context edge label h with ⟨fault, hfail⟩ |
    ⟨state, current, change, changed, updated, hprepare, hlabel, happly, hchange⟩
  · exact Or.inl ⟨fault, _, hprepared, hfail⟩
  · rw [hprepare] at hprepared
    exact Or.inr ⟨state, current, change, changed, updated, hprepared, graph?_of_prepare hprepare,
      hlabel, happly, hchange⟩

end Hierarchies
end Entitlement
