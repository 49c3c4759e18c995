import Entitlement.Hierarchies.Basic
import Entitlement.Proofs.Cache
import Entitlement.Proofs.Graph.Build

/-!
# What the live hierarchies do

The effects of the actions on live hierarchies, as equations.  A build asks the directory once and
publishes the graph of its rows or nothing.  A question is answered from the published graph, or
else by a build.  A change starts from the published graph or from a build, and publishes the edited
graph only if the edit was not refused and changed the set of edges.
-/

namespace Entitlement

theorem Fault.isOwn_of_isCycle {fault : Fault} (h : fault.isCycle = true) : fault.isOwn = true := by
  have hfamily : fault.family = .cycle := of_decide_eq_true h
  unfold Fault.isOwn
  rw [hfamily]
  rfl

namespace Hierarchies

variable {σ : Type}

def afterFailure (h : Hierarchies σ) (directory : σ) : Hierarchies σ where
  cache := h.cache.count fun counts => { counts with failedBuilds := counts.failedBuilds + 1 }
  directory := directory

def afterBuild (h : Hierarchies σ) (key : HierarchyKey) (graph : Graph) (directory : σ) :
    Hierarchies σ where
  cache := (h.cache.publish key graph).count fun counts =>
    { counts with builds := counts.builds + 1 }
  directory := directory

theorem effect_readCache (h : Hierarchies σ) :
    (readCache : Action (Hierarchies σ) Cache).effect h = (.ok h.cache, h) := rfl

theorem effect_updateCache (f : Cache -> Cache) (h : Hierarchies σ) :
    (updateCache f : Action (Hierarchies σ) Unit).effect h =
      (.ok (), { h with cache := f h.cache }) := rfl

theorem effect_reportRefusal (key : HierarchyKey) (cause : Fault) (h : Hierarchies σ) :
    (reportRefusal key cause : Action (Hierarchies σ) Unit).effect h = (.ok (), h) := by
  unfold reportRefusal
  split
  · rfl
  · split <;> rfl

/-!
# Builds and questions
-/

def listedGraph (directory : Directory σ) (key : HierarchyKey) (state : σ) : Except Fault Graph :=
  match ((directory.list key.kind (some key.context)).effect state).1 with
  | .error cause => .error (unreadable key cause)
  | .ok rows => (Graph.empty.edited (Graph.addRows rows)).mapError (refused key)

def afterFetch (directory : Directory σ) (h : Hierarchies σ) (key : HierarchyKey) :
    Hierarchies σ :=
  { h with directory := ((directory.list key.kind (some key.context)).effect h.directory).2 }

theorem effect_fetch (directory : Directory σ) (key : HierarchyKey) (h : Hierarchies σ) :
    (fetch directory key).effect h =
      (.ok (listedGraph directory key h.directory), h.afterFetch directory key) := by
  unfold fetch onDirectory listedGraph afterFetch
  rw [Action.effect_bind, Action.effect_report]
  dsimp only
  rw [Action.effect_bind, Action.effect_attempt, Action.effect_within]
  rcases (directory.list key.kind (some key.context)).effect h.directory with ⟨result, state⟩
  cases result with
  | error cause => rfl
  | ok rows =>
      dsimp only
      rw [Action.effect_bind, Action.effect_attempt, Graph.effect_ofRows]
      cases Graph.empty.edited (Graph.addRows rows) with
      | error cause =>
          dsimp only
          rw [Action.effect_bind, effect_reportRefusal]
          rfl
      | ok graph => rfl

theorem effect_build_listed (directory : Directory σ) (key : HierarchyKey) (h : Hierarchies σ) :
    (build directory key).effect h =
      let after := h.afterFetch directory key
      match listedGraph directory key h.directory with
      | .error fault => (.error fault, after.afterFailure after.directory)
      | .ok graph => (.ok graph, h.afterBuild key graph after.directory) := by
  unfold build
  rw [Action.effect_bind, effect_fetch]
  dsimp only
  cases listedGraph directory key h.directory with
  | error fault => rfl
  | ok graph => rfl

theorem effect_build (directory : Directory σ) (key : HierarchyKey) (h : Hierarchies σ) :
    (build directory key).effect h =
      match (directory.list key.kind (some key.context)).effect h.directory with
      | (.error cause, state) => (.error (unreadable key cause), h.afterFailure state)
      | (.ok rows, state) =>
          match Graph.empty.edited (Graph.addRows rows) with
          | .error fault => (.error (refused key fault), h.afterFailure state)
          | .ok graph => (.ok graph, h.afterBuild key graph state) := by
  rw [effect_build_listed]
  unfold listedGraph afterFetch
  rcases (directory.list key.kind (some key.context)).effect h.directory with ⟨result, state⟩
  cases result with
  | error cause => rfl
  | ok rows =>
      dsimp only
      cases Graph.empty.edited (Graph.addRows rows) with
      | error fault => rfl
      | ok graph => rfl

theorem effect_graph (directory : Directory σ) (kind : HierarchyKind) (context : Option String)
    (h : Hierarchies σ) :
    (graph directory kind context).effect h =
      if h.cache.closed then (.error .cacheClosed, h)
      else
        match h.cache.graph? (h.cache.key kind context) with
        | some graph =>
            (.ok graph,
              { h with
                cache := (h.cache.withEntry (h.cache.key kind context)).count fun counts =>
                  { counts with hits := counts.hits + 1 } })
        | none =>
            (build directory (h.cache.key kind context)).effect
              { h with
                cache := (h.cache.withEntry (h.cache.key kind context)).count fun counts =>
                  { counts with misses := counts.misses + 1 } } := by
  unfold graph enter
  simp only [Action.effect_bind, effect_readCache]
  by_cases hclosed : h.cache.closed = true
  · rw [if_pos hclosed, if_pos hclosed]
    rfl
  · rw [if_neg hclosed, if_neg hclosed]
    simp only [effect_updateCache, Cache.graph?_withEntry]
    cases h.cache.graph? (h.cache.key kind context) with
    | some graph => rfl
    | none => rfl

section Access

variable (directory : Directory σ) {kind : HierarchyKind} {context : Option String}
  {h : Hierarchies σ}

theorem effect_graph_of_closed (kind : HierarchyKind) (context : Option String)
    (hclosed : h.cache.closed = true) :
    (graph directory kind context).effect h = (.error .cacheClosed, h) := by
  rw [effect_graph, if_pos hclosed]

def afterHit (h : Hierarchies σ) (key : HierarchyKey) : Hierarchies σ :=
  { h with
    cache := (h.cache.withEntry key).count fun counts => { counts with hits := counts.hits + 1 } }

def afterMiss (h : Hierarchies σ) (key : HierarchyKey) : Hierarchies σ :=
  { h with
    cache := (h.cache.withEntry key).count fun counts =>
      { counts with misses := counts.misses + 1 } }

theorem effect_graph_of_loaded {loaded : Graph} (hopen : h.cache.closed = false)
    (hloaded : h.cache.graph? (h.cache.key kind context) = some loaded) :
    (graph directory kind context).effect h =
      (.ok loaded, h.afterHit (h.cache.key kind context)) := by
  rw [effect_graph, if_neg (Bool.eq_false_iff.mp hopen), hloaded]
  rfl

theorem result_graph_of_loaded {loaded : Graph} (hopen : h.cache.closed = false)
    (hloaded : h.cache.graph? (h.cache.key kind context) = some loaded) :
    ((graph directory kind context).run h).result = .ok loaded := by
  rw [Action.result_eq_effect, effect_graph_of_loaded directory hopen hloaded]

theorem effect_graph_of_unloaded (hopen : h.cache.closed = false)
    (hnone : h.cache.graph? (h.cache.key kind context) = none) :
    (graph directory kind context).effect h =
      (build directory (h.cache.key kind context)).effect
        (h.afterMiss (h.cache.key kind context)) := by
  rw [effect_graph, if_neg (Bool.eq_false_iff.mp hopen), hnone]
  rfl

end Access

/-!
# Changes
-/

theorem effect_graphToChange (directory : Directory σ) (key : HierarchyKey) (h : Hierarchies σ) :
    (graphToChange directory key).effect h =
      match h.cache.graph? key with
      | some graph => (.ok graph, h)
      | none => (build directory key).effect h := by
  unfold graphToChange
  simp only [Action.effect_bind, effect_readCache]
  cases h.cache.graph? key with
  | some graph => rfl
  | none => rfl

def afterChange (h : Hierarchies σ) (key : HierarchyKey) (graph : Graph) (changed : Bool) :
    Hierarchies σ :=
  { h with
    cache := (if changed then h.cache.publishChange key graph else h.cache).count fun counts =>
      { counts with mutations := counts.mutations + 1 } }

/-- The first part of a change: the graph to change, built if need be. -/
def prepare (directory : Directory σ) (kind : HierarchyKind) (context : Option String) :
    Action (Hierarchies σ) Graph := do
  let key := (← readCache).key kind context
  enter key
  graphToChange directory key

theorem effect_prepare (directory : Directory σ) (kind : HierarchyKind) (context : Option String)
    (h : Hierarchies σ) :
    (prepare directory kind context).effect h =
      if h.cache.closed then (.error .cacheClosed, h)
      else
        (graphToChange directory (h.cache.key kind context)).effect
          { h with cache := h.cache.withEntry (h.cache.key kind context) } := by
  unfold prepare enter
  simp only [Action.effect_bind, effect_readCache]
  by_cases hclosed : h.cache.closed = true
  · rw [if_pos hclosed, if_pos hclosed]
    rfl
  · rw [if_neg hclosed, if_neg hclosed]
    rfl

def afterEntry (h : Hierarchies σ) (key : HierarchyKey) : Hierarchies σ :=
  { h with cache := h.cache.withEntry key }

theorem effect_prepare_of_closed (directory : Directory σ) (kind : HierarchyKind)
    (context : Option String) {h : Hierarchies σ} (hclosed : h.cache.closed = true) :
    (prepare directory kind context).effect h = (.error .cacheClosed, h) := by
  rw [effect_prepare, if_pos hclosed]

theorem effect_prepare_of_unloaded (directory : Directory σ) {kind : HierarchyKind}
    {context : Option String} {h : Hierarchies σ} (hopen : h.cache.closed = false)
    (hnone : h.cache.graph? (h.cache.key kind context) = none) :
    (prepare directory kind context).effect h =
      (build directory (h.cache.key kind context)).effect
        (h.afterEntry (h.cache.key kind context)) := by
  rw [effect_prepare, if_neg (Bool.eq_false_iff.mp hopen), effect_graphToChange,
    Cache.graph?_withEntry, hnone]
  rfl

theorem effect_prepare_of_loaded (directory : Directory σ) {kind : HierarchyKind}
    {context : Option String} {h : Hierarchies σ} {loaded : Graph}
    (hopen : h.cache.closed = false)
    (hloaded : h.cache.graph? (h.cache.key kind context) = some loaded) :
    (prepare directory kind context).effect h =
      (.ok loaded, { h with cache := h.cache.withEntry (h.cache.key kind context) }) := by
  rw [effect_prepare, if_neg (Bool.eq_false_iff.mp hopen), effect_graphToChange,
    Cache.graph?_withEntry, hloaded]

theorem effect_change (directory : Directory σ) (kind : HierarchyKind) (context : Option String)
    (edge : Relationship) (label : Option String) (h : Hierarchies σ) :
    (change directory kind context edge label).effect h =
      match (prepare directory kind context).effect h with
      | (.error fault, state) => (.error fault, state)
      | (.ok current, state) =>
          match Change.parse label with
          | .error fault => (.error fault, state)
          | .ok change =>
              match (Graph.apply edge change).effect current with
              | (.error fault, _) => (.error fault, state)
              | (.ok changed, updated) =>
                  (.ok changed, state.afterChange (h.cache.key kind context) updated changed) := by
  unfold change prepare enter
  simp only [Action.effect_bind, effect_readCache]
  by_cases hclosed : h.cache.closed = true
  · rw [if_pos hclosed]
    rfl
  · rw [if_neg hclosed]
    simp only [effect_updateCache]
    cases (graphToChange directory (h.cache.key kind context)).effect
        { h with cache := h.cache.withEntry (h.cache.key kind context) } with
    | mk result state =>
        cases result with
        | error fault => rfl
        | ok current =>
            simp only [Action.effect_ofResult]
            cases Change.parse label with
            | error fault => rfl
            | ok change =>
                simp only [Action.effect_attempt, Graph.effect_onCopy]
                cases (Graph.apply edge change).effect current with
                | mk answer updated =>
                    cases answer with
                    | error fault =>
                        simp only [Except.map]
                        -- A cycle is reported in a further record, which leaves the state alone.
                        by_cases hcycle : fault.isCycle = true
                        · simp only [if_pos hcycle, Action.effect_bind]
                          rfl
                        · simp only [if_neg hcycle]
                          rfl
                    | ok changed =>
                        cases changed with
                        | true => rfl
                        | false => rfl

/-- A change fails and leaves what its preparation leaves, or it edits the graph that is ready. -/
theorem change_outcomes (directory : Directory σ) (kind : HierarchyKind) (context : Option String)
    (edge : Relationship) (label : Option String) (h : Hierarchies σ) :
    (exists fault, (change directory kind context edge label).effect h =
        (.error fault, ((prepare directory kind context).effect h).2)) ∨
      exists state current change changed updated,
        (prepare directory kind context).effect h = (.ok current, state) ∧
        Change.parse label = .ok change ∧
        (Graph.apply edge change).effect current = (.ok changed, updated) ∧
        (Hierarchies.change directory kind context edge label).effect h =
          (.ok changed, state.afterChange (h.cache.key kind context) updated changed) := by
  rw [effect_change]
  cases hprepare : (prepare directory kind context).effect h with
  | mk result state =>
      cases result with
      | error fault => exact Or.inl ⟨fault, rfl⟩
      | ok current =>
          simp only
          cases hlabel : Change.parse label with
          | error fault => exact Or.inl ⟨fault, rfl⟩
          | ok change =>
              simp only
              cases happly : (Graph.apply edge change).effect current with
              | mk answer updated =>
                  cases answer with
                  | error fault => exact Or.inl ⟨fault, rfl⟩
                  | ok changed =>
                      exact Or.inr ⟨state, current, change, changed, updated, rfl, rfl, happly,
                        rfl⟩

/-!
# Dropped graphs
-/

theorem effect_invalidate (kind : HierarchyKind) (context : Option String) (h : Hierarchies σ) :
    (invalidate kind context : Action (Hierarchies σ) Bool).effect h =
      if h.cache.isLoaded (h.cache.key kind context) then
        (.ok true,
          { h with
            cache := (h.cache.drop (h.cache.key kind context)).count fun counts =>
              { counts with invalidations := counts.invalidations + 1 } })
      else (.ok false, h) := by
  unfold invalidate
  simp only [Action.effect_bind, effect_readCache]
  split
  · rfl
  · rfl

theorem effect_clear (h : Hierarchies σ) :
    (clear : Action (Hierarchies σ) Unit).effect h =
      (.ok (),
        { h with
          cache := h.cache.dropAll.count fun counts =>
            { counts with invalidations := counts.invalidations + h.cache.loaded } }) := rfl

theorem effect_close (h : Hierarchies σ) :
    (close : Action (Hierarchies σ) Unit).effect h =
      (.ok (),
        { h with
          cache := (h.cache.dropAll.count fun counts =>
            { counts with invalidations := counts.invalidations + h.cache.loaded }).close }) := rfl

end Hierarchies

end Entitlement
