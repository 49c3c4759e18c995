import Entitlement.Proofs.Hierarchies.Refines
import Entitlement.Proofs.TwoRuns

/-!
# What later calls can see

Of the past of live hierarchies, a later call sees which graphs are loaded, whether the cache is
closed, and what the directory holds; it sees neither entries without graphs nor counts.  So live
hierarchies that agree in what can be seen answer all later calls alike, even if the directory
changes in between for reasons of its own.
-/

namespace Entitlement
namespace Hierarchies

variable {σ : Type}

/-- Live hierarchies that later calls cannot tell apart. -/
structure Twins (first second : Hierarchies σ) : Prop extends SameCache first second where
  directory_eq : second.directory = first.directory

section Caches

variable {first second third : Hierarchies σ}

theorem SameCache.symm (h : SameCache first second) : SameCache second first where
  sentinel_eq := h.sentinel_eq.symm
  closed_eq := h.closed_eq.symm
  graph?_eq := fun key => (h.graph?_eq key).symm
  version_eq := fun key => (h.version_eq key).symm

theorem SameCache.trans (h : SameCache first second) (h' : SameCache second third) :
    SameCache first third where
  sentinel_eq := h'.sentinel_eq.trans h.sentinel_eq
  closed_eq := h'.closed_eq.trans h.closed_eq
  graph?_eq := fun key => (h'.graph?_eq key).trans (h.graph?_eq key)
  version_eq := fun key => (h'.version_eq key).trans (h.version_eq key)

theorem SameCache.key_eq (h : SameCache first second) (kind : HierarchyKind)
    (context : Option String) : second.cache.key kind context = first.cache.key kind context := by
  unfold Cache.key
  rw [h.sentinel_eq]

theorem SameCache.loaded_eq (h : SameCache first second) (kind : HierarchyKind)
    (context : Option String) :
    second.cache.graph? (second.cache.key kind context) =
      first.cache.graph? (first.cache.key kind context) := by
  rw [h.key_eq, h.graph?_eq]

theorem SameCache.afterBuild (h : SameCache first second) (key : HierarchyKey) (graph : Graph)
    (state state' : σ) :
    SameCache (first.afterBuild key graph state) (second.afterBuild key graph state') where
  sentinel_eq := h.sentinel_eq
  closed_eq := h.closed_eq
  graph?_eq := by
    intro other
    rw [graph?_afterBuild, graph?_afterBuild, h.graph?_eq]
  version_eq := by
    intro other
    unfold Hierarchies.afterBuild
    rw [Cache.version_count, Cache.version_count, Cache.version_publish, Cache.version_publish,
      h.version_eq]

theorem SameCache.afterChange (h : SameCache first second) (key : HierarchyKey) (graph : Graph)
    (changed : Bool) :
    SameCache (first.afterChange key graph changed) (second.afterChange key graph changed) where
  sentinel_eq := by rw [sentinel_afterChange, sentinel_afterChange, h.sentinel_eq]
  closed_eq := by rw [closed_afterChange, closed_afterChange, h.closed_eq]
  graph?_eq := by
    intro other
    rw [graph?_afterChange, graph?_afterChange, h.graph?_eq]
  version_eq := by
    intro other
    rw [version_afterChange, version_afterChange, h.version_eq, h.version_eq]

theorem Twins.of_sameCache (h : Twins first second) {first' second' : Hierarchies σ}
    (hfirst : SameCache first first') (hsecond : SameCache second second')
    (hdirectory : second'.directory = first'.directory) : Twins first' second' :=
  ⟨hfirst.symm.trans (h.toSameCache.trans hsecond), hdirectory⟩

end Caches

/-!
# Calls of twins
-/

section Calls

variable (directory : Directory σ)

theorem twins_build (key : HierarchyKey) : (build directory key).Agrees Twins := by
  intro first second h
  rw [effect_build_listed, effect_build_listed]
  unfold afterFetch
  rw [h.directory_eq]
  cases listedGraph directory key first.directory with
  | error fault =>
      exact ⟨rfl, h.of_sameCache (sameCache_afterFailure first _) (sameCache_afterFailure second _)
        rfl⟩
  | ok graph => exact ⟨rfl, h.toSameCache.afterBuild key graph _ _, rfl⟩

theorem twins_graph (kind : HierarchyKind) (context : Option String) :
    (graph directory kind context).Agrees Twins := by
  intro first second h
  have hgraph := h.loaded_eq kind context
  cases hclosed : first.cache.closed with
  | true =>
      rw [effect_graph_of_closed directory kind context hclosed,
        effect_graph_of_closed directory kind context (h.closed_eq.trans hclosed)]
      exact ⟨rfl, h⟩
  | false =>
      have hopen := h.closed_eq.trans hclosed
      cases hloaded : first.cache.graph? (first.cache.key kind context) with
      | some loaded =>
          rw [effect_graph_of_loaded directory hclosed hloaded,
            effect_graph_of_loaded directory hopen (hgraph.trans hloaded)]
          exact ⟨rfl, h.of_sameCache (sameCache_afterHit _ _) (sameCache_afterHit _ _)
            h.directory_eq⟩
      | none =>
          rw [effect_graph_of_unloaded directory hclosed hloaded,
            effect_graph_of_unloaded directory hopen (hgraph.trans hloaded), h.key_eq]
          apply twins_build directory
          exact h.of_sameCache (sameCache_afterMiss _ _) (sameCache_afterMiss _ _) h.directory_eq

theorem twins_prepare (kind : HierarchyKind) (context : Option String) :
    (prepare directory kind context).Agrees Twins := by
  intro first second h
  have hgraph := h.loaded_eq kind context
  have hentered : Twins (first.afterEntry (first.cache.key kind context))
      (second.afterEntry (second.cache.key kind context)) :=
    h.of_sameCache (sameCache_afterEntry _ _) (sameCache_afterEntry _ _) h.directory_eq
  cases hclosed : first.cache.closed with
  | true =>
      rw [effect_prepare_of_closed directory kind context hclosed,
        effect_prepare_of_closed directory kind context (h.closed_eq.trans hclosed)]
      exact ⟨rfl, h⟩
  | false =>
      have hopen := h.closed_eq.trans hclosed
      cases hloaded : first.cache.graph? (first.cache.key kind context) with
      | some loaded =>
          rw [effect_prepare_of_loaded directory hclosed hloaded,
            effect_prepare_of_loaded directory hopen (hgraph.trans hloaded)]
          exact ⟨rfl, hentered⟩
      | none =>
          rw [effect_prepare_of_unloaded directory hclosed hloaded,
            effect_prepare_of_unloaded directory hopen (hgraph.trans hloaded)]
          rw [h.key_eq] at hentered ⊢
          exact twins_build directory _ _ _ hentered

theorem twins_change (kind : HierarchyKind) (context : Option String) (edge : Relationship)
    (label : Option String) : (change directory kind context edge label).Agrees Twins := by
  intro first second h
  have hready := twins_prepare directory kind context first second h
  rw [effect_change, effect_change, h.key_eq]
  rcases hfirst : (prepare directory kind context).effect first with ⟨answer, state⟩
  rcases hsecond : (prepare directory kind context).effect second with ⟨answer', state'⟩
  rw [hfirst, hsecond] at hready
  rcases hready with ⟨hanswer, hready⟩
  dsimp only at hanswer hready
  rw [← hanswer]
  cases answer with
  | error fault => exact ⟨rfl, hready⟩
  | ok current =>
      dsimp only
      cases Change.parse label with
      | error fault => exact ⟨rfl, hready⟩
      | ok change =>
          dsimp only
          rcases (Graph.apply edge change).effect current with ⟨result, updated⟩
          cases result with
          | error fault => exact ⟨rfl, hready⟩
          | ok changed =>
              exact ⟨rfl, hready.toSameCache.afterChange _ updated changed, hready.directory_eq⟩

theorem twins_invalidate (kind : HierarchyKind) (context : Option String) :
    (invalidate kind context : Action (Hierarchies σ) Bool).Agrees Twins := by
  intro first second h
  rw [effect_invalidate, effect_invalidate, h.key_eq]
  unfold Cache.isLoaded
  rw [h.graph?_eq]
  split
  · refine ⟨rfl, ⟨?_, ?_, ?_, ?_⟩, h.directory_eq⟩
    · simp [h.sentinel_eq]
    · exact (Cache.closed_drop _ _).trans (h.closed_eq.trans (Cache.closed_drop _ _).symm)
    · intro other
      simp [h.graph?_eq]
    · intro other
      simp [h.version_eq]
  · exact ⟨rfl, h⟩

theorem twins_clear : (clear : Action (Hierarchies σ) Unit).Agrees Twins := by
  intro first second h
  rw [effect_clear, effect_clear]
  refine ⟨rfl, ⟨h.sentinel_eq, h.closed_eq, ?_, ?_⟩, h.directory_eq⟩
  · intro key
    simp
  · intro key
    simp [h.version_eq]

theorem twins_close : (close : Action (Hierarchies σ) Unit).Agrees Twins := by
  intro first second h
  rw [effect_close, effect_close]
  exact ⟨rfl, ⟨h.sentinel_eq, rfl, fun _ => rfl, fun _ => rfl⟩, h.directory_eq⟩

theorem twins_answer (call : Call) : (call.answer directory).Agrees Twins := by
  cases call with
  | graph kind context => exact (twins_graph directory kind context).map _
  | prepare kind context => exact (twins_prepare directory kind context).map _
  | change kind context edge label =>
      exact (twins_change directory kind context edge label).map _
  | invalidate kind context => exact (twins_invalidate kind context).map _
  | clear => exact twins_clear.map _
  | close => exact twins_close.map _

end Calls

/-!
# Later turns
-/

/-- What happens next to live hierarchies: a call, or a change of the directory by somebody else. -/
inductive Turn (σ : Type) where
  | call (call : Call)
  | outside (change : σ -> σ)

def replies (directory : Directory σ) : List (Turn σ) -> Hierarchies σ ->
    List (Except Fault Reply)
  | [], _ => []
  | .call call :: rest, h =>
      let outcome := (call.answer directory).effect h
      outcome.1 :: replies directory rest outcome.2
  | .outside change :: rest, h =>
      replies directory rest { h with directory := change h.directory }

theorem Twins.replies_eq {first second : Hierarchies σ} (h : Twins first second)
    (directory : Directory σ) (turns : List (Turn σ)) :
    replies directory turns second = replies directory turns first := by
  induction turns generalizing first second with
  | nil => rfl
  | cons turn rest ih =>
      cases turn with
      | call call =>
          rcases twins_answer directory call first second h with ⟨hanswer, hafter⟩
          show ((call.answer directory).effect second).1 :: _ = _
          rw [← hanswer, ih hafter]
          rfl
      | outside change =>
          have hdirectory : change second.directory = change first.directory :=
            congrArg change h.directory_eq
          exact ih ⟨⟨h.sentinel_eq, h.closed_eq, h.graph?_eq, h.version_eq⟩, hdirectory⟩

end Hierarchies
end Entitlement
