import Entitlement.Engine.Create
import Entitlement.Proofs.Engine.Closing
import Entitlement.Proofs.Hierarchies.View

/-!
# Warming up

A warm-up asks for the role hierarchies of some tenants in turn.  Different spellings of a tenant
come to the same keys, and a key that is loaded by then needs no build; so the directory lists each
key once that was not loaded before, in the order in which the keys are first needed.  The first
build that fails ends the warm-up, and what was loaded up to there stays loaded.
-/

namespace Entitlement
namespace Hierarchies

variable {σ : Type} {directory : Directory σ} {h mid next : Hierarchies σ} {key : HierarchyKey}
  {keys rest : List HierarchyKey}

/-!
# Hierarchies that are built in turn
-/

/-- The keys that are not loaded, each once, in the order in which they are first met. -/
def needed (h : Hierarchies σ) (keys : List HierarchyKey) : List HierarchyKey :=
  (keys.filter fun key => !h.cache.isLoaded key).eraseDups

def listingsInTurn (directory : Directory σ) : List HierarchyKey -> σ -> List Event
  | [], _ => []
  | key :: rest, state =>
      listing directory key state ::
        listingsInTurn directory rest
          ((directory.list key.kind (some key.context)).effect state).2

/-- The first of some hierarchies that cannot be built when its turn comes. -/
def firstFailure (directory : Directory σ) :
    List HierarchyKey -> σ -> Option (HierarchyKey × Fault)
  | [], _ => none
  | key :: rest, state =>
      match listedGraph directory key state with
      | .error fault => some (key, fault)
      | .ok _ =>
          firstFailure directory rest
            ((directory.list key.kind (some key.context)).effect state).2

/-- The cache holds the graphs of some hierarchies as they are listed one after the other. -/
def BuiltInTurn (directory : Directory σ) (cache : Cache) : List HierarchyKey -> σ -> Prop
  | [], _ => True
  | key :: rest, state =>
      (exists graph, listedGraph directory key state = .ok graph ∧
        cache.graph? key = some graph) ∧
      BuiltInTurn directory cache rest
        ((directory.list key.kind (some key.context)).effect state).2

/-- These keys are loaded, the needed ones from the directory, and nothing else is changed. -/
structure Loads (directory : Directory σ) (h : Hierarchies σ) (keys : List HierarchyKey)
    (next : Hierarchies σ) : Prop where
  isLoaded_iff : forall key,
    next.cache.isLoaded key = true ↔ h.cache.isLoaded key = true ∨ key ∈ keys
  kept : forall key, key ∉ h.needed keys -> next.cache.graph? key = h.cache.graph? key
  built : BuiltInTurn directory next.cache (h.needed keys) h.directory
  version_eq : forall key, next.cache.version key = h.cache.version key
  sentinel_eq : next.cache.sentinel = h.cache.sentinel
  closed_eq : next.cache.closed = h.cache.closed

structure WarmsUp (directory : Directory σ) (h : Hierarchies σ) (keys : List HierarchyKey)
    (result : Except Fault Unit) (heard : List Event) (next : Hierarchies σ) : Prop where
  needed_nodup : (h.needed keys).Nodup
  mem_needed_iff : forall key, key ∈ h.needed keys ↔ key ∈ keys ∧ h.cache.isLoaded key = false
  complete : firstFailure directory (h.needed keys) h.directory = none ->
    result = .ok () ∧ heard = listingsInTurn directory (h.needed keys) h.directory ∧
      Loads directory h keys next
  stopped : forall key fault,
    firstFailure directory (h.needed keys) h.directory = some (key, fault) ->
      exists front back, keys = front ++ key :: back ∧ key ∉ front ∧
        h.cache.isLoaded key = false ∧ result = .error fault ∧
        heard = listingsInTurn directory (h.needed front ++ [key]) h.directory ∧
        Loads directory h front next

section InTurn

variable (directory : Directory σ)

theorem listingsInTurn_append (first second : List HierarchyKey) (state : σ) :
    listingsInTurn directory (first ++ second) state =
      listingsInTurn directory first state ++
        listingsInTurn directory second (afterListings directory first state) := by
  induction first generalizing state with
  | nil => rfl
  | cons key rest ih => exact congrArg (List.cons _) (ih _)

theorem firstFailure_append {first : List HierarchyKey} {state : σ}
    (hpassed : firstFailure directory first state = none) (second : List HierarchyKey) :
    firstFailure directory (first ++ second) state =
      firstFailure directory second (afterListings directory first state) := by
  induction first generalizing state with
  | nil => rfl
  | cons key rest ih =>
      rw [firstFailure] at hpassed
      rw [List.cons_append, firstFailure, afterListings]
      cases hlisted : listedGraph directory key state with
      | error fault =>
          rw [hlisted] at hpassed
          cases hpassed
      | ok graph =>
          rw [hlisted] at hpassed
          exact ih hpassed

end InTurn

/-!
# Needed keys
-/

theorem mem_needed_iff :
    key ∈ h.needed keys ↔ key ∈ keys ∧ h.cache.isLoaded key = false := by
  unfold needed
  rw [List.mem_eraseDups, List.mem_filter, Bool.not_eq_true']

theorem nodup_eraseDups (keys : List HierarchyKey) : keys.eraseDups.Nodup := by
  match keys with
  | [] => simp
  | key :: rest =>
      rw [List.eraseDups_cons, List.nodup_cons, List.mem_eraseDups, List.mem_filter]
      refine ⟨?_, nodup_eraseDups (rest.filter fun other => !other == key)⟩
      simp
termination_by keys.length
decreasing_by
  exact Nat.lt_succ_of_le (List.length_filter_le _ rest)

theorem nodup_needed (h : Hierarchies σ) (keys : List HierarchyKey) : (h.needed keys).Nodup :=
  nodup_eraseDups _

theorem needed_of_loaded (hloaded : h.cache.isLoaded key = true) : h.needed [key] = [] := by
  unfold needed
  rw [List.filter_singleton, hloaded]
  rfl

theorem needed_of_unloaded (hunloaded : h.cache.isLoaded key = false) :
    h.needed [key] = [key] := by
  unfold needed
  rw [List.filter_singleton, hunloaded]
  rfl

theorem Loads.needed_cons (hfirst : Loads directory h [key] mid) (rest : List HierarchyKey) :
    h.needed (key :: rest) = h.needed [key] ++ mid.needed rest := by
  have hisLoaded : forall other, mid.cache.isLoaded other =
      (h.cache.isLoaded other || other == key) := by
    intro other
    rw [Bool.eq_iff_iff, hfirst.isLoaded_iff]
    simp
  cases hkey : h.cache.isLoaded key with
  | true =>
      rw [needed_of_loaded hkey, List.nil_append]
      unfold needed
      rw [List.filter_cons_of_neg (by simp [hkey])]
      refine congrArg List.eraseDups (List.filter_congr fun other _ => ?_)
      rw [hisLoaded]
      by_cases hsame : other = key
      · rw [hsame, hkey]
        rfl
      · simp [hsame]
  | false =>
      rw [needed_of_unloaded hkey, List.singleton_append]
      unfold needed
      rw [List.filter_cons_of_pos (by simp [hkey]), List.eraseDups_cons, List.filter_filter]
      refine congrArg (fun others => key :: List.eraseDups others) ?_
      refine List.filter_congr fun other _ => ?_
      rw [hisLoaded, Bool.not_or, Bool.and_comm]

/-!
# One key after the other
-/

theorem loads_nil (directory : Directory σ) (h : Hierarchies σ) : Loads directory h [] h where
  isLoaded_iff := by simp
  kept := fun _ _ => rfl
  built := trivial
  version_eq := fun _ => rfl
  sentinel_eq := rfl
  closed_eq := rfl

theorem BuiltInTurn.kept {cache more : Cache} {state : σ}
    (hbuilt : BuiltInTurn directory cache keys state)
    (hkept : forall key, key ∈ keys -> more.graph? key = cache.graph? key) :
    BuiltInTurn directory more keys state := by
  induction keys generalizing state with
  | nil => trivial
  | cons key rest ih =>
      rcases hbuilt with ⟨⟨graph, hlisted, hgraph⟩, hrest⟩
      refine ⟨⟨graph, hlisted, ?_⟩, ih hrest fun other hother => ?_⟩
      · rw [hkept key List.mem_cons_self, hgraph]
      · exact hkept other (List.mem_cons_of_mem _ hother)

theorem BuiltInTurn.append {cache : Cache} {first second : List HierarchyKey} {state : σ}
    (hfirst : BuiltInTurn directory cache first state)
    (hsecond : BuiltInTurn directory cache second (afterListings directory first state)) :
    BuiltInTurn directory cache (first ++ second) state := by
  induction first generalizing state with
  | nil => exact hsecond
  | cons key rest ih => exact ⟨hfirst.1, ih hfirst.2 hsecond⟩

section Steps

variable (hfirst : Loads directory h [key] mid)
  (hdirectory : mid.directory = afterListings directory (h.needed [key]) h.directory)

include hfirst hdirectory

theorem Loads.cons (hrest : Loads directory mid rest next) :
    Loads directory h (key :: rest) next where
  isLoaded_iff := by
    intro other
    rw [hrest.isLoaded_iff, hfirst.isLoaded_iff, List.mem_singleton, List.mem_cons, or_assoc]
  kept := by
    intro other hother
    rw [hfirst.needed_cons rest, List.mem_append, not_or] at hother
    rw [hrest.kept other hother.2, hfirst.kept other hother.1]
  built := by
    rw [hfirst.needed_cons rest]
    refine BuiltInTurn.append (hfirst.built.kept fun other hother => ?_) ?_
    · apply hrest.kept
      intro hneeded
      have hloaded := (hfirst.isLoaded_iff other).mpr (Or.inr (mem_needed_iff.mp hother).1)
      rw [(mem_needed_iff.mp hneeded).2] at hloaded
      cases hloaded
    · rw [← hdirectory]
      exact hrest.built
  version_eq := fun other => (hrest.version_eq other).trans (hfirst.version_eq other)
  sentinel_eq := hrest.sentinel_eq.trans hfirst.sentinel_eq
  closed_eq := hrest.closed_eq.trans hfirst.closed_eq

theorem WarmsUp.cons {result : Except Fault Unit} {heard : List Event}
    (hpassed : firstFailure directory (h.needed [key]) h.directory = none)
    (hrest : WarmsUp directory mid rest result heard next) :
    WarmsUp directory h (key :: rest) result
      (listingsInTurn directory (h.needed [key]) h.directory ++ heard) next where
  needed_nodup := nodup_needed h _
  mem_needed_iff := fun _ => Hierarchies.mem_needed_iff
  complete := by
    intro hnone
    rw [hfirst.needed_cons rest, firstFailure_append directory hpassed, ← hdirectory] at hnone
    rcases hrest.complete hnone with ⟨hresult, hheard, hloads⟩
    refine ⟨hresult, ?_, hfirst.cons hdirectory hloads⟩
    rw [hfirst.needed_cons rest, listingsInTurn_append, ← hdirectory, hheard]
  stopped := by
    intro failed fault hfailed
    rw [hfirst.needed_cons rest, firstFailure_append directory hpassed, ← hdirectory] at hfailed
    rcases hrest.stopped failed fault hfailed with
      ⟨front, back, hkeys, hfront, hunloaded, hresult, hheard, hloads⟩
    have hbefore := mt (hfirst.isLoaded_iff failed).mpr (Bool.eq_false_iff.mp hunloaded)
    rw [not_or, List.mem_singleton] at hbefore
    refine ⟨key :: front, back, ?_, ?_, Bool.eq_false_iff.mpr hbefore.1, hresult, ?_,
      hfirst.cons hdirectory hloads⟩
    · rw [hkeys]
      rfl
    · rw [List.mem_cons, not_or]
      exact ⟨hbefore.2, hfront⟩
    · rw [hfirst.needed_cons front, List.append_assoc, listingsInTurn_append, ← hdirectory, hheard]

end Steps

/-!
# Asking for a graph
-/

variable {kind : HierarchyKind} {context : Option String}

theorem loads_afterHit (hloaded : h.cache.isLoaded key = true) :
    Loads directory h [key] (h.afterHit key) where
  isLoaded_iff := by
    intro other
    have hsame : (h.afterHit key).cache.isLoaded other = h.cache.isLoaded other := by
      simp [afterHit, Cache.isLoaded]
    rw [hsame, List.mem_singleton]
    exact (or_iff_left_of_imp fun hother => hother ▸ hloaded).symm
  kept := fun other _ => by simp [afterHit]
  built := by
    rw [needed_of_loaded hloaded]
    trivial
  version_eq := fun other => by simp [afterHit]
  sentinel_eq := by simp [afterHit]
  closed_eq := by simp [afterHit, Cache.count]

theorem loads_afterBuild {graph : Graph} (hunloaded : h.cache.isLoaded key = false)
    (hlisted : listedGraph directory key h.directory = .ok graph) (state : σ) :
    Loads directory h [key] ((h.afterMiss key).afterBuild key graph state) where
  isLoaded_iff := by
    intro other
    rw [List.mem_singleton]
    unfold Cache.isLoaded
    rw [graph?_afterBuild]
    by_cases hsame : other = key
    · simp [hsame]
    · simp [hsame, afterMiss]
  kept := by
    intro other hother
    rw [needed_of_unloaded hunloaded, List.mem_singleton] at hother
    rw [graph?_afterBuild, if_neg hother]
    simp [afterMiss]
  built := by
    rw [needed_of_unloaded hunloaded]
    refine ⟨⟨graph, hlisted, ?_⟩, trivial⟩
    rw [graph?_afterBuild, if_pos rfl]
  version_eq := fun other => by simp [afterBuild, afterMiss]
  sentinel_eq := by simp [afterBuild, afterMiss]
  closed_eq := by simp [afterBuild, afterMiss, Cache.count, Cache.publish]

theorem loads_afterFailure (key : HierarchyKey) (state : σ) :
    Loads directory h [] ((h.afterMiss key).afterFailure state) where
  isLoaded_iff := by
    intro other
    simp [afterFailure, afterMiss, Cache.isLoaded]
  kept := fun other _ => by simp [afterFailure, afterMiss]
  built := trivial
  version_eq := fun other => by simp [afterFailure, afterMiss]
  sentinel_eq := by simp [afterFailure, afterMiss]
  closed_eq := by simp [afterFailure, afterMiss, Cache.count]

/-!
# Loading in turn
-/

def load (directory : Directory σ) (steps : List (HierarchyKind × Option String)) :
    Action (Hierarchies σ) Unit :=
  Action.forEach steps fun step => do
    let _ ← graph directory step.1 step.2

theorem effect_load_cons (directory : Directory σ) (step : HierarchyKind × Option String)
    (steps : List (HierarchyKind × Option String)) (h : Hierarchies σ) :
    (load directory (step :: steps)).effect h =
      match (graph directory step.1 step.2).effect h with
      | (.error fault, next) => (.error fault, next)
      | (.ok _, next) => (load directory steps).effect next := by
  unfold load
  rw [Action.effect_forEach_cons, Action.effect_discard]
  rcases (graph directory step.1 step.2).effect h with ⟨result, next⟩
  cases result with
  | error fault => rfl
  | ok graph => rfl

theorem graph_cases (directory : Directory σ) (kind : HierarchyKind) (context : Option String)
    (hopen : h.cache.closed = false) :
    let key := h.cache.key kind context
    (exists graph next, (Hierarchies.graph directory kind context).effect h = (.ok graph, next) ∧
        Loads directory h [key] next ∧
        next.directory = afterListings directory (h.needed [key]) h.directory ∧
        firstFailure directory (h.needed [key]) h.directory = none) ∨
      exists fault next,
        (Hierarchies.graph directory kind context).effect h = (.error fault, next) ∧
        h.cache.isLoaded key = false ∧ listedGraph directory key h.directory = .error fault ∧
        Loads directory h [] next := by
  intro key
  cases hgraph : h.cache.graph? key with
  | some loaded =>
      have hloaded := h.cache.isLoaded_eq_true hgraph
      refine Or.inl ⟨loaded, h.afterHit key, effect_graph_of_loaded directory hopen hgraph,
        loads_afterHit hloaded, ?_, ?_⟩
      · rw [needed_of_loaded hloaded]
        rfl
      · rw [needed_of_loaded hloaded]
        rfl
  | none =>
      have hunloaded := h.cache.isLoaded_eq_false hgraph
      have hresult := result_build directory key (h.afterMiss key)
      rw [effect_graph_of_unloaded directory hopen hgraph, needed_of_unloaded hunloaded]
      rcases build_cases directory key (h.afterMiss key) with ⟨fault, hbuild⟩ | ⟨graph, _, hbuild⟩
      · rw [hbuild] at hresult ⊢
        exact Or.inr ⟨fault, _, rfl, hunloaded, hresult.symm, loads_afterFailure key _⟩
      · rw [hbuild] at hresult ⊢
        have hlisted : listedGraph directory key h.directory = .ok graph := hresult.symm
        refine Or.inl ⟨graph, _, rfl, loads_afterBuild hunloaded hlisted _, rfl, ?_⟩
        rw [firstFailure, hlisted]
        rfl

theorem listings_eq (directory : Directory σ) (hopen : h.cache.closed = false)
    (key : HierarchyKey) :
    listings directory key h = listingsInTurn directory (h.needed [key]) h.directory := by
  cases hgraph : h.cache.graph? key with
  | some loaded =>
      rw [listings_of_loaded directory hgraph, needed_of_loaded (h.cache.isLoaded_eq_true hgraph)]
      rfl
  | none =>
      rw [listings_of_unloaded directory hopen hgraph,
        needed_of_unloaded (h.cache.isLoaded_eq_false hgraph)]
      rfl

theorem warmsUp_nil (directory : Directory σ) (h : Hierarchies σ) :
    WarmsUp directory h [] (.ok ()) [] h where
  needed_nodup := nodup_needed h []
  mem_needed_iff := fun _ => mem_needed_iff
  complete := fun _ => ⟨rfl, rfl, loads_nil directory h⟩
  stopped := fun _ _ hfailed => nomatch hfailed

theorem warmsUp_of_failure {fault : Fault} (hunloaded : h.cache.isLoaded key = false)
    (hlisted : listedGraph directory key h.directory = .error fault)
    (hloads : Loads directory h [] next) (rest : List HierarchyKey) :
    WarmsUp directory h (key :: rest) (.error fault)
      (listingsInTurn directory (h.needed [key]) h.directory) next := by
  have hneeded : exists others, h.needed (key :: rest) = key :: others := by
    unfold needed
    rw [List.filter_cons_of_pos (by simp [hunloaded]), List.eraseDups_cons]
    exact ⟨_, rfl⟩
  rcases hneeded with ⟨others, hothers⟩
  refine ⟨nodup_needed h _, fun _ => mem_needed_iff, ?_, ?_⟩
  · intro hnone
    rw [hothers, firstFailure, hlisted] at hnone
    cases hnone
  · intro failed cause hfailed
    rw [hothers, firstFailure, hlisted] at hfailed
    cases hfailed
    refine ⟨[], rest, rfl, List.not_mem_nil, hunloaded, rfl, ?_, hloads⟩
    rw [needed_of_unloaded hunloaded]
    rfl

theorem warmsUp_load (directory : Directory σ) (steps : List (HierarchyKind × Option String))
    (hopen : h.cache.closed = false) :
    exists heard,
      Records directory h heard (fun directory => load directory steps) ∧
      WarmsUp directory h (steps.map fun step => h.cache.key step.1 step.2)
        ((load directory steps).effect h).1 heard ((load directory steps).effect h).2 := by
  induction steps generalizing h with
  | nil =>
      refine ⟨[], fun log => ?_, warmsUp_nil directory h⟩
      rw [List.append_nil]
      rfl
  | cons step rest ih =>
      have hrecorded := records_graph directory step.1 step.2 h
      rw [listings_eq directory hopen] at hrecorded
      rw [List.map_cons, effect_load_cons]
      rcases graph_cases directory step.1 step.2 hopen with
        ⟨graph, mid, hgraph, hloads, hdirectory, hpassed⟩ |
        ⟨fault, next, hgraph, hunloaded, hlisted, hloads⟩
      · have hsentinel : forall step : HierarchyKind × Option String,
            mid.cache.key step.1 step.2 = h.cache.key step.1 step.2 := by
          intro step
          unfold Cache.key
          rw [hloads.sentinel_eq]
        rcases ih (hloads.closed_eq.trans hopen) with ⟨heard, hrecords, hwarms⟩
        simp only [hsentinel] at hwarms
        refine
          ⟨listingsInTurn directory (h.needed [h.cache.key step.1 step.2]) h.directory ++ heard,
            fun log => ?_, ?_⟩
        · rw [effect_load_cons, effect_load_cons, hrecorded log, hgraph]
          dsimp only
          rw [hrecords, List.append_assoc]
        · rw [hgraph]
          exact hwarms.cons hloads hdirectory hpassed
      · refine ⟨listingsInTurn directory (h.needed [h.cache.key step.1 step.2]) h.directory,
          fun log => ?_, ?_⟩
        · rw [effect_load_cons, effect_load_cons, hrecorded log, hgraph]
        · rw [hgraph]
          exact warmsUp_of_failure hunloaded hlisted hloads _

end Hierarchies

namespace Engine

variable {σ τ : Type}

def warmUpSteps (contexts : List (Option String)) : List (HierarchyKind × Option String) :=
  contexts.flatMap fun context => [(.role, context), (.adminRole, context)]

def warmUpKeys (sentinel : String) (contexts : List (Option String)) : List HierarchyKey :=
  contexts.flatMap fun context => [.of sentinel .role context, .of sentinel .adminRole context]

theorem warmUpKeys_eq (cache : Cache) (contexts : List (Option String)) :
    warmUpKeys cache.sentinel contexts =
      (warmUpSteps contexts).map fun step => cache.key step.1 step.2 := by
  unfold warmUpKeys warmUpSteps
  rw [List.map_flatMap]
  rfl

theorem effect_warmUp (engine : Engine σ τ) (contexts : List (Option String))
    (world : World σ τ) :
    (engine.warmUp contexts).effect world =
      let loaded := (Hierarchies.load engine.directory (warmUpSteps contexts)).effect
        world.hierarchies
      (loaded.1, { world with hierarchies := loaded.2 }) := by
  unfold warmUp
  induction contexts generalizing world with
  | nil => rfl
  | cons context rest ih =>
      have hsteps : warmUpSteps (context :: rest) =
          (.role, context) :: (.adminRole, context) :: warmUpSteps rest := rfl
      rw [Action.effect_forEach_cons, hsteps, Hierarchies.effect_load_cons]
      unfold World.onHierarchies
      rw [Action.effect_bind, Action.effect_within]
      rcases (Hierarchies.graph engine.directory .role context).effect world.hierarchies with
        ⟨result, mid⟩
      cases result with
      | error fault => rfl
      | ok graph =>
          dsimp only
          rw [Action.effect_bind, Action.effect_within, Hierarchies.effect_load_cons]
          rcases (Hierarchies.graph engine.directory .adminRole context).effect mid with
            ⟨result, next⟩
          cases result with
          | error fault => rfl
          | ok graph => exact ih { world with hierarchies := next }

theorem warmsUp_warmUp (engine : Engine σ τ) {world : World σ τ}
    (hopen : world.hierarchies.cache.closed = false) (contexts : List (Option String)) :
    Hierarchies.WarmsUp engine.directory world.hierarchies
      (warmUpKeys world.hierarchies.cache.sentinel contexts)
      ((engine.warmUp contexts).run world).result
      ((engine.listening.warmUp contexts).run (world.listening [])).state.hierarchies.directory.2
      ((engine.warmUp contexts).run world).state.hierarchies := by
  rcases Hierarchies.warmsUp_load engine.directory (warmUpSteps contexts) hopen with
    ⟨heard, hrecords, hwarms⟩
  have hheard : (Hierarchies.load engine.listening.directory
      (warmUpSteps contexts)).effect (world.listening []).hierarchies = _ := hrecords []
  rw [Action.result_eq_effect, Action.state_eq_effect, Action.state_eq_effect,
    effect_warmUp, effect_warmUp, hheard, warmUpKeys_eq]
  exact hwarms

/--
A warm-up loads exactly the keys that it is asked for, and the directory lists each of them once
that was not loaded before.  A build that fails ends it.  The same holds of a new engine whose
settings name tenants.
-/
theorem warm_up_loads_once (engine : Engine σ τ) :
    (forall (world : World σ τ) (contexts : List (Option String)),
      world.hierarchies.cache.closed = false ->
        Hierarchies.WarmsUp engine.directory world.hierarchies
          (warmUpKeys world.hierarchies.cache.sentinel contexts)
          ((engine.warmUp contexts).run world).result
          ((engine.listening.warmUp contexts).run
            (world.listening [])).state.hierarchies.directory.2
          ((engine.warmUp contexts).run world).state.hierarchies) ∧
    forall (settings : Settings) (directory : σ) (trail : τ),
      Hierarchies.WarmsUp engine.directory ⟨Cache.empty settings.sentinel, directory⟩
        (warmUpKeys settings.sentinel (settings.preloadContexts.map some))
        (create settings engine directory trail).result
        (create settings engine.listening (directory, []) trail).state.hierarchies.directory.2
        (create settings engine directory trail).state.hierarchies := by
  constructor
  · intro world contexts hopen
    exact engine.warmsUp_warmUp hopen contexts
  · intro settings directory trail
    have hopen : (World.start settings.sentinel directory trail).hierarchies.cache.closed = false :=
      rfl
    exact engine.warmsUp_warmUp hopen (settings.preloadContexts.map some)

/-- Spellings of two tenants, one hierarchy loaded and edited before, and then a cycle. -/
theorem warm_up_loads_once_for_respelled_tenants :
    let edge : Relationship := ⟨.ofText "clerk" rfl, .ofText "boss" rfl⟩
    let back : Relationship := ⟨.ofText "boss" rfl, .ofText "clerk" rfl⟩
    let store := ((Store.add .adminRole back (some "u")).run
      ((Store.add .adminRole edge (some "u")).run (Store.empty "null")).state).state
    let engine : Engine Store Unit := ⟨Store.directory, none, true⟩
    let world := ((World.onHierarchies (Hierarchies.update Store.directory .role none edge
      (some "add"))).run (World.start "null" store ())).state
    let contexts := [none, some " NULL", some "t", some "  ", some "t "]
    let settings := { Settings.default with preloadContexts := ["null", "u", "t"] }
    let created := create settings engine store ()
    let needed : List HierarchyKey := [⟨.adminRole, ""⟩, ⟨.role, "t"⟩, ⟨.adminRole, "t"⟩]
    (((engine.warmUp contexts).run world).result = .ok () ∧
      ((engine.listening.warmUp contexts).run (world.listening [])).state.hierarchies.directory.2 =
        Hierarchies.listingsInTurn engine.directory needed world.hierarchies.directory ∧
      Hierarchies.Loads engine.directory world.hierarchies (warmUpKeys "null" contexts)
        ((engine.warmUp contexts).run world).state.hierarchies ∧
      (((engine.warmUp contexts).run world).state.hierarchies.cache.graph? ⟨.role, ""⟩).any
        (·.hasEdge edge) = true) ∧
    Hierarchies.WarmsUp engine.directory ⟨Cache.empty settings.sentinel, store⟩
        (warmUpKeys settings.sentinel (settings.preloadContexts.map some)) created.result
        (create settings engine.listening (store, []) ()).state.hierarchies.directory.2
        created.state.hierarchies ∧
      Action.failsWith Fault.isCycle created.result = true ∧
      created.state.hierarchies.cache.isLoaded ⟨.role, "u"⟩ = true ∧
      created.state.hierarchies.cache.isLoaded ⟨.role, "t"⟩ = false := by
  intro edge back store engine world contexts settings created needed
  have hopen : world.hierarchies.cache.closed = false := by decide +kernel
  have hsentinel : world.hierarchies.cache.sentinel = "null" := by decide +kernel
  have hneeded : world.hierarchies.needed (warmUpKeys "null" contexts) = needed := by
    decide +kernel
  have hpassed : Hierarchies.firstFailure engine.directory needed world.hierarchies.directory =
      none := Option.isNone_iff_eq_none.mp (by decide +kernel)
  have hcomplete := (engine.warm_up_loads_once.1 world contexts hopen).complete
  rw [hsentinel, hneeded] at hcomplete
  rcases hcomplete hpassed with ⟨hresult, hheard, hloads⟩
  have hcreated := engine.warm_up_loads_once.2 settings store ()
  refine ⟨⟨hresult, hheard, hloads, ?_⟩, hcreated, ?_, ?_, ?_⟩
  · decide +kernel
  · decide +kernel
  · decide +kernel
  · decide +kernel

end Engine
end Entitlement
