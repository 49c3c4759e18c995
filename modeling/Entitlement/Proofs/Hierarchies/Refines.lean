import Entitlement.Proofs.Hierarchies.Served

/-!
# The cache serves what the trace says

Every call keeps the cache in step with the trace.  A build makes the listing that it has asked for
the last build of its hierarchy; a change that returns is the next change since; dropping leaves
nothing to serve; everything else leaves both sides as they are.
-/

namespace Entitlement
namespace Hierarchies

variable {σ : Type}

/-!
# The invariant
-/

structure Tracks (sentinel : String) (h : Hierarchies σ) (trace : List Event) : Prop where
  sentinel_eq : h.cache.sentinel = sentinel
  sound : h.Sound
  none_of_closed : h.cache.closed = true -> forall key, h.cache.graph? key = none
  serves_iff : forall key served, Serves sentinel key trace served ↔
    exists graph, h.cache.graph? key = some graph ∧ graph.edges.toFinset = served
  version_eq : forall key, h.cache.version key =
    if h.cache.closed then 0 else trace.countP (Event.counts sentinel key)

theorem Tracks.open_of_loaded {sentinel : String} {h : Hierarchies σ} {trace : List Event}
    (htracks : Tracks sentinel h trace) {key : HierarchyKey}
    {graph : Graph} (hloaded : h.cache.graph? key = some graph) : h.cache.closed = false := by
  refine Bool.eq_false_iff.mpr fun hclosed => ?_
  rw [htracks.none_of_closed hclosed] at hloaded
  cases hloaded

structure SameCache (before after : Hierarchies σ) : Prop where
  sentinel_eq : after.cache.sentinel = before.cache.sentinel
  closed_eq : after.cache.closed = before.cache.closed
  graph?_eq : forall key, after.cache.graph? key = before.cache.graph? key
  version_eq : forall key, after.cache.version key = before.cache.version key

theorem Tracks.of_sameCache {sentinel : String} {before after : Hierarchies σ} {trace : List Event}
    (h : Tracks sentinel before trace) (hsame : SameCache before after) :
    Tracks sentinel after trace where
  sentinel_eq := hsame.sentinel_eq.trans h.sentinel_eq
  sound := by
    intro key graph hgraph
    rw [hsame.graph?_eq] at hgraph
    exact h.sound key graph hgraph
  none_of_closed := by
    intro hclosed key
    rw [hsame.closed_eq] at hclosed
    rw [hsame.graph?_eq]
    exact h.none_of_closed hclosed key
  serves_iff := by
    intro key served
    rw [hsame.graph?_eq]
    exact h.serves_iff key served
  version_eq := by
    intro key
    rw [hsame.version_eq, hsame.closed_eq]
    exact h.version_eq key

/-- An event that builds nothing, drops nothing and returns no change leaves no mark. -/
structure Event.Idle (sentinel : String) (event : Event) : Prop where
  not_builds : forall key edges, ¬ event.Builds key edges
  not_drops : forall key, ¬ event.Drops sentinel key
  onEdges_eq : forall key edges, event.onEdges sentinel key edges = edges
  not_counts : forall key, event.counts sentinel key = false

theorem Tracks.concat_idle {sentinel : String} {h : Hierarchies σ} {trace : List Event}
    (htracks : Tracks sentinel h trace) {event : Event} (hidle : event.Idle sentinel) :
    Tracks sentinel h (trace ++ [event]) where
  sentinel_eq := htracks.sentinel_eq
  sound := htracks.sound
  none_of_closed := htracks.none_of_closed
  serves_iff := by
    intro key served
    rw [serves_concat_of_kept (hidle.not_drops key) (hidle.not_builds key),
      ← htracks.serves_iff key served]
    simp only [hidle.onEdges_eq, exists_eq_right']
  version_eq := by
    intro key
    rw [List.countP_append, List.countP_singleton, hidle.not_counts]
    exact htracks.version_eq key

/-!
# Builds
-/

section Builds

variable {sentinel : String} {directory : Directory σ} {key other : HierarchyKey}
  {h : Hierarchies σ} {trace : List Event} {state : σ} {edges : List Relationship}

theorem eq_of_builds_listing (h : (listing directory key state).Builds other edges) :
    other = key := by
  rcases h with ⟨rows, hevent, _⟩
  unfold listing at hevent
  rcases key with ⟨kind, context⟩
  rcases other with ⟨otherKind, otherContext⟩
  injection hevent with hkind hcontext _
  dsimp only at hkind hcontext
  rw [hkind, Option.some.inj hcontext]

theorem idle_listing (hbuild : forall edges, ¬ (listing directory key state).Builds key edges) :
    (listing directory key state).Idle sentinel where
  not_builds := by
    intro other edges hbuilds
    have hsame := eq_of_builds_listing hbuilds
    rw [hsame] at hbuilds
    exact hbuild edges hbuilds
  not_drops := by
    intro other hdrops
    exact hdrops
  onEdges_eq := by
    intro other edges
    rfl
  not_counts := by
    intro other
    rfl

theorem sameCache_afterFailure (h : Hierarchies σ) (state : σ) :
    SameCache h (h.afterFailure state) :=
  ⟨rfl, rfl, fun _ => rfl, fun _ => rfl⟩

theorem toFinset_of_lists {graph : Graph} (h : graph.Lists edges) :
    graph.edges.toFinset = edges.toFinset := by
  refine Finset.ext fun edge => ?_
  rw [List.mem_toFinset, List.mem_toFinset, h.mem_edges_iff]

/-- A build that succeeds puts its own hierarchy in step with its listing, and no other out. -/
theorem Tracks.afterBuild (htracks : Tracks sentinel h trace) (hopen : h.cache.closed = false)
    (hbuild : (listing directory key state).Builds key edges) {graph : Graph}
    (hsound : graph.Sound) (hlists : graph.Lists edges) (after : σ) :
    Tracks sentinel (h.afterBuild key graph after) (trace ++ [listing directory key state]) where
  sentinel_eq := htracks.sentinel_eq
  sound := by
    intro other published hpublished
    rw [graph?_afterBuild] at hpublished
    split at hpublished
    · cases hpublished
      exact hsound
    · exact htracks.sound other published hpublished
  none_of_closed := by
    intro hclosed
    exact absurd (hopen.symm.trans hclosed) Bool.false_ne_true
  serves_iff := by
    intro other served
    rw [graph?_afterBuild]
    by_cases hsame : other = key
    · rw [if_pos hsame, hsame, serves_concat_of_builds hbuild, ← toFinset_of_lists hlists]
      simp only [Option.some.injEq, exists_eq_left', eq_comm]
    · have hother : forall more, ¬ (listing directory key state).Builds other more := by
        intro more hbuilds
        exact hsame (eq_of_builds_listing hbuilds)
      have hkept : ¬ (listing directory key state).Drops sentinel other := fun hdrops => hdrops
      rw [if_neg hsame, serves_concat_of_kept hkept hother, ← htracks.serves_iff other served]
      exact exists_eq_right'
  version_eq := by
    intro other
    have hversion : (h.afterBuild key graph after).cache.version other = h.cache.version other := by
      unfold Hierarchies.afterBuild
      rw [Cache.version_count, Cache.version_publish]
    rw [hversion, List.countP_append, List.countP_singleton]
    exact htracks.version_eq other

theorem Tracks.build (htracks : Tracks sentinel h trace) (hopen : h.cache.closed = false)
    (directory : Directory σ) (key : HierarchyKey) :
    Tracks sentinel ((build directory key).effect h).2
      (trace ++ [listing directory key h.directory]) := by
  rw [effect_build]
  rcases hlist : (directory.list key.kind (some key.context)).effect h.directory with
    ⟨result, state⟩
  have hevent : listing directory key h.directory =
      .listed key.kind (some key.context) result := by
    unfold listing
    rw [hlist]
  cases result with
  | error cause =>
      have hidle : (listing directory key h.directory).Idle sentinel := by
        refine idle_listing fun edges hbuilds => ?_
        rcases hbuilds with ⟨rows, hrows, _⟩
        rw [hevent] at hrows
        cases hrows
      exact (htracks.of_sameCache (sameCache_afterFailure h state)).concat_idle hidle
  | ok rows =>
      simp only
      cases hedited : Graph.empty.edited (Graph.addRows rows) with
      | error fault =>
          have hidle : (listing directory key h.directory).Idle sentinel := by
            refine idle_listing fun edges hbuilds => ?_
            rcases hbuilds with ⟨given, hgiven, hread, hedges⟩
            rw [hevent] at hgiven
            cases hgiven
            have hsettles := Graph.settles_edited edges
            rw [← Graph.edited_addRows hread, hedited] at hsettles
            cases hsettles with
            | refused hcyclic _ => exact hcyclic hedges
          exact (htracks.of_sameCache (sameCache_afterFailure h state)).concat_idle hidle
      | ok graph =>
          rcases Graph.exists_edges_of_edited hedited with ⟨edges, hread, hbuilt⟩
          have hsettles := Graph.settles_edited edges
          rw [hbuilt] at hsettles
          cases hsettles with
          | built hedges hsound hlists =>
              exact htracks.afterBuild hopen ⟨rows, hevent, hread, hedges⟩ hsound hlists state

end Builds

/-!
# Questions and finished calls
-/

section Calls

variable {sentinel : String} {directory : Directory σ} {h : Hierarchies σ} {trace : List Event}

theorem sameCache_afterEntry (h : Hierarchies σ) (key : HierarchyKey) :
    SameCache h (h.afterEntry key) where
  sentinel_eq := h.cache.sentinel_withEntry key
  closed_eq := h.cache.closed_withEntry key
  graph?_eq := h.cache.graph?_withEntry key
  version_eq := h.cache.version_withEntry key

theorem SameCache.count {before after : Hierarchies σ} (h : SameCache before after)
    (f : CacheCounts -> CacheCounts) :
    SameCache before { after with cache := after.cache.count f } :=
  ⟨h.sentinel_eq, h.closed_eq, h.graph?_eq, h.version_eq⟩

theorem sameCache_afterHit (h : Hierarchies σ) (key : HierarchyKey) :
    SameCache h (h.afterHit key) :=
  (sameCache_afterEntry h key).count fun counts => { counts with hits := counts.hits + 1 }

theorem sameCache_afterMiss (h : Hierarchies σ) (key : HierarchyKey) :
    SameCache h (h.afterMiss key) :=
  (sameCache_afterEntry h key).count fun counts => { counts with misses := counts.misses + 1 }

theorem Tracks.graph (htracks : Tracks sentinel h trace) (directory : Directory σ)
    (kind : HierarchyKind) (context : Option String) :
    Tracks sentinel ((graph directory kind context).effect h).2
      (trace ++ listings directory (h.cache.key kind context) h) := by
  cases hclosed : h.cache.closed with
  | true =>
      rw [effect_graph_of_closed directory kind context hclosed, listings_of_closed _ _ hclosed,
        List.append_nil]
      exact htracks
  | false =>
      cases hloaded : h.cache.graph? (h.cache.key kind context) with
      | some loaded =>
          rw [effect_graph_of_loaded directory hclosed hloaded, listings_of_loaded _ hloaded,
            List.append_nil]
          exact htracks.of_sameCache (sameCache_afterHit h _)
      | none =>
          have hsame := sameCache_afterMiss h (h.cache.key kind context)
          rw [effect_graph_of_unloaded directory hclosed hloaded,
            listings_of_unloaded _ hclosed hloaded]
          exact (htracks.of_sameCache hsame).build (hsame.closed_eq.trans hclosed) directory _

theorem Tracks.prepare (htracks : Tracks sentinel h trace) (directory : Directory σ)
    (kind : HierarchyKind) (context : Option String) :
    Tracks sentinel ((prepare directory kind context).effect h).2
      (trace ++ listings directory (h.cache.key kind context) h) := by
  cases hclosed : h.cache.closed with
  | true =>
      rw [effect_prepare_of_closed directory kind context hclosed, listings_of_closed _ _ hclosed,
        List.append_nil]
      exact htracks
  | false =>
      have hsame := sameCache_afterEntry h (h.cache.key kind context)
      cases hloaded : h.cache.graph? (h.cache.key kind context) with
      | some loaded =>
          rw [effect_prepare_of_loaded directory hclosed hloaded, listings_of_loaded _ hloaded,
            List.append_nil]
          exact htracks.of_sameCache hsame
      | none =>
          rw [effect_prepare_of_unloaded directory hclosed hloaded,
            listings_of_unloaded _ hclosed hloaded]
          exact (htracks.of_sameCache hsame).build (hsame.closed_eq.trans hclosed) directory _

theorem not_builds_finished (call : Call) (result : Except Fault Reply) (key : HierarchyKey)
    (edges : List Relationship) : ¬ (Event.finished call result).Builds key edges := by
  intro hbuilds
  rcases hbuilds with ⟨rows, hevent, _⟩
  cases hevent

theorem idle_graph (kind : HierarchyKind) (context : Option String)
    (result : Except Fault Reply) :
    (Event.finished (.graph kind context) result).Idle sentinel :=
  ⟨not_builds_finished _ _, fun _ hdrops => hdrops, fun _ _ => rfl, fun _ => rfl⟩

theorem idle_prepare (kind : HierarchyKind) (context : Option String)
    (result : Except Fault Reply) :
    (Event.finished (.prepare kind context) result).Idle sentinel :=
  ⟨not_builds_finished _ _, fun _ hdrops => hdrops, fun _ _ => rfl, fun _ => rfl⟩

theorem idle_refused (kind : HierarchyKind) (context : Option String) (edge : Relationship)
    (label : Option String) (fault : Fault) :
    (Event.finished (.change kind context edge label) (.error fault)).Idle sentinel :=
  ⟨not_builds_finished _ _, fun _ hdrops => hdrops, fun _ _ => rfl, fun _ => rfl⟩

/-!
# Changes
-/

theorem toFinset_of_changed {before after : Graph} (hbefore : before.Sound) (hafter : after.Sound)
    {edge : Relationship} {change : Change}
    (hedges : forall other, after.hasEdge other =
      if other = edge then change.leavesEdge else before.hasEdge other) :
    after.edges.toFinset = change.onEdges before.edges.toFinset edge := by
  refine Finset.ext fun other => ?_
  rw [List.mem_toFinset, hafter.wellFormed.mem_edges_iff, hedges other]
  cases change with
  | add =>
      rw [Change.onEdges, Finset.mem_insert, List.mem_toFinset, hbefore.wellFormed.mem_edges_iff]
      by_cases hsame : other = edge
      · simp [hsame, Change.leavesEdge]
      · simp [hsame]
  | remove =>
      rw [Change.onEdges, Finset.mem_erase, List.mem_toFinset, hbefore.wellFormed.mem_edges_iff]
      by_cases hsame : other = edge
      · simp [hsame, Change.leavesEdge]
      · simp [hsame]

theorem changed_iff {before : Graph} (hbefore : before.Sound) {edge : Relationship}
    {change : Change} {changed : Bool}
    (hchanged : changed = (before.hasEdge edge != change.leavesEdge)) :
    changed = true ↔
      change.onEdges before.edges.toFinset edge ≠ before.edges.toFinset := by
  rw [hchanged]
  cases change with
  | add =>
      rw [Change.onEdges, Ne, Finset.insert_eq_self, List.mem_toFinset,
        hbefore.wellFormed.mem_edges_iff]
      simp [Change.leavesEdge]
  | remove =>
      rw [Change.onEdges, Ne, Finset.erase_eq_self, List.mem_toFinset,
        hbefore.wellFormed.mem_edges_iff]
      simp [Change.leavesEdge]

theorem version_afterChange (h : Hierarchies σ) (key : HierarchyKey) (graph : Graph)
    (changed : Bool) (other : HierarchyKey) :
    (h.afterChange key graph changed).cache.version other =
      if changed = true ∧ other = key then h.cache.version key + 1 else h.cache.version other := by
  unfold afterChange
  rw [Cache.version_count]
  cases changed with
  | true => simp
  | false => simp

theorem exists_graph?_afterChange {key : HierarchyKey} {current : Graph}
    (hloaded : h.cache.graph? key = some current) (updated : Graph) (changed : Bool) :
    exists published, (h.afterChange key updated changed).cache.graph? key = some published := by
  rw [graph?_afterChange]
  cases changed with
  | true => exact ⟨updated, if_pos ⟨rfl, rfl⟩⟩
  | false => exact ⟨current, (if_neg fun hboth => Bool.false_ne_true hboth.1).trans hloaded⟩

section Changed

variable {kind : HierarchyKind} {context : Option String} {edge : Relationship}
  {label : Option String} {change : Change} {changed : Bool} {key : HierarchyKey}
  {result : Reply}

theorem onEdges_of_key (hkey : HierarchyKey.of sentinel kind context = key)
    (hlabel : Change.parse label = .ok change) (edges : Finset Relationship) :
    (Event.finished (.change kind context edge label) (.ok result)).onEdges sentinel key edges =
      change.onEdges edges edge := by
  simp only [Event.onEdges, if_pos hkey, hlabel]

theorem onEdges_of_other (hkey : HierarchyKey.of sentinel kind context ≠ key)
    (edges : Finset Relationship) :
    (Event.finished (.change kind context edge label) (.ok result)).onEdges sentinel key edges =
      edges := by
  simp only [Event.onEdges, if_neg hkey]

/-- A change that has returned is the next change of the served edges. -/
theorem Tracks.afterChange (htracks : Tracks sentinel h trace) (hopen : h.cache.closed = false)
    (hkey : HierarchyKey.of sentinel kind context = key) {current updated : Graph}
    (hloaded : h.cache.graph? key = some current) (hlabel : Change.parse label = .ok change)
    (happly : (Graph.apply edge change).effect current = (.ok changed, updated)) :
    Tracks sentinel (h.afterChange key updated changed)
      (trace ++ [.finished (.change kind context edge label) (.ok (.changed changed))]) where
  sentinel_eq := (sentinel_afterChange h key updated changed).trans htracks.sentinel_eq
  sound := by
    have hchanges := (htracks.sound key current hloaded).changes happly
    exact htracks.sound.afterChange hchanges.sound key changed
  none_of_closed := by
    intro hclosed
    rw [closed_afterChange, hopen] at hclosed
    cases hclosed
  serves_iff := by
    intro other served
    have hchanges := (htracks.sound key current hloaded).changes happly
    have hsound := htracks.sound.afterChange hchanges.sound key changed
    have hkept : ¬ (Event.finished (.change kind context edge label)
        (.ok (.changed changed))).Drops sentinel other := fun hdrops => hdrops
    rw [serves_concat_of_kept hkept (not_builds_finished _ _ other)]
    simp only [htracks.serves_iff]
    by_cases hsame : other = key
    · rcases exists_graph?_afterChange hloaded updated changed with ⟨published, hpublished⟩
      have hedges := toFinset_of_changed (htracks.sound key current hloaded)
        (hsound key published hpublished) (hasEdge_of_afterChange hloaded hchanges hpublished)
      simp only [hsame, hpublished, hloaded, onEdges_of_key hkey hlabel, Option.some.injEq,
        exists_eq_left', hedges]
      exact eq_comm
    · have hother : HierarchyKey.of sentinel kind context ≠ other := by
        intro hof
        exact hsame (hof.symm.trans hkey)
      rw [graph?_afterChange, if_neg fun hboth => hsame hboth.2]
      simp only [onEdges_of_other hother, exists_eq_right']
  version_eq := by
    intro other
    have hversion := htracks.version_eq other
    rw [hopen] at hversion
    rw [version_afterChange, closed_afterChange, hopen, List.countP_append, List.countP_singleton]
    cases changed with
    | false =>
        rw [if_neg fun hboth => Bool.false_ne_true hboth.1]
        exact hversion
    | true =>
        have hcounts : (Event.finished (.change kind context edge label)
            (.ok (.changed true))).counts sentinel other = decide (other = key) := by
          simp only [Event.counts, hkey]
          exact decide_eq_decide.mpr eq_comm
        by_cases hsame : other = key
        · rw [if_pos ⟨rfl, hsame⟩, hcounts, if_pos (decide_eq_true hsame), ← hsame, hversion]
          rfl
        · rw [if_neg fun hboth => hsame hboth.2, hcounts, decide_eq_false hsame]
          exact hversion

end Changed

theorem Tracks.change (htracks : Tracks sentinel h trace) (directory : Directory σ)
    (kind : HierarchyKind) (context : Option String) (edge : Relationship)
    (label : Option String) :
    Tracks sentinel ((change directory kind context edge label).effect h).2
      (trace ++ listings directory (h.cache.key kind context) h ++
        [.finished (.change kind context edge label)
          (((change directory kind context edge label).effect h).1.map .changed)]) := by
  have hprepared := htracks.prepare directory kind context
  rcases change_outcomes directory kind context edge label h with ⟨fault, hfail⟩ |
    ⟨state, current, change, changed, updated, hprepare, hlabel, happly, hchange⟩
  · rw [hfail]
    exact hprepared.concat_idle (idle_refused kind context edge label fault)
  · have hkey : HierarchyKey.of sentinel kind context = h.cache.key kind context := by
      rw [← htracks.sentinel_eq]
      rfl
    have hloaded := graph?_of_prepare hprepare
    rw [hprepare] at hprepared
    rw [hchange]
    exact hprepared.afterChange (hprepared.open_of_loaded hloaded) hkey hloaded hlabel happly

/-!
# Dropped graphs
-/

structure Dropped (sentinel : String) (event : Event) (before after : Hierarchies σ) : Prop where
  sentinel_eq : after.cache.sentinel = before.cache.sentinel
  closed_eq : after.cache.closed = before.cache.closed
  graph?_dropped : forall key, event.Drops sentinel key -> after.cache.graph? key = none
  graph?_kept : forall key, ¬ event.Drops sentinel key ->
    after.cache.graph? key = before.cache.graph? key
  version_eq : forall key, after.cache.version key = before.cache.version key
  not_builds : forall key edges, ¬ event.Builds key edges
  onEdges_eq : forall key edges, event.onEdges sentinel key edges = edges
  not_counts : forall key, event.counts sentinel key = false

theorem Dropped.serves_iff {event : Event} {after : Hierarchies σ}
    (hdropped : Dropped sentinel event h after) (htracks : Tracks sentinel h trace)
    (key : HierarchyKey) (served : Finset Relationship) :
    Serves sentinel key (trace ++ [event]) served ↔
      exists graph, after.cache.graph? key = some graph ∧ graph.edges.toFinset = served := by
  by_cases hdrops : event.Drops sentinel key
  · refine iff_of_false (not_serves_concat_of_drops hdrops (hdropped.not_builds key)) ?_
    intro hgraph
    rcases hgraph with ⟨graph, hgraph, _⟩
    rw [hdropped.graph?_dropped key hdrops] at hgraph
    cases hgraph
  · rw [serves_concat_of_kept hdrops (hdropped.not_builds key), hdropped.graph?_kept key hdrops,
      ← htracks.serves_iff key served]
    simp only [hdropped.onEdges_eq, exists_eq_right']

theorem Tracks.dropped (htracks : Tracks sentinel h trace) {event : Event} {after : Hierarchies σ}
    (hdropped : Dropped sentinel event h after) : Tracks sentinel after (trace ++ [event]) where
  sentinel_eq := hdropped.sentinel_eq.trans htracks.sentinel_eq
  sound := by
    intro key graph hgraph
    by_cases hdrops : event.Drops sentinel key
    · rw [hdropped.graph?_dropped key hdrops] at hgraph
      cases hgraph
    · rw [hdropped.graph?_kept key hdrops] at hgraph
      exact htracks.sound key graph hgraph
  none_of_closed := by
    intro hclosed key
    rw [hdropped.closed_eq] at hclosed
    by_cases hdrops : event.Drops sentinel key
    · exact hdropped.graph?_dropped key hdrops
    · rw [hdropped.graph?_kept key hdrops]
      exact htracks.none_of_closed hclosed key
  serves_iff := hdropped.serves_iff htracks
  version_eq := by
    intro key
    rw [hdropped.version_eq, hdropped.closed_eq, List.countP_append, List.countP_singleton,
      hdropped.not_counts]
    exact htracks.version_eq key

theorem Tracks.invalidate (htracks : Tracks sentinel h trace) (kind : HierarchyKind)
    (context : Option String) (result : Except Fault Reply) :
    Tracks sentinel ((invalidate kind context : Action (Hierarchies σ) Bool).effect h).2
      (trace ++ [.finished (.invalidate kind context) result]) := by
  have hkey : HierarchyKey.of sentinel kind context = h.cache.key kind context := by
    rw [← htracks.sentinel_eq]
    rfl
  apply htracks.dropped
  rw [effect_invalidate]
  cases hloaded : h.cache.isLoaded (h.cache.key kind context) with
  | false =>
      refine ⟨rfl, rfl, ?_, fun _ _ => rfl, fun _ => rfl, not_builds_finished _ _, fun _ _ => rfl,
        fun _ => rfl⟩
      intro key hdrops
      have hsame : HierarchyKey.of sentinel kind context = key := hdrops
      rw [← hsame, hkey]
      exact Option.not_isSome_iff_eq_none.mp (Bool.eq_false_iff.mp hloaded)
  | true =>
      refine ⟨Cache.sentinel_drop _ _, Cache.closed_drop _ _, ?_, ?_, Cache.version_drop _ _,
        not_builds_finished _ _, fun _ _ => rfl, fun _ => rfl⟩
      · intro key hdrops
        have hsame : HierarchyKey.of sentinel kind context = key := hdrops
        exact (Cache.graph?_drop _ _ _).trans (if_pos (hsame.symm.trans hkey))
      · intro key hkept
        refine (Cache.graph?_drop _ _ _).trans (if_neg fun hsame => hkept ?_)
        exact hkey.trans hsame.symm

theorem Tracks.clear (htracks : Tracks sentinel h trace) (result : Except Fault Reply) :
    Tracks sentinel ((clear : Action (Hierarchies σ) Unit).effect h).2
      (trace ++ [.finished .clear result]) := by
  apply htracks.dropped
  refine ⟨rfl, rfl, fun key _ => Cache.graph?_dropAll _ key, ?_, Cache.version_dropAll _,
    not_builds_finished _ _, fun _ _ => rfl, fun _ => rfl⟩
  intro key hkept
  exact absurd trivial hkept

theorem Tracks.close (htracks : Tracks sentinel h trace) (result : Except Fault Reply) :
    Tracks sentinel ((close : Action (Hierarchies σ) Unit).effect h).2
      (trace ++ [.finished .close result]) where
  sentinel_eq := htracks.sentinel_eq
  sound := sound_of_graph?_eq_none fun _ => rfl
  none_of_closed := fun _ _ => rfl
  serves_iff := by
    intro key served
    have hdrops : (Event.finished .close result).Drops sentinel key := trivial
    refine iff_of_false (not_serves_concat_of_drops hdrops (not_builds_finished _ _ key)) ?_
    intro hgraph
    rcases hgraph with ⟨graph, hgraph, _⟩
    cases hgraph
  version_eq := fun _ => rfl

end Calls

/-!
# Runs
-/

section Runs

variable {sentinel : String} {directory : Directory σ} {h : Hierarchies σ} {trace : List Event}

theorem tracks_start (sentinel : String) (state : σ) :
    Tracks sentinel ⟨Cache.empty sentinel, state⟩ [] where
  sentinel_eq := rfl
  sound := sound_of_graph?_eq_none fun _ => rfl
  none_of_closed := fun _ _ => rfl
  serves_iff := by
    intro key served
    constructor
    · intro hserves
      rcases hserves with ⟨edges, since, ⟨⟨before, event, hsplit, _⟩, _, _⟩, _⟩
      cases before with
      | nil => cases hsplit
      | cons first rest => cases hsplit
    · intro hgraph
      rcases hgraph with ⟨graph, hgraph, _⟩
      cases hgraph
  version_eq := fun _ => rfl

theorem Tracks.call (htracks : Tracks sentinel h trace) (directory : Directory σ) (call : Call) :
    Tracks sentinel ((call.answer directory).effect h).2
      (trace ++ call.listings directory h ++
        [.finished call ((call.answer directory).effect h).1]) := by
  cases call with
  | graph kind context =>
      simp only [Call.answer, Call.listings, Action.effect_map]
      exact (htracks.graph directory kind context).concat_idle (idle_graph kind context _)
  | prepare kind context =>
      simp only [Call.answer, Call.listings, Action.effect_map]
      exact (htracks.prepare directory kind context).concat_idle (idle_prepare kind context _)
  | change kind context edge label =>
      simp only [Call.answer, Call.listings, Action.effect_map]
      exact htracks.change directory kind context edge label
  | invalidate kind context =>
      simp only [Call.answer, Call.listings, Action.effect_map, List.append_nil]
      exact htracks.invalidate kind context _
  | clear =>
      rw [Call.listings, List.append_nil]
      exact htracks.clear _
  | close =>
      rw [Call.listings, List.append_nil]
      exact htracks.close _

theorem tracks_of_observed (hobserved : Observed directory sentinel h trace) :
    Tracks sentinel h trace := by
  induction hobserved with
  | start state => exact tracks_start sentinel state
  | @call h trace call _ ih =>
      rw [asked_eq]
      exact ih.call directory call
  | outside state _ ih => exact ih.of_sameCache ⟨rfl, rfl, fun _ => rfl, fun _ => rfl⟩

/-!
# What is served
-/

theorem Tracks.isLoaded_iff (htracks : Tracks sentinel h trace) (key : HierarchyKey) :
    h.cache.isLoaded key = true ↔ exists edges since, LastBuild sentinel key trace edges since := by
  have hserves : (exists edges since, LastBuild sentinel key trace edges since) ↔
      exists served, Serves sentinel key trace served := by
    constructor
    · intro hlast
      rcases hlast with ⟨edges, since, hlast⟩
      exact ⟨_, edges, since, hlast, rfl⟩
    · intro hserves
      rcases hserves with ⟨_, edges, since, hlast, _⟩
      exact ⟨edges, since, hlast⟩
  rw [hserves, Cache.isLoaded, Option.isSome_iff_exists]
  simp only [htracks.serves_iff]
  constructor
  · intro hloaded
    rcases hloaded with ⟨graph, hgraph⟩
    exact ⟨_, graph, hgraph, rfl⟩
  · intro hserved
    rcases hserved with ⟨_, graph, hgraph, _⟩
    exact ⟨graph, hgraph⟩

/-- What is served is answered without asking the directory again. -/
theorem Tracks.served (htracks : Tracks sentinel h trace) (directory : Directory σ)
    {kind : HierarchyKind} {context : Option String} {served : Finset Relationship}
    (hserves : Serves sentinel (h.cache.key kind context) trace served) :
    asked directory (.graph kind context) h = [] ∧
      exists graph, ((Hierarchies.graph directory kind context).run h).result = .ok graph ∧
        graph.edges.toFinset = served := by
  rcases (htracks.serves_iff _ served).mp hserves with ⟨graph, hgraph, hedges⟩
  rw [asked_eq, Action.result_eq_effect,
    effect_graph_of_loaded directory (htracks.open_of_loaded hgraph) hgraph]
  exact ⟨listings_of_loaded directory hgraph, graph, rfl, hedges⟩

theorem Tracks.serves_of_graph (htracks : Tracks sentinel h trace) (directory : Directory σ)
    {kind : HierarchyKind} {context : Option String} {graph : Graph}
    (hgraph : ((Hierarchies.graph directory kind context).run h).result = .ok graph) :
    Serves sentinel (h.cache.key kind context)
      (trace ++ asked directory (.graph kind context) h) graph.edges.toFinset := by
  have hafter := htracks.graph directory kind context
  rw [Action.result_eq_effect] at hgraph
  rcases heffect : (Hierarchies.graph directory kind context).effect h with ⟨result, after⟩
  rw [heffect] at hgraph hafter
  cases hgraph
  rw [asked_eq]
  exact (hafter.serves_iff _ _).mpr ⟨graph, graph?_of_graph heffect, rfl⟩

theorem Tracks.changed (htracks : Tracks sentinel h trace) {kind : HierarchyKind}
    {context : Option String} {edge : Relationship} {label : Option String} {changed : Bool}
    {after : Hierarchies σ}
    (hchange : (Hierarchies.change directory kind context edge label).effect h =
      (.ok changed, after)) :
    exists change served graph, Change.parse label = .ok change ∧
      Serves sentinel (h.cache.key kind context)
        (trace ++ asked directory (.change kind context edge label) h) served ∧
      after.cache.graph? (h.cache.key kind context) = some graph ∧
      graph.edges.toFinset = change.onEdges served edge ∧
      (changed = true ↔ change.onEdges served edge ≠ served) := by
  rcases change_outcomes directory kind context edge label h with ⟨fault, hfail⟩ |
    ⟨state, current, change, changed', updated, hprepare, hlabel, happly, hchange'⟩
  · rw [hchange] at hfail
    cases hfail
  · rw [hchange] at hchange'
    cases hchange'
    have hprepared := htracks.prepare directory kind context
    rw [hprepare] at hprepared
    have hloaded := graph?_of_prepare hprepare
    have hcurrent := hprepared.sound _ current hloaded
    have hchanges := hcurrent.changes happly
    have hsound := hprepared.sound.afterChange hchanges.sound (h.cache.key kind context) changed
    rcases exists_graph?_afterChange hloaded updated changed with ⟨graph, hgraph⟩
    have hedges := toFinset_of_changed hcurrent (hsound _ graph hgraph)
      (hasEdge_of_afterChange hloaded hchanges hgraph)
    rw [asked_eq]
    exact ⟨change, current.edges.toFinset, graph, hlabel,
      (hprepared.serves_iff _ _).mpr ⟨current, hloaded, rfl⟩, hgraph, hedges,
      changed_iff hcurrent hchanges.changed_eq⟩

/-!
# Refused changes
-/

theorem prepare_cases (directory : Directory σ) (kind : HierarchyKind) (context : Option String)
    (h : Hierarchies σ) :
    SameCache h ((prepare directory kind context).effect h).2 ∨
      h.cache.closed = false ∧ h.cache.graph? (h.cache.key kind context) = none ∧
        exists graph state, Lists directory h.directory (h.cache.key kind context) graph ∧
          ((prepare directory kind context).effect h).2 =
            (h.afterEntry (h.cache.key kind context)).afterBuild (h.cache.key kind context)
              graph state := by
  have hsame := sameCache_afterEntry h (h.cache.key kind context)
  cases hclosed : h.cache.closed with
  | true =>
      rw [effect_prepare_of_closed directory kind context hclosed]
      exact Or.inl ⟨rfl, rfl, fun _ => rfl, fun _ => rfl⟩
  | false =>
      cases hloaded : h.cache.graph? (h.cache.key kind context) with
      | some loaded =>
          rw [effect_prepare_of_loaded directory hclosed hloaded]
          exact Or.inl hsame
      | none =>
          rw [effect_prepare_of_unloaded directory hclosed hloaded]
          rcases build_cases directory (h.cache.key kind context)
              (h.afterEntry (h.cache.key kind context)) with
            ⟨fault, hfail⟩ | ⟨graph, hlists, hbuild⟩
          · rw [hfail]
            exact Or.inl ⟨hsame.sentinel_eq, hsame.closed_eq, hsame.graph?_eq, hsame.version_eq⟩
          · rw [hbuild]
            exact Or.inr ⟨rfl, rfl, graph, _, hlists, rfl⟩

theorem state_of_refused {kind : HierarchyKind} {context : Option String} {edge : Relationship}
    {label : Option String} {fault : Fault} {state : Hierarchies σ}
    (hrefused : (change directory kind context edge label).effect h = (.error fault, state)) :
    state = ((prepare directory kind context).effect h).2 := by
  rcases change_outcomes directory kind context edge label h with ⟨fault', hfail⟩ |
    ⟨prepared, current, change, changed, updated, _, _, _, hchange⟩
  · rw [hrefused] at hfail
    exact congrArg Prod.snd hfail
  · rw [hrefused] at hchange
    cases hchange

theorem lastBuild_of_lists {key : HierarchyKey} {graph : Graph}
    (hlists : Lists directory h.directory key graph) (sentinel : String) (trace : List Event) :
    exists edges, LastBuild sentinel key (trace ++ [listing directory key h.directory]) edges [] ∧
      graph.edges.toFinset = edges.toFinset := by
  rcases hlists with ⟨rows, hrows, hgraph⟩
  rcases Graph.exists_edges_of_edited hgraph with ⟨edges, hread, hbuilt⟩
  have hsettles := Graph.settles_edited edges
  rw [hbuilt] at hsettles
  cases hsettles with
  | built hedges _ hgraph =>
      have hevent : listing directory key h.directory =
          .listed key.kind (some key.context) (.ok rows) := by
        unfold listing
        rw [hrows]
      refine ⟨edges, lastBuild_concat.mpr (Or.inl ⟨rfl, rows, hevent, hread, hedges⟩), ?_⟩
      exact toFinset_of_lists hgraph

/-- What a refused change may leave behind: at most the graph that was built for it. -/
structure LeavesAlone (directory : Directory σ) (sentinel : String) (trace : List Event)
    (call : Call) (key : HierarchyKey) (before after : Hierarchies σ) : Prop where
  version_eq : forall other, after.cache.version other = before.cache.version other
  graph?_other : forall other, other ≠ key ->
    after.cache.graph? other = before.cache.graph? other
  graph?_key : after.cache.graph? key = before.cache.graph? key ∨
    before.cache.graph? key = none ∧
      exists graph edges, after.cache.graph? key = some graph ∧
        LastBuild sentinel key (trace ++ asked directory call before) edges [] ∧
        graph.edges.toFinset = edges.toFinset

theorem leavesAlone_of_refused {kind : HierarchyKind} {context : Option String}
    {edge : Relationship} {label : Option String} {fault : Fault} {state : Hierarchies σ}
    (hrefused : (change directory kind context edge label).effect h = (.error fault, state))
    (sentinel : String) (trace : List Event) :
    LeavesAlone directory sentinel trace (.change kind context edge label)
      (h.cache.key kind context) h state := by
  rw [state_of_refused hrefused]
  rcases prepare_cases directory kind context h with
    hsame | ⟨hopen, hnone, graph, state, hlists, hstate⟩
  · exact ⟨hsame.version_eq, fun other _ => hsame.graph?_eq other, Or.inl (hsame.graph?_eq _)⟩
  · have hsame := sameCache_afterEntry h (h.cache.key kind context)
    rw [hstate]
    refine ⟨?_, ?_, Or.inr ⟨hnone, graph, ?_⟩⟩
    · intro other
      exact (Cache.version_publish _ _ other graph).trans (hsame.version_eq other)
    · intro other hother
      rw [graph?_afterBuild, if_neg hother]
      exact hsame.graph?_eq other
    · rcases lastBuild_of_lists hlists sentinel trace with ⟨edges, hlast, hedges⟩
      refine ⟨edges, ?_, ?_, hedges⟩
      · rw [graph?_afterBuild, if_pos rfl]
      · rw [asked_eq, Call.listings, listings_of_unloaded directory hopen hnone]
        exact hlast

end Runs

end Hierarchies

/--
The trace alone says what the cache serves.  A hierarchy is loaded exactly if a build of it has
succeeded and nothing has dropped it since; a question answers the edges of this build with all
changes that have returned since; a change answers true exactly if it makes a difference to them,
and a refused change leaves at most the graph behind that was built for it.
-/
theorem cache_refines_trace {σ : Type} {directory : Directory σ} {sentinel : String}
    {h : Hierarchies σ} {trace : List Hierarchies.Event}
    (hobserved : Hierarchies.Observed directory sentinel h trace) :
    (forall key, (h.cache.isLoaded key = true ↔
        exists edges since, Hierarchies.LastBuild sentinel key trace edges since) ∧
      h.cache.version key =
        if h.cache.closed then 0 else trace.countP (Hierarchies.Event.counts sentinel key)) ∧
    forall kind context,
      (forall served, Hierarchies.Serves sentinel (HierarchyKey.of sentinel kind context) trace
          served ->
        Hierarchies.asked directory (.graph kind context) h = [] ∧
          exists graph, ((Hierarchies.graph directory kind context).run h).result = .ok graph ∧
            graph.edges.toFinset = served) ∧
      (forall graph, ((Hierarchies.graph directory kind context).run h).result = .ok graph ->
        Hierarchies.Serves sentinel (HierarchyKey.of sentinel kind context)
          (trace ++ Hierarchies.asked directory (.graph kind context) h) graph.edges.toFinset) ∧
      forall edge label,
        match (Hierarchies.change directory kind context edge label).effect h with
        | (.ok changed, after) =>
            exists change served graph, Change.parse label = .ok change ∧
              Hierarchies.Serves sentinel (HierarchyKey.of sentinel kind context)
                (trace ++ Hierarchies.asked directory (.change kind context edge label) h)
                served ∧
              after.cache.graph? (HierarchyKey.of sentinel kind context) = some graph ∧
              graph.edges.toFinset = change.onEdges served edge ∧
              (changed = true ↔ change.onEdges served edge ≠ served)
        | (.error _, after) =>
            Hierarchies.LeavesAlone directory sentinel trace (.change kind context edge label)
              (HierarchyKey.of sentinel kind context) h after := by
  have htracks := Hierarchies.tracks_of_observed hobserved
  refine ⟨fun key => ⟨htracks.isLoaded_iff key, htracks.version_eq key⟩, fun kind context => ?_⟩
  have hkey : h.cache.key kind context = HierarchyKey.of sentinel kind context := by
    rw [← htracks.sentinel_eq]
    rfl
  refine ⟨?_, ?_, ?_⟩
  · intro served hserves
    rw [← hkey] at hserves
    exact htracks.served directory hserves
  · intro graph hgraph
    rw [← hkey]
    exact htracks.serves_of_graph directory hgraph
  · intro edge label
    rw [← hkey]
    rcases hchange : (Hierarchies.change directory kind context edge label).effect h with
      ⟨result, after⟩
    cases result with
    | error fault => exact Hierarchies.leavesAlone_of_refused hchange sentinel trace
    | ok changed => exact htracks.changed hchange

theorem cache_refines_trace_after_a_change :
    let edge : Relationship := ⟨.ofText "clerk" rfl, .ofText " Boss " rfl⟩
    exists (h : Hierarchies Store) (trace : List Hierarchies.Event) (graph : Graph),
      Hierarchies.Observed Store.directory "null" h trace ∧
        trace.countP (Hierarchies.Event.counts "null" ⟨.role, ""⟩) = 1 ∧
        ((Hierarchies.graph Store.directory .role (some " NULL ")).run h).result = .ok graph ∧
        Hierarchies.Serves "null" ⟨.role, ""⟩ trace graph.edges.toFinset ∧
        ((Hierarchies.change Store.directory .role none edge (some "add")).run h).result.toOption =
          some false := by
  intro edge
  let call : Hierarchies.Call := .change .role none edge (some "add")
  let h := ((call.answer Store.directory).effect ⟨Cache.empty "null", Store.empty "null"⟩).2
  have hobserved : Hierarchies.Observed Store.directory "null" h _ :=
    .call call (.start (Store.empty "null"))
  rcases cache_refines_trace hobserved with ⟨hkeys, hcalls⟩
  have hkey : HierarchyKey.of "null" .role (some " NULL ") = ⟨.role, ""⟩ := by decide +kernel
  have hloaded : h.cache.isLoaded ⟨.role, ""⟩ = true := by decide +kernel
  have hopen : h.cache.closed = false := by decide +kernel
  have hone : h.cache.version ⟨.role, ""⟩ = 1 := by decide +kernel
  rcases hkeys ⟨.role, ""⟩ with ⟨hbuilt, hversion⟩
  rw [hone, hopen] at hversion
  rcases hbuilt.mp hloaded with ⟨edges, since, hlast⟩
  have hanswers := hcalls .role (some " NULL ")
  rw [hkey] at hanswers
  rcases hanswers.1 _ ⟨edges, since, hlast, rfl⟩ with ⟨hasked, graph, hgraph, _⟩
  have hserves := hanswers.2.1 graph hgraph
  rw [hasked, List.append_nil] at hserves
  exact ⟨h, _, graph, hobserved, hversion.symm, hgraph, hserves, by decide +kernel⟩

end Entitlement
