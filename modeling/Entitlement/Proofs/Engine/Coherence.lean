import Entitlement.Proofs.Engine.Calls
import Entitlement.Proofs.Graph.Answers
import Entitlement.Proofs.Hierarchies.Stored

/-!
# Coherence of the cache and the store

An edit writes the store first and announces the change to the cache some time later.  In between,
the edit is in flight, and the cached graph of its hierarchy may have the edge as it was or, if it
has been built meanwhile, as it is to be.  All other edges are the same in the cached graph and in
the store, however edits of different edges and other calls are interleaved.
-/

namespace Entitlement

/-- The edits that have been written and not yet announced, by hierarchy and edge. -/
abbrev Flights : Type :=
  HierarchyKey -> Relationship -> Option Change

namespace Flights

def none : Flights := fun _ _ => Option.none

/-- The flights in which an edit of one edge takes off or has landed. -/
def set (flights : Flights) (key : HierarchyKey) (edge : Relationship) (change : Option Change) :
    Flights := fun other e =>
  if other = key ∧ e = edge then change else flights other e

section Set

variable {flights : Flights} {key other : HierarchyKey} {edge e : Relationship}
  {change : Option Change}

theorem set_same (hsame : other = key ∧ e = edge) :
    flights.set key edge change other e = change :=
  if_pos hsame

theorem set_other (hother : ¬ (other = key ∧ e = edge)) :
    flights.set key edge change other e = flights other e :=
  if_neg hother

theorem set_set_none : (Flights.none.set key edge change).set key edge Option.none = .none := by
  funext other e
  by_cases hsame : other = key ∧ e = edge
  · exact set_same hsame
  · rw [set_other hsame, set_other hsame]

end Set
end Flights

def Store.engine {τ : Type} (sink : Option (AuditSink τ)) (auditEnabled : Bool) : Engine Store τ :=
  ⟨Store.directory, sink, auditEnabled⟩

/--
The runs of an engine in front of a store.  Edits of one edge of one hierarchy do not overlap, and
no announcement fails; other calls may fail.
-/
inductive Interleaved {τ : Type} (engine : Engine Store τ) : World Store τ -> Flights -> Prop where
  /-- The store may have any contents, and nothing is cached yet. -/
  | start {world : World Store τ} : world.hierarchies.directory.WellFormed ->
      world.hierarchies.directory.sentinel = world.hierarchies.cache.sentinel ->
      world.hierarchies.cache.closed = false ->
      (forall key, world.hierarchies.cache.graph? key = none) -> Interleaved engine world .none
  | write {world : World Store τ} {flights : Flights} (kind : HierarchyKind)
      (context : Option String) (edge : Relationship) (change : Change) :
      Interleaved engine world flights ->
      flights (world.hierarchies.directory.key kind context) edge = none ->
      Interleaved engine
        ((World.onDirectory (Store.write kind edge context change)).run world).state
        (flights.set (world.hierarchies.directory.key kind context) edge (some change))
  | announce {world : World Store τ} {flights : Flights} (kind : HierarchyKind)
      (context : Option String) (edge : Relationship) (change : Change) (changed : Bool) :
      Interleaved engine world flights ->
      flights (world.hierarchies.cache.key kind context) edge = some change ->
      ((engine.update kind context edge (some change.label)).run world).result = .ok changed ->
      Interleaved engine ((engine.update kind context edge (some change.label)).run world).state
        (flights.set (world.hierarchies.cache.key kind context) edge none)
  | call {world : World Store τ} {flights : Flights} (call : Engine.Call) :
      Interleaved engine world flights ->
      Interleaved engine ((call.perform engine).run world).state flights

namespace Hierarchies

/-!
# The invariant
-/

/-- Edits in flight are stored, and every other edge of a cached graph is stored as cached. -/
structure Coherent (h : Hierarchies Store) (flights : Flights) : Prop where
  ready : h.Ready
  stored : forall key edge change, flights key edge = some change ->
    h.directory.hasEdge key edge = change.leavesEdge
  cached : forall kind context graph, h.cache.graph? (h.cache.key kind context) = some graph ->
    forall edge, flights (h.cache.key kind context) edge = none ->
      graph.hasEdge edge = h.directory.hasEdge (h.cache.key kind context) edge

variable {h before after : Hierarchies Store} {flights : Flights}

theorem coherent_of_graph?_eq_none (hready : h.Ready)
    (hnone : forall key, h.cache.graph? key = none) : h.Coherent .none where
  ready := hready
  stored := by
    intro key edge change hflight
    cases hflight
  cached := by
    intro kind context graph hgraph
    rw [hnone] at hgraph
    cases hgraph

theorem Coherent.refreshes (hcoherent : before.Coherent flights)
    (hrefresh : Refreshes Store.directory Store.SameEdges before after) :
    after.Coherent flights where
  ready := hcoherent.ready.refreshes hrefresh
  stored := by
    intro key edge change hflight
    rw [hrefresh.directory_same.hasEdge_eq]
    exact hcoherent.stored key edge change hflight
  cached := by
    intro kind context graph hgraph edge hedge
    rw [key_of_refreshes hrefresh] at hgraph hedge ⊢
    rw [hrefresh.directory_same.hasEdge_eq]
    rcases hrefresh.graph_cases _ graph hgraph with hold | ⟨state, hstate, hlists⟩
    · exact hcoherent.cached kind context graph hold edge hedge
    · -- The store that was listed has the edges of the store before.
      have hkey : state.key kind context = before.cache.key kind context := by
        rw [← hcoherent.ready.key_eq]
        unfold Store.key
        rw [hstate.1]
      rw [← hkey] at hlists ⊢
      rw [hasEdge_of_lists (hstate.wellFormed hcoherent.ready.wellFormed) hlists edge]
      exact hstate.hasEdge_eq _ edge

theorem Coherent.written (hcoherent : h.Coherent flights) (kind : HierarchyKind)
    (context : Option String) (edge : Relationship) (change : Change) :
    ({ h with directory := h.directory.written (h.directory.key kind context) edge change } :
        Hierarchies Store).Coherent
      (flights.set (h.directory.key kind context) edge (some change)) where
  ready := hcoherent.ready.written _ edge change
  stored := by
    intro key other landed hflight
    rw [hcoherent.ready.wellFormed.hasEdge_written]
    by_cases hsame : key = h.directory.key kind context ∧ other = edge
    · rw [Flights.set_same hsame] at hflight
      rw [if_pos hsame, Option.some.inj hflight]
    · rw [Flights.set_other hsame] at hflight
      rw [if_neg hsame]
      exact hcoherent.stored key other landed hflight
  cached := by
    intro otherKind otherContext graph hgraph other hother
    rw [hcoherent.ready.wellFormed.hasEdge_written]
    by_cases hsame :
        h.cache.key otherKind otherContext = h.directory.key kind context ∧ other = edge
    · rw [Flights.set_same hsame] at hother
      cases hother
    · rw [Flights.set_other hsame] at hother
      rw [if_neg hsame]
      exact hcoherent.cached otherKind otherContext graph hgraph other hother

/-- A change that is published puts its own edge in step with the store and no other out of step. -/
theorem Coherent.afterChange (hcoherent : h.Coherent flights) {kind : HierarchyKind}
    {context : Option String} {edge : Relationship} {change : Change}
    (hflight : flights (h.cache.key kind context) edge = some change) {current updated : Graph}
    {changed : Bool} (hloaded : h.cache.graph? (h.cache.key kind context) = some current)
    (happly : (Graph.apply edge change).effect current = (.ok changed, updated)) :
    (h.afterChange (h.cache.key kind context) updated changed).Coherent
      (flights.set (h.cache.key kind context) edge none) := by
  have hchanges := (hcoherent.ready.sound _ current hloaded).changes happly
  refine ⟨hcoherent.ready.afterChange hchanges.sound _ changed, ?_, ?_⟩
  · intro key other landed hother
    by_cases hsame : key = h.cache.key kind context ∧ other = edge
    · rw [Flights.set_same hsame] at hother
      cases hother
    · rw [Flights.set_other hsame] at hother
      exact hcoherent.stored key other landed hother
  · intro otherKind otherContext graph hgraph other hother
    rw [key_afterChange] at hgraph hother ⊢
    by_cases hkey : h.cache.key otherKind otherContext = h.cache.key kind context
    · rw [hkey] at hgraph hother ⊢
      rw [hasEdge_of_afterChange hloaded hchanges hgraph other]
      by_cases hedge : other = edge
      · rw [if_pos hedge, hedge]
        exact (hcoherent.stored _ edge change hflight).symm
      · rw [if_neg hedge]
        rw [Flights.set_other fun hboth => hedge hboth.2] at hother
        exact hcoherent.cached kind context current hloaded other hother
    · rw [graph?_afterChange, if_neg fun hboth => hkey hboth.2] at hgraph
      rw [Flights.set_other fun hboth => hkey hboth.1] at hother
      exact hcoherent.cached otherKind otherContext graph hgraph other hother

/-!
# Steps of a run
-/

theorem Coherent.announced (hcoherent : h.Coherent flights) {kind : HierarchyKind}
    {context : Option String} {edge : Relationship} {change : Change}
    (hflight : flights (h.cache.key kind context) edge = some change) {changed : Bool}
    (hresult : ((update Store.directory kind context edge (some change.label)).run h).result =
      .ok changed) :
    ((update Store.directory kind context edge (some change.label)).run h).state.Coherent
      (flights.set (h.cache.key kind context) edge none) := by
  rw [Action.result_eq_effect, effect_update] at hresult
  rw [Action.state_eq_effect, effect_update]
  rcases change_cases Store.SameEdges moves_listing kind context edge
      (some change.label) h with
    ⟨fault, state, _, hfail⟩ | ⟨state, current, read, answer, updated, hstate, hloaded, hread,
      happly, hchange⟩
  · rw [hfail] at hresult
    cases hresult
  · rw [Change.parse_label] at hread
    rw [← Except.ok.inj hread] at happly
    rw [hchange]
    have hkey := key_of_refreshes hstate kind context
    rw [← hkey] at hflight hloaded ⊢
    exact (hcoherent.refreshes hstate).afterChange hflight hloaded happly

end Hierarchies

theorem coherent_of_interleaved {τ : Type} {sink : Option (AuditSink τ)} {auditEnabled : Bool}
    {world : World Store τ} {flights : Flights}
    (h : Interleaved (Store.engine sink auditEnabled) world flights) :
    world.hierarchies.Coherent flights := by
  -- Only writes and announcements change the flights; every other call refreshes at most.
  induction h with
  | start hstore hsentinel hopen hnone =>
      have hsound := Hierarchies.sound_of_graph?_eq_none hnone
      exact Hierarchies.coherent_of_graph?_eq_none ⟨hstore, hsentinel, hopen, hsound⟩ hnone
  | @write world flights kind context edge change _ _ ih =>
      have hwrite := Store.effect_write kind edge context change world.hierarchies.directory
      have hwritten := ih.written kind context edge change
      rw [show world.hierarchies.directory.written _ edge change = _ from
        (congrArg Prod.snd hwrite).symm] at hwritten
      exact hwritten
  | announce kind context edge change changed _ hflight hresult ih =>
      exact ih.announced hflight hresult
  | @call world flights call _ ih =>
      have hlist : forall kind context,
          ((Store.engine sink auditEnabled).directory.list kind context).Moves Store.SameEdges :=
        Hierarchies.moves_listing
      exact ih.refreshes (call.moves_perform hlist Store.moves_readPermission world)

/-!
# Coherence
-/

/--
Between the start and the end of a run, a cached graph and the store differ at most in edges whose
edits are in flight.  When there are none, dropping the graph changes no answer.
-/
theorem cache_coherent {τ : Type} {sink : Option (AuditSink τ)} {auditEnabled : Bool}
    {world : World Store τ} {flights : Flights}
    (hrun : Interleaved (Store.engine sink auditEnabled) world flights) (kind : HierarchyKind)
    (context : Option String) (graph : Graph)
    (hloaded : world.hierarchies.cache.graph? (world.hierarchies.cache.key kind context) =
      some graph) :
    let key := world.hierarchies.cache.key kind context
    let store := world.hierarchies.directory
    (forall edge, flights key edge = none ->
      (graph.hasEdge edge = true ↔ store.hasEdge key edge = true)) ∧
      ((forall edge, flights key edge = none) ->
        (forall edge, graph.hasEdge edge = store.hasEdge key edge) ∧
        exists rebuilt,
          ((Hierarchies.reload Store.directory kind context).run world.hierarchies).result =
            .ok rebuilt ∧
          Graph.SameAnswers graph rebuilt) := by
  intro key store
  have hcoherent := coherent_of_interleaved hrun
  have hedges := hcoherent.cached kind context graph hloaded
  have hgraph := hcoherent.ready.sound key graph hloaded
  refine ⟨fun edge hedge => Bool.eq_iff_iff.mp (hedges edge hedge), fun hlanded => ?_⟩
  have hall : forall edge, graph.hasEdge edge = store.hasEdge key edge :=
    fun edge => hedges edge (hlanded edge)
  refine ⟨hall, ?_⟩
  rcases hcoherent.ready.reload_cases kind context with
    ⟨rebuilt, hrebuilt, hsound, hrebuiltEdges⟩ | ⟨fault, _, _, hcyclic⟩
  · refine ⟨rebuilt, hrebuilt, hgraph.sameAnswers hsound fun edge => ?_⟩
    rw [hall edge]
    exact (hrebuiltEdges edge).symm
  · exact absurd (Store.acyclic_of_hasEdge_eq hgraph hall) hcyclic

/-- An edge is written, read by a question that builds the graph, and then announced. -/
theorem cache_coherent_after_an_edit :
    let edge : Relationship := ⟨.ofText "clerk" rfl, .ofText "boss" rfl⟩
    let engine : Engine Store Unit := Store.engine none true
    exists (world : World Store Unit) (flights : Flights) (graph : Graph),
      Interleaved engine world flights ∧
        world.hierarchies.cache.graph? (world.hierarchies.cache.key .role none) = some graph ∧
        graph.hasEdge edge = true ∧
        exists rebuilt,
          ((Hierarchies.reload Store.directory .role none).run world.hierarchies).result =
            .ok rebuilt ∧
          Graph.SameAnswers graph rebuilt := by
  intro edge engine
  let first : World Store Unit := .start "null" (Store.empty "null") ()
  let second := ((World.onDirectory (Store.write .role edge none .add)).run first).state
  let call : Engine.Call := .ask .role (.ascendants (some "Clerk") none)
  let third := ((call.perform engine).run second).state
  let announce := engine.update .role (some " NULL ") edge (some Change.add.label)
  have hfirst : Interleaved engine first .none :=
    .start (Store.wellFormed_empty "null") rfl rfl fun _ => rfl
  have hthird := (hfirst.write .role none edge .add rfl).call call
  have hok : (announce.run third).result.isOk = true := by decide +kernel
  rcases Action.exists_of_isOk hok with ⟨changed, hchanged⟩
  have hlast := hthird.announce .role (some " NULL ") edge .add changed (by decide +kernel) hchanged
  have hloaded : ((announce.run third).state.hierarchies.cache.graph?
      ((announce.run third).state.hierarchies.cache.key .role none)).any (·.hasEdge edge) =
        true := by decide +kernel
  rcases (Option.any_eq_true _ _).mp hloaded with ⟨graph, hgraph, hedge⟩
  have hcoherent := (cache_coherent hlast .role none graph hgraph).2
  refine ⟨_, _, graph, hlast, hgraph, hedge, (hcoherent fun other => ?_).2⟩
  by_cases hother : other = edge
  · exact Flights.set_same ⟨by decide +kernel, hother⟩
  · rw [Flights.set_other fun hboth => hother hboth.2]
    exact Flights.set_other fun hboth => hother hboth.2

end Entitlement
