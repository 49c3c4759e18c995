import Entitlement.Proofs.Engine.Authorize
import Entitlement.Proofs.Engine.Coherence

/-!
# The flow of administrative edits

An administrative edit passes a gate, is written to the store, and is announced to the cache.  The
gate checks the proposed edge alone; whether it closes a cycle is checked only by the announcement,
when the edge has been written.  So a run of edits keeps the stored hierarchies free of cycles just
as long as every announcement succeeds.
-/

namespace Entitlement

structure Edit where
  child : Entity
  parent : Entity
  change : Change

namespace Edit

/-- Check the edit and read its edge.  An edge to be removed must exist, a new one must not. -/
def gate (edit : Edit) : Action (Hierarchies Store) Relationship := do
  Hierarchies.validate Store.directory edit.child.kind edit.child edit.parent
    (!edit.change.leavesEdge)
  Action.ofResult (Relationship.parse edit.child.name edit.parent.name)

def carryOut (edit : Edit) (edge : Relationship) : Action (Hierarchies Store) Bool := do
  Hierarchies.onDirectory (Store.write edit.child.kind edge edit.child.context edit.change)
  Hierarchies.update Store.directory edit.child.kind edit.child.context edge
    (some edit.change.label)

def flow (edit : Edit) : Action (Hierarchies Store) Bool := do
  edit.carryOut (← edit.gate)

/-- The edit passes the gate and is written, but announcing it fails. -/
def AnnounceFails (edit : Edit) (h : Hierarchies Store) : Prop :=
  exists edge passed fault, edit.gate.effect h = (.ok edge, passed) ∧
    ((edit.carryOut edge).run passed).result = .error fault

end Edit

def runEdits : List Edit -> Hierarchies Store -> Hierarchies Store
  | [], h => h
  | edit :: rest, h => runEdits rest (edit.flow.run h).state

def NeverFails : List Edit -> Hierarchies Store -> Prop
  | [], _ => True
  | edit :: rest, h => ¬ edit.AnnounceFails h ∧ NeverFails rest (edit.flow.run h).state

namespace Hierarchies

variable {h : Hierarchies Store}

def opening (sentinel : String) (permissions : Table PermissionKey Permission) :
    Hierarchies Store where
  cache := .empty sentinel
  directory := { Store.empty sentinel with permissions }

/-!
# The invariant of a run
-/

/-- The cache and the store agree on every edge, and the store has no cycle. -/
structure InStep (h : Hierarchies Store) : Prop where
  coherent : h.Coherent .none
  acyclic : forall key, h.directory.Acyclic key

theorem inStep_opening (sentinel : String) (permissions : Table PermissionKey Permission) :
    (opening sentinel permissions).InStep where
  coherent :=
    coherent_of_graph?_eq_none
      ⟨fun _ => Store.Lineage.wellFormed_nil, rfl, rfl, sound_of_graph?_eq_none fun _ => rfl⟩
      fun _ => rfl
  acyclic := fun _ => Store.acyclic_of_hasEdge_eq_false fun _ => rfl

theorem InStep.refreshes {before after : Hierarchies Store} (hstep : before.InStep)
    (hrefresh : Refreshes Store.directory Store.SameEdges before after) : after.InStep where
  coherent := hstep.coherent.refreshes hrefresh
  acyclic := fun key => hrefresh.directory_same.acyclic (hstep.acyclic key)

theorem moves_gate (edit : Edit) : edit.gate.Moves (Refreshes Store.directory Store.SameEdges) := by
  refine Action.Moves.bind ?_ fun _ => Action.moves_ofResult _
  exact (moves_graph moves_listing _ _).bind fun _ => Action.moves_ofResult _

theorem loaded_of_gate {edit : Edit} {edge : Relationship} {passed : Hierarchies Store}
    (hgate : edit.gate.effect h = (.ok edge, passed)) :
    exists graph, passed.cache.graph? (h.cache.key edit.child.kind edit.child.context) =
      some graph := by
  rcases Action.effect_bind_eq_ok hgate with ⟨_, middle, hvalid, hparse⟩
  rcases Action.effect_bind_eq_ok hvalid with ⟨graph, state, hgraph, hcheck⟩
  have hmiddle : state = middle := congrArg Prod.snd hcheck
  have hpassed : middle = passed := congrArg Prod.snd hparse
  rw [← hpassed, ← hmiddle]
  exact ⟨graph, graph?_of_graph hgraph⟩

/-!
# Announcing a written edge
-/

def afterWrite (h : Hierarchies Store) (edit : Edit) (edge : Relationship) : Hierarchies Store :=
  { h with
    directory := h.directory.written (h.directory.key edit.child.kind edit.child.context) edge
      edit.change }

theorem effect_carryOut (edit : Edit) (edge : Relationship) (h : Hierarchies Store) :
    (edit.carryOut edge).effect h =
      (update Store.directory edit.child.kind edit.child.context edge
        (some edit.change.label)).effect (h.afterWrite edit edge) := by
  have hwrite : (onDirectory (Store.write edit.child.kind edge edit.child.context
      edit.change)).effect h = (.ok (), h.afterWrite edit edge) := by
    unfold onDirectory
    rw [Action.effect_within, Store.effect_write]
    rfl
  unfold Edit.carryOut
  exact Action.effect_bind_of_ok _ hwrite

def afterAnnounce (h : Hierarchies Store) (key : HierarchyKey) (updated : Graph) (changed : Bool) :
    Hierarchies Store :=
  ({ h with cache := h.cache.withEntry key } : Hierarchies Store).afterChange key updated changed

theorem key_afterAnnounce (key : HierarchyKey) (updated : Graph) (changed : Bool)
    (kind : HierarchyKind) (context : Option String) :
    (h.afterAnnounce key updated changed).cache.key kind context = h.cache.key kind context := by
  unfold afterAnnounce
  rw [key_afterChange]
  unfold Cache.key
  rw [Cache.sentinel_withEntry]

theorem exists_graph?_afterAnnounce {key : HierarchyKey} {graph : Graph}
    (hloaded : h.cache.graph? key = some graph) (updated : Graph) (changed : Bool) :
    exists last, (h.afterAnnounce key updated changed).cache.graph? key = some last := by
  unfold afterAnnounce
  rw [graph?_afterChange]
  split
  · exact ⟨updated, rfl⟩
  · exact ⟨graph, (Cache.graph?_withEntry _ _ _).trans hloaded⟩

theorem effect_update_of_loaded {kind : HierarchyKind} {context : Option String}
    {edge : Relationship} {change : Change} {graph : Graph} (hopen : h.cache.closed = false)
    (hloaded : h.cache.graph? (h.cache.key kind context) = some graph) :
    (update Store.directory kind context edge (some change.label)).effect h =
      match (Graph.apply edge change).effect graph with
      | (.error fault, _) =>
          (.error fault, { h with cache := h.cache.withEntry (h.cache.key kind context) })
      | (.ok changed, updated) =>
          (.ok changed, h.afterAnnounce (h.cache.key kind context) updated changed) := by
  rw [effect_update, effect_change, effect_prepare_of_loaded Store.directory hopen hloaded]
  simp only [Change.parse_label]
  rcases (Graph.apply edge change).effect graph with ⟨answer, updated⟩
  cases answer with
  | error fault => rfl
  | ok changed => rfl

theorem cycle_of_apply_error {graph updated : Graph} (hgraph : graph.Sound) {edge : Relationship}
    {change : Change} {fault : Fault}
    (happly : (Graph.apply edge change).effect graph = (.error fault, updated)) :
    change = .add ∧ exists name, Relation.TransGen (graph.EdgeOr [edge]) name name := by
  cases change with
  | add =>
      have hadd : (Graph.addEdge edge).effect graph = (.error fault, updated) := happly
      rw [Graph.effect_addEdge] at hadd
      cases hinsert : graph.insertEdge edge with
      | error cause => exact ⟨rfl, (hgraph.insertEdge_error hinsert).2⟩
      | ok answer =>
          rw [hinsert] at hadd
          cases hadd
  | remove =>
      have hremove : (Graph.dropEdge edge).effect graph = (.error fault, updated) := happly
      rw [Graph.effect_dropEdge] at hremove
      cases hremove

theorem Coherent.acyclic_of_loaded (hcoherent : h.Coherent .none) {kind : HierarchyKind}
    {context : Option String} {graph : Graph}
    (hloaded : h.cache.graph? (h.cache.key kind context) = some graph) :
    h.directory.Acyclic (h.cache.key kind context) :=
  Store.acyclic_of_hasEdge_eq (hcoherent.ready.sound _ graph hloaded) fun edge =>
    hcoherent.cached kind context graph hloaded edge rfl

theorem Coherent.acyclic_afterAnnounce {kind : HierarchyKind} {context : Option String}
    {graph updated : Graph} {changed : Bool}
    (hcoherent : (h.afterAnnounce (h.cache.key kind context) updated changed).Coherent .none)
    (hloaded : h.cache.graph? (h.cache.key kind context) = some graph) :
    (h.afterAnnounce (h.cache.key kind context) updated changed).directory.Acyclic
      (h.cache.key kind context) := by
  rcases exists_graph?_afterAnnounce hloaded updated changed with ⟨last, hlast⟩
  have hkey := key_afterAnnounce (h := h) (h.cache.key kind context) updated changed kind context
  have hsame := congrArg
    (h.afterAnnounce (h.cache.key kind context) updated changed).cache.graph? hkey
  have hacyclic := hcoherent.acyclic_of_loaded (hsame.trans hlast)
  rw [hkey] at hacyclic
  exact hacyclic

section CarryOut

variable {edit : Edit} {edge : Relationship} {graph : Graph} {after : Hierarchies Store}

theorem InStep.afterWrite_coherent (hstep : h.InStep) (edit : Edit) (edge : Relationship) :
    (h.afterWrite edit edge).Coherent
      (Flights.none.set (h.cache.key edit.child.kind edit.child.context) edge
        (some edit.change)) := by
  unfold Hierarchies.afterWrite
  rw [← hstep.coherent.ready.key_eq]
  exact hstep.coherent.written edit.child.kind edit.child.context edge edit.change

theorem InStep.hasEdge_afterWrite (hstep : h.InStep) (edit : Edit) (edge : Relationship)
    (key : HierarchyKey) (other : Relationship) :
    (h.afterWrite edit edge).directory.hasEdge key other =
      if key = h.cache.key edit.child.kind edit.child.context ∧ other = edge then
        edit.change.leavesEdge
      else h.directory.hasEdge key other := by
  rw [← hstep.coherent.ready.key_eq]
  exact hstep.coherent.ready.wellFormed.hasEdge_written _ edge edit.change key other

theorem InStep.acyclic_afterWrite (hstep : h.InStep) (edit : Edit) (edge : Relationship)
    {key : HierarchyKey} (hkey : key ≠ h.cache.key edit.child.kind edit.child.context) :
    (h.afterWrite edit edge).directory.Acyclic key := by
  have hedges : forall other,
      (h.afterWrite edit edge).directory.hasEdge key other = h.directory.hasEdge key other := by
    intro other
    rw [hstep.hasEdge_afterWrite, if_neg fun hboth => hkey hboth.1]
  unfold Store.Acyclic Store.Edge
  simp only [hedges]
  exact hstep.acyclic key

theorem InStep.carryOut_ok (hstep : h.InStep)
    (hloaded : h.cache.graph? (h.cache.key edit.child.kind edit.child.context) = some graph)
    {changed : Bool} (hdone : (edit.carryOut edge).effect h = (.ok changed, after)) :
    after.InStep := by
  rw [effect_carryOut] at hdone
  have hcoherent : after.Coherent .none := by
    have hflight : Flights.none.set (h.cache.key edit.child.kind edit.child.context) edge
        (some edit.change) ((h.afterWrite edit edge).cache.key edit.child.kind edit.child.context)
          edge = some edit.change := if_pos ⟨rfl, rfl⟩
    have hannounced := (hstep.afterWrite_coherent edit edge).announced hflight
      (congrArg Prod.fst hdone)
    rw [Action.state_eq_effect, hdone] at hannounced
    have hkey : (h.afterWrite edit edge).cache.key edit.child.kind edit.child.context =
        h.cache.key edit.child.kind edit.child.context := rfl
    rw [hkey, Flights.set_set_none] at hannounced
    exact hannounced
  rw [effect_update_of_loaded (h := h.afterWrite edit edge) hstep.coherent.ready.is_open hloaded]
    at hdone
  cases happly : (Graph.apply edge edit.change).effect graph with
  | mk answer updated =>
      rw [happly] at hdone
      cases answer with
      | error fault => cases hdone
      | ok effective =>
          cases hdone
          refine ⟨hcoherent, fun key => ?_⟩
          by_cases hkey : key = h.cache.key edit.child.kind edit.child.context
          · rw [hkey]
            exact hcoherent.acyclic_afterAnnounce (h := h.afterWrite edit edge) hloaded
          · exact hstep.acyclic_afterWrite edit edge hkey

theorem InStep.edge_afterWrite (hstep : h.InStep)
    (hloaded : h.cache.graph? (h.cache.key edit.child.kind edit.child.context) = some graph)
    (hadd : edit.change = .add) (child parent : Name) (hedge : graph.EdgeOr [edge] child parent) :
    (h.afterWrite edit edge).directory.Edge (h.cache.key edit.child.kind edit.child.context)
      child parent := by
  refine (hstep.hasEdge_afterWrite edit edge _ ⟨child, parent⟩).trans ?_
  by_cases hsame : (⟨child, parent⟩ : Relationship) = edge
  · rw [if_pos ⟨rfl, hsame⟩, hadd]
    rfl
  · rw [if_neg fun hboth => hsame hboth.2]
    rcases hedge with hnew | hold
    · exact absurd (List.mem_singleton.mp hnew) hsame
    · exact (hstep.coherent.cached _ _ graph hloaded ⟨child, parent⟩ rfl).symm.trans hold

theorem InStep.carryOut_error (hstep : h.InStep)
    (hloaded : h.cache.graph? (h.cache.key edit.child.kind edit.child.context) = some graph)
    {fault : Fault} (hdone : (edit.carryOut edge).effect h = (.error fault, after)) :
    ¬ after.directory.Acyclic (h.cache.key edit.child.kind edit.child.context) := by
  rw [effect_carryOut, effect_update_of_loaded (h := h.afterWrite edit edge)
    hstep.coherent.ready.is_open hloaded] at hdone
  cases happly : (Graph.apply edge edit.change).effect graph with
  | mk answer updated =>
      rw [happly] at hdone
      cases answer with
      | ok changed => cases hdone
      | error cause =>
          cases hdone
          rcases cycle_of_apply_error (hstep.coherent.ready.sound _ graph hloaded) happly with
            ⟨hadd, name, hcycle⟩
          intro hacyclic
          exact hacyclic name
            (Relation.TransGen.mono (hstep.edge_afterWrite hloaded hadd) name name hcycle)

end CarryOut

/-!
# One edit and a run of edits
-/

/-- An edit keeps the cache and the store in step, or its announcement fails and leaves a cycle. -/
theorem InStep.flow_cases (hstep : h.InStep) (edit : Edit) :
    (¬ edit.AnnounceFails h ∧ (edit.flow.run h).state.InStep) ∨
      (edit.AnnounceFails h ∧ exists key, ¬ (edit.flow.run h).state.directory.Acyclic key) := by
  have hmoved := moves_gate edit h
  rw [Action.state_eq_effect] at hmoved ⊢
  have hpassed := hstep.refreshes hmoved
  rcases hgate : edit.gate.effect h with ⟨result, passed⟩
  rw [hgate] at hmoved hpassed
  unfold Edit.flow
  cases result with
  | error fault =>
      rw [Action.effect_bind_of_error _ hgate]
      refine Or.inl ⟨?_, hpassed⟩
      intro hfails
      rcases hfails with ⟨edge, state, _, hok, _⟩
      rw [hgate] at hok
      cases hok
  | ok edge =>
      rw [Action.effect_bind_of_ok _ hgate]
      rcases loaded_of_gate hgate with ⟨graph, hloaded⟩
      rw [← key_of_refreshes hmoved edit.child.kind edit.child.context] at hloaded
      rcases hdone : (edit.carryOut edge).effect passed with ⟨answer, after⟩
      cases answer with
      | error fault =>
          refine Or.inr ⟨⟨edge, passed, fault, hgate, congrArg Prod.fst hdone⟩, ?_⟩
          exact ⟨_, hpassed.carryOut_error hloaded hdone⟩
      | ok changed =>
          refine Or.inl ⟨?_, hpassed.carryOut_ok hloaded hdone⟩
          intro hfails
          rcases hfails with ⟨other, state, fault, hok, hfail⟩
          rw [hgate] at hok
          cases hok
          rw [Action.result_eq_effect, hdone] at hfail
          cases hfail

theorem InStep.run (hstep : h.InStep) {edits : List Edit} (hrun : NeverFails edits h) :
    (runEdits edits h).InStep := by
  induction edits generalizing h with
  | nil => exact hstep
  | cons edit rest ih =>
      rcases hstep.flow_cases edit with ⟨_, hnext⟩ | ⟨hfails, _⟩
      · exact ih hnext hrun.2
      · exact absurd hfails hrun.1

theorem InStep.neverFails_iff (hstep : h.InStep) (edits : List Edit) :
    NeverFails edits h ↔
      forall n key, (runEdits (edits.take n) h).directory.Acyclic key := by
  induction edits generalizing h with
  | nil => exact iff_of_true trivial fun n key => by rw [List.take_nil]; exact hstep.acyclic key
  | cons edit rest ih =>
      rcases hstep.flow_cases edit with ⟨hpasses, hnext⟩ | ⟨hfails, key, hcyclic⟩
      · refine (and_iff_right hpasses).trans ((ih hnext).trans ?_)
        constructor
        · intro hrest n
          cases n with
          | zero => exact hstep.acyclic
          | succ n => exact hrest n
        · exact fun hall n => hall (n + 1)
      · -- The run has left the state in step, and its first edit already shows both sides false.
        refine iff_of_false (fun hnever => hnever.1 hfails) fun hall => ?_
        exact hcyclic (hall 1 key)

/-!
# Questions to hierarchies that are in step
-/

theorem InStep.graph_ok (hstep : h.InStep) (kind : HierarchyKind) (context : Option String) :
    exists answered, ((graph Store.directory kind context).effect h).1 = .ok answered := by
  cases hloaded : h.cache.graph? (h.cache.key kind context) with
  | some loaded =>
      rw [effect_graph, if_neg (Bool.eq_false_iff.mp hstep.coherent.ready.is_open), hloaded]
      exact ⟨loaded, rfl⟩
  | none =>
      rcases hstep.coherent.ready.graph_cases kind context hloaded with
        ⟨answered, hanswered, _⟩ | ⟨_, _, _, hcyclic⟩
      · exact ⟨answered, hanswered⟩
      · exact absurd (hstep.acyclic _) hcyclic

theorem InStep.result_of_graph (hstep : h.InStep) {α : Type} (kind : HierarchyKind)
    (context : Option String) (f : Graph -> Except Fault α) : exists answered,
      ((do Action.ofResult (f (← graph Store.directory kind context))).effect h).1 =
        f answered := by
  rcases hstep.graph_ok kind context with ⟨answered, hanswered⟩
  refine ⟨answered, ?_⟩
  rw [Action.effect_bind, hanswered]
  rfl

theorem InStep.exists_ok_ask (hstep : h.InStep) {α : Type} (kind : HierarchyKind)
    (context : Option String) (query : Graph -> α) :
    exists answer, ((ask Store.directory kind context query).effect h).1 = .ok answer :=
  Action.exists_ok_map (hstep.graph_ok kind context) query

theorem InStep.exists_ok_inherited (hstep : h.InStep) (kind : HierarchyKind)
    (roles : List (Option String)) (context : Option String) :
    exists held, ((inherited Store.directory kind roles context).effect h).1 = .ok held := by
  rcases hstep.graph_ok kind context with ⟨graph, hgraph⟩
  rw [effect_inherited]
  split
  · exact ⟨[], rfl⟩
  · rw [hgraph]
    exact ⟨expanded graph roles, rfl⟩

/-- Every question is answered, except that a proposal may be turned down by a rule of the gate. -/
theorem InStep.ask_cases (hstep : h.InStep) (kind : HierarchyKind) (question : Question) :
    (exists answer, ((question.ask Store.directory kind).effect h).1 = .ok answer) ∨
      (question.proposes = true ∧ exists fault,
        ((question.ask Store.directory kind).effect h).1 = .error fault ∧
          fault.isCycle = false) := by
  cases question with
  | isParent child parent context =>
      refine Or.inl (Action.exists_ok_map ?_ _)
      unfold isParent
      split
      · exact ⟨false, rfl⟩
      · exact hstep.exists_ok_ask kind context _
  | ascendants text context =>
      exact Or.inl (Action.exists_ok_map (hstep.exists_ok_ask kind context _) _)
  | descendants text context =>
      exact Or.inl (Action.exists_ok_map (hstep.exists_ok_ask kind context _) _)
  | parents text context =>
      exact Or.inl (Action.exists_ok_map (hstep.exists_ok_ask kind context _) _)
  | children text context =>
      exact Or.inl (Action.exists_ok_map (hstep.exists_ok_ask kind context _) _)
  | childCount text context =>
      exact Or.inl (Action.exists_ok_map (hstep.exists_ok_ask kind context _) _)
  | inherited roles context =>
      exact Or.inl (Action.exists_ok_map (hstep.exists_ok_inherited kind roles context) _)
  | check child parent mustExist =>
      rcases hstep.result_of_graph kind child.context
        (·.check child.name parent.name mustExist) with ⟨graph, hresult⟩
      unfold Question.ask check
      rw [Action.result_map, hresult]
      cases hcheck : graph.check child.name parent.name mustExist with
      | ok violation => exact Or.inl ⟨_, rfl⟩
      | error fault => exact Or.inr ⟨rfl, fault, rfl, Graph.isCycle_of_check_error hcheck⟩
  | validate child parent mustExist =>
      rcases hstep.result_of_graph kind child.context
        (·.validate child.name parent.name mustExist) with ⟨graph, hresult⟩
      have hmap := Action.result_map
        (validate Store.directory kind child parent mustExist) (fun _ => Answer.valid) h
      unfold validate at hmap
      rw [hresult] at hmap
      cases hcheck : graph.validate child.name parent.name mustExist with
      | ok passed =>
          rw [hcheck] at hmap
          exact Or.inl ⟨_, hmap⟩
      | error fault =>
          rw [hcheck] at hmap
          exact Or.inr ⟨rfl, fault, hmap, Graph.isCycle_of_validate_error hcheck⟩

end Hierarchies

namespace Engine

variable {τ : Type} {engine : Engine Store τ} {world : World Store τ}

/-- Every hierarchy can be asked and every role-based permission decided. -/
structure Serves (engine : Engine Store τ) (world : World Store τ) : Prop where
  graph_ok : forall kind context, exists graph,
    ((Hierarchies.graph engine.directory kind context).run world.hierarchies).result = .ok graph
  ask_ok : forall kind (question : Question), question.proposes = false -> exists answer,
    ((question.ask engine.directory kind).run world.hierarchies).result = .ok answer
  ask_error : forall kind (question : Question) fault,
    ((question.ask engine.directory kind).run world.hierarchies).result = .error fault ->
      fault.isCycle = false
  isAuthorized_ok : forall session permission, exists allowed,
    ((engine.isAuthorized session permission).run world).result = .ok allowed
  checkPermission_ok : forall session permission stored,
    world.hierarchies.directory.permission?
      { permission.request with context := contextFor session permission } = some stored ->
    exists decision, ((engine.checkPermission session permission).run world).result = .ok decision

theorem exists_ok_audit (engine : Engine Store τ) (event : AuditEvent) (world : World Store τ) :
    exists auditFault, ((engine.audit event).effect world).1 = .ok auditFault := by
  unfold audit
  split
  · rw [Action.effect_bind, Action.effect_attempt]
    simp only
    split
    · exact ⟨none, rfl⟩
    · exact ⟨_, rfl⟩
  · exact ⟨none, rfl⟩

variable {sink : Option (AuditSink τ)} {auditEnabled : Bool}

theorem exists_ok_decide (hstep : world.hierarchies.InStep) (session : Session)
    (permission : Permission) : exists verdict,
      (((Store.engine sink auditEnabled).decide session permission).effect world).1 =
        .ok verdict := by
  rcases decide_cases (Store.engine sink auditEnabled) session permission
      hstep.coherent.ready.sound with ⟨verdict, hverdict, _⟩ | ⟨fault, _, _, _, _, hgraph⟩
  · exact ⟨verdict, hverdict⟩
  · rcases hstep.graph_ok (.ofRoles permission.admin) (contextFor session permission) with
      ⟨graph, hanswered⟩
    rw [Action.result_eq_effect] at hgraph
    exact absurd (hanswered.symm.trans hgraph) (by simp)

theorem effect_readStored {request : PermissionRequest} {stored : Permission}
    (hstored : world.hierarchies.directory.permission? request = some stored) :
    ((Store.engine sink auditEnabled).readStored request).effect world = (.ok stored, world) := by
  have hasked : (World.onDirectory ((Store.engine sink auditEnabled).directory.readPermission
      request)).effect world = (.ok (some stored), world) :=
    Prod.ext (congrArg Except.ok hstored) rfl
  unfold readStored
  rw [Action.effect_bind, Action.effect_attempt, hasked]
  rfl

theorem serves_of_inStep (hstep : world.hierarchies.InStep) :
    (Store.engine sink auditEnabled).Serves world where
  graph_ok := hstep.graph_ok
  ask_ok := by
    intro kind question hquestion
    rcases hstep.ask_cases kind question with hok | ⟨hproposes, _⟩
    · exact hok
    · rw [hquestion] at hproposes
      cases hproposes
  ask_error := by
    intro kind question fault hfault
    rcases hstep.ask_cases kind question with ⟨answer, hok⟩ | ⟨_, cause, hcause, hcycle⟩
    · exact absurd (hok.symm.trans hfault) (by simp)
    · rw [← Except.error.inj (hcause.symm.trans hfault)]
      exact hcycle
  isAuthorized_ok := by
    intro session permission
    exact Action.exists_ok_map (exists_ok_decide hstep session permission) Verdict.granted
  checkPermission_ok := by
    intro session permission stored hstored
    change exists decision,
      ((_ >>= _ : Action (World Store τ) Decision).effect world).1 = .ok decision
    rw [Action.effect_bind_of_ok _ (effect_readStored hstored)]
    refine Action.exists_ok_bind (exists_ok_decide hstep session _) fun verdict after => ?_
    refine Action.exists_ok_bind (exists_ok_audit _ _ after) fun auditFault last => ?_
    exact Action.exists_ok_bind ⟨(), rfl⟩ fun _ _ => ⟨_, rfl⟩

end Engine

/-!
# When the flow is safe
-/

def Edit.addRole (child parent : String) : Edit where
  child := .ofRole ⟨some child, none, [], none, false⟩
  parent := .ofRole ⟨some parent, none, [], none, false⟩
  change := .add

/-- An edit that closes a cycle passes the gate and is written, and then no graph is built. -/
theorem edits_can_close_cycle :
    let edits := [Edit.addRole "clerk" "boss", Edit.addRole "Boss" "Clerk"]
    let poisoned := runEdits edits (Hierarchies.opening "null" [])
    ¬ poisoned.directory.Acyclic ⟨.role, ""⟩ ∧
      exists fault, ((Hierarchies.reload Store.directory .role none).run poisoned).result =
        .error fault ∧ fault.isCycle = true := by
  intro edits poisoned
  let clerk : Name := .ofText "clerk" rfl
  let boss : Name := .ofText "boss" rfl
  have hup : poisoned.directory.hasEdge ⟨.role, ""⟩ ⟨clerk, boss⟩ = true := by decide +kernel
  have hdown : poisoned.directory.hasEdge ⟨.role, ""⟩ ⟨boss, clerk⟩ = true := by decide +kernel
  constructor
  · intro hacyclic
    exact hacyclic clerk (Relation.TransGen.tail (Relation.TransGen.single hup) hdown)
  · have hrefused : Action.failsWith Fault.isCycle
        ((Hierarchies.reload Store.directory .role none).run poisoned).result = true := by
      decide +kernel
    exact Action.exists_of_failsWith hrefused

/--
The stored hierarchies stay free of cycles throughout a run of edits just if no announcement fails,
and then every question and every decision succeeds after a hierarchy has been dropped.
-/
theorem edits_safe_iff_announced (sentinel : String) (permissions : Table PermissionKey Permission)
    (edits : List Edit) :
    let start := Hierarchies.opening sentinel permissions
    (NeverFails edits start ↔
      forall n key, (runEdits (edits.take n) start).directory.Acyclic key) ∧
      (NeverFails edits start -> forall (τ : Type) (sink : Option (AuditSink τ))
        (auditEnabled : Bool) (trail : τ) (kind : HierarchyKind) (context : Option String),
          (Store.engine sink auditEnabled).Serves
            ⟨((Hierarchies.invalidate kind context).run (runEdits edits start)).state, trail⟩) := by
  intro start
  have hstart := Hierarchies.inStep_opening sentinel permissions
  refine ⟨hstart.neverFails_iff edits, ?_⟩
  intro hnever τ sink auditEnabled trail kind context
  apply Engine.serves_of_inStep
  exact (hstart.run hnever).refreshes (Hierarchies.moves_invalidate kind context _)

theorem not_announceFails_of_isOk {edit : Edit} {h : Hierarchies Store}
    (hok : (edit.flow.run h).result.isOk = true) : ¬ edit.AnnounceFails h := by
  intro hfails
  rcases hfails with ⟨edge, passed, fault, hgate, hfail⟩
  have hflow : (edit.flow.run h).result = .error fault :=
    (congrArg Prod.fst (Action.effect_bind_of_ok edit.carryOut hgate)).trans hfail
  rw [hflow] at hok
  cases hok

theorem edits_safe_of_chain :
    let edits := [Edit.addRole "clerk" "boss", Edit.addRole "Boss" "Chief"]
    let start := Hierarchies.opening "null" []
    NeverFails edits start ∧
      (forall n key, (runEdits (edits.take n) start).directory.Acyclic key) ∧
      (Store.engine none true).Serves
        ⟨((Hierarchies.invalidate .role none).run (runEdits edits start)).state, ()⟩ := by
  intro edits start
  have hnever : NeverFails edits start :=
    ⟨not_announceFails_of_isOk (by decide +kernel),
      not_announceFails_of_isOk (by decide +kernel), trivial⟩
  have hsafe := edits_safe_iff_announced "null" [] edits
  exact ⟨hnever, hsafe.1.mp hnever, hsafe.2 hnever Unit none true () .role none⟩

end Entitlement
