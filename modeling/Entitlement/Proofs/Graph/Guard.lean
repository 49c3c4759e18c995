import Entitlement.Proofs.Graph.Order

/-!
# The cycle guard

An edge is judged before anything is changed.  An edge from a name to itself and an edge that closes
a cycle with those of the graph are refused, each with a kind of its own; an edge that is there
already changes nothing; every other edge is inserted.  A graph that an edge has not been inserted
into is the same as before, vertices included.
-/

namespace Entitlement

def Cyclic (edges : List Relationship) : Prop :=
  exists name, Relation.TransGen (fun child parent => ⟨child, parent⟩ ∈ edges) name name

def RefusedAs {α : Type} (kind : FaultKind) (result : Except Fault α) : Prop :=
  exists fault, result = .error fault ∧ fault.family = .cycle ∧ fault.kind? = some kind

section Refusals

variable {α : Type} {kind : FaultKind}

@[simp] theorem not_refusedAs_ok (answer : α) : ¬ RefusedAs kind (.ok answer) := by
  intro h
  rcases h with ⟨fault, hresult, _⟩
  cases hresult

@[simp] theorem refusedAs_selfEdge_iff {name : Name} :
    RefusedAs kind (.error (.selfEdge name) : Except Fault α) ↔ kind = .selfReference := by
  constructor
  · intro h
    rcases h with ⟨fault, hresult, _, hkind⟩
    cases hresult
    exact (Option.some.inj hkind).symm
  · intro h
    rw [h]
    exact ⟨.selfEdge name, rfl, rfl, rfl⟩

@[simp] theorem refusedAs_closingEdge_iff {child parent : Name} :
    RefusedAs kind (.error (.closingEdge child parent) : Except Fault α) ↔ kind = .cycle := by
  constructor
  · intro h
    rcases h with ⟨fault, hresult, _, hkind⟩
    cases hresult
    exact (Option.some.inj hkind).symm
  · intro h
    rw [h]
    exact ⟨.closingEdge child parent, rfl, rfl, rfl⟩

end Refusals

namespace Graph

variable {graph : Graph} {edge : Relationship}

/-!
# Cycles through one more edge
-/

/-- One more edge closes a cycle if its ends are equal or its parent already leads to its child. -/
theorem Sound.cyclic_cons_iff (h : graph.Sound) :
    Cyclic (edge :: graph.edges) ↔
      edge.child = edge.parent ∨ graph.Above edge.parent edge.child := by
  have hedges : forall child parent, (⟨child, parent⟩ : Relationship) ∈ edge :: graph.edges ↔
      child = edge.child ∧ parent = edge.parent ∨ graph.Edge child parent := by
    intro child parent
    rw [List.mem_cons, Relationship.eq_iff_ends, h.wellFormed.mem_edges_iff]
    exact Iff.rfl
  unfold Cyclic
  simp only [hedges]
  constructor
  · intro hcyclic
    rcases hcyclic with ⟨name, hcycle⟩
    rcases path_with_edge (fun _ _ => id) hcycle with hold | ⟨hlower, hupper⟩
    · exact absurd hold (h.acyclic name)
    · rcases Relation.reflTransGen_iff_eq_or_transGen.mp (hupper.trans hlower) with hsame | hpath
      · exact Or.inl hsame
      · exact Or.inr hpath
  · intro hends
    refine ⟨edge.child, ?_⟩
    rcases hends with hself | hpath
    · exact Relation.TransGen.single (Or.inl ⟨rfl, hself⟩)
    · refine Relation.TransGen.head (Or.inl ⟨rfl, rfl⟩) ?_
      exact Relation.TransGen.mono (fun _ _ => Or.inr) _ _ hpath

/-!
# The four verdicts
-/

/-- How an edge is judged, and what the graph is afterwards. -/
structure Guarded (graph : Graph) (edge : Relationship) (outcome : Except Fault Bool × Graph) :
    Prop where
  self_iff : RefusedAs .selfReference outcome.1 ↔ edge.child = edge.parent
  known_iff : outcome.1 = .ok false ↔ edge ∈ graph.edges
  cycle_iff : RefusedAs .cycle outcome.1 ↔
    edge.child ≠ edge.parent ∧ Cyclic (edge :: graph.edges)
  new_iff : outcome.1 = .ok true ↔
    edge.child ≠ edge.parent ∧ edge ∉ graph.edges ∧ ¬ Cyclic (edge :: graph.edges)
  unchanged : outcome.1 ≠ .ok true -> outcome.2 = graph
  mem_edges_iff : outcome.1 = .ok true ->
    forall other, other ∈ outcome.2.edges ↔ other = edge ∨ other ∈ graph.edges
  edgeCount_eq : outcome.1 = .ok true -> outcome.2.edgeCount = graph.edgeCount + 1
  names_eq : outcome.1 = .ok true ->
    outcome.2.names = ((graph.insertVertex edge.child).insertVertex edge.parent).names

theorem Sound.guarded_addEdge (h : graph.Sound) (edge : Relationship) :
    graph.Guarded edge ((addEdge edge).effect graph) := by
  have hmember : edge ∈ graph.edges ↔ graph.Edge edge.child edge.parent :=
    h.wellFormed.mem_edges_iff
  have hcyclic : Cyclic (edge :: graph.edges) ↔ _ := h.cyclic_cons_iff
  rw [effect_addEdge]
  rcases h.wellFormed.insertEdge_cases edge with
    ⟨hself, hresult⟩ | ⟨hends, hedge, hresult⟩ | ⟨hends, hedge, hpath, hresult⟩ |
      ⟨hends, hedge, hpath, hresult⟩
  · have hedge : ¬ graph.Edge edge.parent edge.parent := fun hloop =>
      h.acyclic edge.parent (Relation.TransGen.single hloop)
    rw [hresult]
    constructor <;> simp [hmember, hcyclic, hself, hedge]
  · have hpath : ¬ graph.Above edge.parent edge.child := fun hback =>
      h.acyclic edge.child (Relation.TransGen.head hedge hback)
    rw [hresult]
    constructor <;> simp [hmember, hcyclic, hends, hedge, hpath]
  · rw [hresult]
    constructor <;> simp [hmember, hcyclic, hends, hedge, hpath]
  · have hchanged : forall other, other ∈ (graph.connect edge).edges ↔
        other = edge ∨ other ∈ graph.edges := by
      intro other
      rcases h.wellFormed.connect hedge with ⟨hform, hedges⟩
      rw [hform.mem_edges_iff, h.wellFormed.mem_edges_iff, Relationship.eq_iff_ends]
      exact hedges other.child other.parent
    have hcount := h.wellFormed.edgeCount_connect edge
    have hnames := graph.names_connect edge
    rw [hresult]
    constructor <;> simp [hmember, hcyclic, hends, hedge, hpath, hchanged, hcount, hnames]

/-!
# Edges between texts
-/

theorem effect_addEdgeBetween_of_parse {child parent : Option String}
    (hedge : Relationship.parse child parent = .ok edge) :
    (addEdgeBetween child parent).effect graph = (addEdge edge).effect graph := by
  unfold addEdgeBetween
  rw [Action.effect_bind, Action.effect_ofResult, hedge]

theorem effect_addEdgeBetween_of_error {child parent : Option String} {fault : Fault}
    (hfault : Relationship.parse child parent = .error fault) :
    (addEdgeBetween child parent).effect graph = (.error fault, graph) := by
  unfold addEdgeBetween
  rw [Action.effect_bind, Action.effect_ofResult, hfault]

end Graph

namespace Relationship

theorem parse_of_names {child parent : Option String} {lower upper : Name}
    (hchild : Name.parse child = .ok lower) (hparent : Name.parse parent = .ok upper) :
    parse child parent = .ok ⟨lower, upper⟩ := by
  unfold parse
  rw [hchild, hparent]
  rfl

theorem names_of_parse {child parent : Option String} {edge : Relationship}
    (h : parse child parent = .ok edge) :
    Name.parse child = .ok edge.child ∧ Name.parse parent = .ok edge.parent := by
  unfold parse at h
  cases hchild : Name.parse child with
  | error defect =>
      rw [hchild] at h
      cases h
  | ok lower =>
      cases hparent : Name.parse parent with
      | error defect =>
          rw [hchild, hparent] at h
          cases h
      | ok upper =>
          rw [hchild, hparent] at h
          cases h
          exact ⟨rfl, rfl⟩

theorem parse_of_not_blank {child parent : String} (hchild : Text.blank child = false)
    (hparent : Text.blank parent = false) :
    parse (some child) (some parent) = .ok ⟨.ofText child hchild, .ofText parent hparent⟩ :=
  parse_of_names (Name.parse_some_of_not_blank hchild) (Name.parse_some_of_not_blank hparent)

theorem parse_of_nameless {child parent : Option String}
    (h : Name.Nameless child ∨ Name.Nameless parent) :
    exists fault, parse child parent = .error fault ∧ fault.family = .value := by
  unfold parse
  cases hchild : Name.parse child with
  | error defect => exact ⟨.invalidName defect, rfl, rfl⟩
  | ok lower =>
      rcases h with hnameless | hnameless
      · rcases Name.nameless_iff.mp hnameless with ⟨defect, hdefect⟩
        rw [hchild] at hdefect
        cases hdefect
      · rcases Name.nameless_iff.mp hnameless with ⟨defect, hdefect⟩
        rw [hdefect]
        exact ⟨.invalidName defect, rfl, rfl⟩

end Relationship

/--
An edge is refused exactly if its ends are equal or it closes a cycle, known exactly if it is listed,
and otherwise new; and only a new edge changes the graph.  Texts that are no names change nothing
either.
-/
theorem cycle_guard_exact_and_atomic {graph : Graph} (hreachable : graph.Reachable) :
    (forall (child parent : String) (hchild : Text.blank child = false)
      (hparent : Text.blank parent = false),
      graph.Guarded ⟨.ofText child hchild, .ofText parent hparent⟩
        ((Graph.addEdgeBetween (some child) (some parent)).effect graph)) ∧
    forall child parent, Name.Nameless child ∨ Name.Nameless parent ->
      exists fault, (Graph.addEdgeBetween child parent).effect graph = (.error fault, graph) ∧
        fault.family = .value := by
  constructor
  · intro child parent hchild hparent
    rw [Graph.effect_addEdgeBetween_of_parse (Relationship.parse_of_not_blank hchild hparent)]
    exact hreachable.sound.guarded_addEdge _
  · intro child parent hnameless
    rcases Relationship.parse_of_nameless hnameless with ⟨fault, hfault, hvalue⟩
    exact ⟨fault, Graph.effect_addEdgeBetween_of_error hfault, hvalue⟩

/-- A name whose only edge has been removed may be related to names that it once stood above. -/
theorem cycle_guard_exact_and_atomic_after_a_removal :
    let clerk : Name := .ofText "clerk" rfl
    let boss : Name := .ofText "boss" rfl
    let owner : Name := .ofText "owner" rfl
    exists graph : Graph, graph.Reachable ∧ graph.names = [clerk, boss, owner] ∧
      graph.edges = [⟨clerk, boss⟩] ∧
      RefusedAs .cycle ((Graph.addEdgeBetween (some " Boss ") (some "CLERK")).effect graph).1 ∧
      ((Graph.addEdgeBetween (some " Boss ") (some "CLERK")).effect graph).2 = graph ∧
      (⟨owner, boss⟩ : Relationship) ∈
        ((Graph.addEdgeBetween (some "owner") (some "boss")).effect graph).2.edges ∧
      ((Graph.addEdgeBetween (some "owner") (some " ")).effect graph).2 = graph := by
  intro clerk boss owner
  let build : GraphCall := .addEdge (some "clerk") (some "boss")
  let extend : GraphCall := .addEdge (some "boss") (some "owner")
  let cut : GraphCall := .removeEdge (some "boss") (some " Owner")
  have hgraph : exists graph : Graph, graph.Reachable ∧ graph.names = [clerk, boss, owner] ∧
      graph.edges = [⟨clerk, boss⟩] ∧
      ((Graph.addEdgeBetween (some "owner") (some "boss")).effect graph).1 = .ok true := by
    refine ⟨_, ((Graph.Reachable.fresh.edited build).edited extend).edited cut, ?_, ?_, ?_⟩
    · decide +kernel
    · decide +kernel
    · exact Action.eq_ok_of_toOption (by decide +kernel)
  rcases hgraph with ⟨graph, hreachable, hnames, hedges, hinserted⟩
  rcases cycle_guard_exact_and_atomic hreachable with ⟨hguarded, hnameless⟩
  have hback := hguarded " Boss " "CLERK" (by decide +kernel) (by decide +kernel)
  have hnew := hguarded "owner" "boss" (by decide +kernel) (by decide +kernel)
  have hrefused : RefusedAs .cycle
      ((Graph.addEdgeBetween (some " Boss ") (some "CLERK")).effect graph).1 := by
    have hsame : (⟨.ofText " Boss " rfl, .ofText "CLERK" rfl⟩ : Relationship) = ⟨boss, clerk⟩ := by
      decide +kernel
    apply hback.cycle_iff.mpr
    rw [hsame, hedges]
    refine ⟨by decide +kernel, clerk, ?_⟩
    have hup : (⟨clerk, boss⟩ : Relationship) ∈ [⟨boss, clerk⟩, ⟨clerk, boss⟩] :=
      List.mem_cons_of_mem _ List.mem_cons_self
    have hdown : (⟨boss, clerk⟩ : Relationship) ∈ [⟨boss, clerk⟩, ⟨clerk, boss⟩] :=
      List.mem_cons_self
    exact (Relation.TransGen.single hup).tail hdown
  rcases hnameless (some "owner") (some " ") (Or.inr (Name.Nameless.blank rfl)) with
    ⟨fault, hblank, _⟩
  refine ⟨graph, hreachable, hnames, hedges, hrefused, hback.unchanged ?_, ?_, ?_⟩
  · intro hanswer
    rw [hanswer] at hrefused
    exact not_refusedAs_ok true hrefused
  · exact (hnew.mem_edges_iff hinserted _).mpr (Or.inl rfl)
  · rw [hblank]

end Entitlement
