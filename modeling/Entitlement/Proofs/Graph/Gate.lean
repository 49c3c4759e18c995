import Entitlement.Graph.Check
import Entitlement.Proofs.Graph.Guard

/-!
# The gate and the edits

A proposed edge is judged twice: by the gate, before it is stored, and by the edit that carries it
out.  Both look at the same edges, but they try their rules in different orders, and cycles are no
concern of the gate.  Nevertheless each of them tells what the other one would say.
-/

namespace Entitlement

def Reports (kind : FaultKind) (found : Except Fault (Option Violation)) : Prop :=
  exists violation, found = .ok (some violation) ∧ violation.kind = kind

/-- What the gate says of an edge, and what the edits of this edge answer. -/
structure Concordant (edge : Relationship) (check : Bool -> Except Fault (Option Violation))
    (validate : Bool -> Except Fault Unit) (add remove : Except Fault Bool) : Prop where
  answers : forall mustExist, exists found, check mustExist = .ok found
  present_iff : check true = .ok none ↔ remove = .ok true
  absent_iff : check false = .ok none ↔ add = .ok true ∨ RefusedAs .cycle add
  exists_iff : forall mustExist,
    Reports .relationshipExists (check mustExist) ↔ mustExist = false ∧ add = .ok false
  self_iff : forall mustExist,
    Reports .selfReference (check mustExist) ↔ RefusedAs .selfReference add
  names_eq : forall mustExist violation, check mustExist = .ok (some violation) ->
    violation.child = edge.child.text ∧ violation.parent = edge.parent.text
  passes_iff : forall mustExist, check mustExist = .ok none ↔ validate mustExist = .ok ()
  raises_iff : forall mustExist violation, check mustExist = .ok (some violation) ↔
    exists fault, validate mustExist = .error fault ∧ fault.family = .validation ∧
      fault.kind? = some violation.kind ∧
      fault.details = ([("child", violation.child), ("parent", violation.parent),
        ("must_exist", mustExist)] : List (String × Value))

namespace Graph

variable {graph now : Graph} {edge : Relationship} {child parent : Option String}

/-!
# What a check finds
-/

/-- The violation if an edge is not there as it must be, or is there as it must not. -/
def mismatch : Bool -> FaultKind
  | true => .relationshipMissing
  | false => .relationshipExists

theorem violation?_eq (graph : Graph) (edge : Relationship) (mustExist : Bool) :
    graph.violation? edge mustExist =
      if edge.child = edge.parent then
        some ⟨.selfReference, edge.child.text, edge.parent.text⟩
      else if graph.hasEdge edge = mustExist then
        none
      else
        some ⟨mismatch mustExist, edge.child.text, edge.parent.text⟩ := by
  unfold violation? Relationship.isSelfReference
  by_cases hself : edge.child = edge.parent
  · rw [if_pos (decide_eq_true hself), if_pos hself]
  · rw [if_neg (by rw [decide_eq_false hself]; exact Bool.false_ne_true), if_neg hself]
    cases mustExist with
    | true => cases graph.hasEdge edge <;> rfl
    | false => cases graph.hasEdge edge <;> rfl

theorem violation?_eq_none_iff {mustExist : Bool} :
    graph.violation? edge mustExist = none ↔
      edge.child ≠ edge.parent ∧ graph.hasEdge edge = mustExist := by
  rw [violation?_eq]
  split_ifs with hself hedge
  · simp [hself]
  · simp [hself, hedge]
  · simp [hself, hedge]

theorem reports_violation?_iff {mustExist : Bool} {kind : FaultKind} :
    Reports kind (.ok (graph.violation? edge mustExist)) ↔
      kind = .selfReference ∧ edge.child = edge.parent ∨
        kind = mismatch mustExist ∧ edge.child ≠ edge.parent ∧
          graph.hasEdge edge ≠ mustExist := by
  unfold Reports
  rw [violation?_eq]
  split_ifs with hself hedge
  · simp [hself, eq_comm]
  · simp [hself, hedge]
  · simp [hself, hedge, eq_comm]

theorem names_of_violation? {mustExist : Bool} {violation : Violation}
    (h : graph.violation? edge mustExist = some violation) :
    violation.child = edge.child.text ∧ violation.parent = edge.parent.text := by
  rw [violation?_eq] at h
  split_ifs at h with hself hedge
  · cases h
    exact ⟨rfl, rfl⟩
  · cases h
    exact ⟨rfl, rfl⟩

def enforce (mustExist : Bool) : Option Violation -> Except Fault Unit
  | some violation => .error (.invalidRelationship violation mustExist)
  | none => .ok ()

theorem check_of_parse (hedge : Relationship.parse child parent = .ok edge) (mustExist : Bool) :
    graph.check child parent mustExist = .ok (graph.violation? edge mustExist) := by
  unfold check
  rw [hedge]
  rfl

theorem validate_of_parse (hedge : Relationship.parse child parent = .ok edge) (mustExist : Bool) :
    graph.validate child parent mustExist =
      enforce mustExist (graph.violation? edge mustExist) := by
  unfold validate
  rw [check_of_parse hedge]
  cases graph.violation? edge mustExist with
  | some violation => rfl
  | none => rfl

theorem enforce_raises_iff {mustExist : Bool} {found : Option Violation} {violation : Violation} :
    found = some violation ↔
      exists fault, enforce mustExist found = .error fault ∧ fault.family = .validation ∧
        fault.kind? = some violation.kind ∧
        fault.details = ([("child", violation.child), ("parent", violation.parent),
          ("must_exist", mustExist)] : List (String × Value)) := by
  constructor
  · intro hfound
    rw [hfound]
    exact ⟨.invalidRelationship violation mustExist, rfl, rfl, rfl, rfl⟩
  · intro hraised
    rcases hraised with ⟨fault, hfault, _, hkind, hdetails⟩
    cases found with
    | none => cases hfault
    | some other =>
        cases hfault
        simp only [Fault.details, List.cons.injEq, Prod.mk.injEq, Value.text.injEq, true_and,
          and_true] at hdetails
        cases other
        cases violation
        cases hkind
        cases hdetails.1
        cases hdetails.2
        rfl

/-!
# Agreement
-/

theorem Sound.ends_ne (h : graph.Sound) (hedge : graph.hasEdge edge = true) :
    edge.child ≠ edge.parent := by
  intro hself
  have hloop : graph.Above edge.child edge.parent := Relation.TransGen.single hedge
  rw [hself] at hloop
  exact h.acyclic edge.parent hloop

theorem effect_dropEdge_result (h : graph.WellFormed) (edge : Relationship) :
    ((dropEdge edge).effect graph).1 = .ok (graph.hasEdge edge) := by
  rw [effect_dropEdge, (h.removeEdge edge).2.1]

theorem Sound.concordant (h : graph.Sound) (edge : Relationship) :
    Concordant edge (fun mustExist => .ok (graph.violation? edge mustExist))
      (fun mustExist => enforce mustExist (graph.violation? edge mustExist))
      ((addEdge edge).effect graph).1 ((dropEdge edge).effect graph).1 := by
  have hguarded := h.guarded_addEdge edge
  have hmember : edge ∈ graph.edges ↔ graph.hasEdge edge = true := h.wellFormed.mem_edges_iff
  constructor
  case answers =>
    intro mustExist
    exact ⟨_, rfl⟩
  case present_iff =>
    rw [effect_dropEdge_result h.wellFormed, Except.ok.injEq, Except.ok.injEq,
      violation?_eq_none_iff]
    exact and_iff_right_of_imp h.ends_ne
  case absent_iff =>
    rw [Except.ok.injEq, violation?_eq_none_iff]
    constructor
    · intro habsent
      rcases habsent with ⟨hends, hedge⟩
      rw [← Bool.not_eq_true, ← hmember] at hedge
      by_cases hcyclic : Cyclic (edge :: graph.edges)
      · exact Or.inr (hguarded.cycle_iff.mpr ⟨hends, hcyclic⟩)
      · exact Or.inl (hguarded.new_iff.mpr ⟨hends, hedge, hcyclic⟩)
    · intro hadd
      rw [← Bool.not_eq_true, ← hmember]
      rcases hadd with hnew | hcycle
      · have hreasons := hguarded.new_iff.mp hnew
        exact ⟨hreasons.1, hreasons.2.1⟩
      · refine ⟨(hguarded.cycle_iff.mp hcycle).1, fun hedge => ?_⟩
        rw [hguarded.known_iff.mpr hedge] at hcycle
        exact not_refusedAs_ok false hcycle
  case exists_iff =>
    intro mustExist
    rw [reports_violation?_iff, hguarded.known_iff, hmember]
    cases mustExist with
    | true => simp [mismatch]
    | false =>
        simp only [mismatch, reduceCtorEq, false_and, true_and, false_or, Bool.not_eq_false]
        exact and_iff_right_of_imp h.ends_ne
  case self_iff =>
    intro mustExist
    rw [reports_violation?_iff, hguarded.self_iff]
    cases mustExist with
    | true => simp [mismatch]
    | false => simp [mismatch]
  case names_eq =>
    intro mustExist violation hfound
    exact names_of_violation? (Except.ok.inj hfound)
  case passes_iff =>
    intro mustExist
    rw [Except.ok.injEq]
    cases graph.violation? edge mustExist with
    | some violation => simp [enforce]
    | none => simp [enforce]
  case raises_iff =>
    intro mustExist violation
    rw [Except.ok.injEq]
    exact enforce_raises_iff

/-!
# Checks after an edit
-/

theorem Changes.found_after_add {changed : Bool} (h : Changes graph edge .add changed now) :
    now.violation? edge true = none := by
  have hedge : now.hasEdge edge = true := by
    rw [h.hasEdge_eq, if_pos rfl]
    rfl
  exact violation?_eq_none_iff.mpr ⟨h.sound.ends_ne hedge, hedge⟩

theorem Changes.found_after_remove (h : Changes graph edge .remove true now)
    (hgraph : graph.Sound) : now.violation? edge false = none := by
  have hedge : now.hasEdge edge = false := by
    rw [h.hasEdge_eq, if_pos rfl]
    rfl
  have hbefore : graph.hasEdge edge = true := by
    have hchanged := h.changed_eq
    cases hthere : graph.hasEdge edge with
    | true => rfl
    | false =>
        rw [hthere] at hchanged
        cases hchanged
  exact violation?_eq_none_iff.mpr ⟨hgraph.ends_ne hbefore, hedge⟩

end Graph

end Entitlement
