import Entitlement.Graph.Check
import Entitlement.Proofs.Graph.Acyclic

/-!
# Graphs with the same edges

What a graph answers depends on its edges only, not on the order in which they came or on vertices
that have lost their last edge.
-/

namespace Entitlement
namespace Graph

/-- Two graphs that cannot be told apart by the questions of a hierarchy. -/
structure SameAnswers (first second : Graph) : Prop where
  hasEdge_eq : forall edge, first.hasEdge edge = second.hasEdge edge
  ascendants_iff : forall text name, name ∈ first.ascendants text ↔ name ∈ second.ascendants text
  descendants_iff : forall text name, name ∈ first.descendants text ↔ name ∈ second.descendants text
  parents_iff : forall text name, name ∈ first.parents text ↔ name ∈ second.parents text
  children_iff : forall text name, name ∈ first.children text ↔ name ∈ second.children text
  childCount_eq : forall text, first.childCount text = second.childCount text
  check_eq : forall child parent mustExist,
    first.check child parent mustExist = second.check child parent mustExist

variable {graph first second : Graph}

/-!
# Counting children
-/

theorem length_namesAt {positions : List Nat} (h : forall i, i ∈ positions -> i < graph.size) :
    (graph.namesAt positions).length = positions.length := by
  refine List.filterMap_length_eq_length.mpr fun i hi => ?_
  rcases exists_nameAt? (h i hi) with ⟨name, hname⟩
  exact Option.isSome_iff_exists.mpr ⟨name, hname⟩

theorem WellFormed.nodup_namesAt (h : graph.WellFormed) {positions : List Nat}
    (hpositions : positions.Nodup) : (graph.namesAt positions).Nodup :=
  hpositions.filterMap fun _ _ _ hi hj => h.position_unique hi hj

theorem WellFormed.childCount_eq_length (h : graph.WellFormed) (text : Option String) :
    graph.childCount text = (graph.children text).length := by
  unfold childCount children
  cases graph.find? text with
  | none => rfl
  | some i => exact (length_namesAt fun _ hj => h.child_lt hj).symm

theorem WellFormed.nodup_children (h : graph.WellFormed) (text : Option String) :
    (graph.children text).Nodup := by
  unfold children
  cases graph.find? text with
  | none => exact List.nodup_nil
  | some i => exact h.nodup_namesAt (h.children_nodup i)

/-!
# Answers
-/

theorem check_eq_of_hasEdge_eq (hedges : forall edge, first.hasEdge edge = second.hasEdge edge)
    (child parent : Option String) (mustExist : Bool) :
    first.check child parent mustExist = second.check child parent mustExist := by
  have hviolation : forall edge,
      first.violation? edge mustExist = second.violation? edge mustExist := by
    intro edge
    unfold violation?
    rw [hedges edge]
  unfold check
  simp only [hviolation]

theorem Sound.sameAnswers (hfirst : first.Sound) (hsecond : second.Sound)
    (hedges : forall edge, first.hasEdge edge = second.hasEdge edge) :
    SameAnswers first second := by
  have hedge : first.Edge = second.Edge := by
    funext child parent
    unfold Edge
    rw [hedges]
  have habove : first.Above = second.Above := by
    unfold Above
    rw [hedge]
  have hchildren : forall text name, name ∈ first.children text ↔ name ∈ second.children text := by
    intro text name
    rw [hfirst.wellFormed.mem_children_iff, hsecond.wellFormed.mem_children_iff, hedge]
  refine ⟨hedges, ?_, ?_, ?_, hchildren, ?_, check_eq_of_hasEdge_eq hedges⟩
  · intro text name
    rw [hfirst.mem_ascendants_iff, hsecond.mem_ascendants_iff, habove]
  · intro text name
    rw [hfirst.mem_descendants_iff, hsecond.mem_descendants_iff, habove]
  · intro text name
    rw [hfirst.wellFormed.mem_parents_iff, hsecond.wellFormed.mem_parents_iff, hedge]
  · intro text
    rw [hfirst.wellFormed.childCount_eq_length, hsecond.wellFormed.childCount_eq_length]
    have hperm := (List.perm_ext_iff_of_nodup (hfirst.wellFormed.nodup_children text)
      (hsecond.wellFormed.nodup_children text)).mpr (hchildren text)
    exact hperm.length_eq

/-!
# Proposals that are turned down
-/

theorem isCycle_of_parse_error {child parent : Option String} {fault : Fault}
    (h : Relationship.parse child parent = .error fault) : fault.isCycle = false := by
  unfold Relationship.parse at h
  cases hchild : Name.parse child with
  | error defect =>
      rw [hchild] at h
      cases h
      rfl
  | ok first =>
      cases hparent : Name.parse parent with
      | error defect =>
          rw [hchild, hparent] at h
          cases h
          rfl
      | ok second =>
          rw [hchild, hparent] at h
          cases h

theorem isCycle_of_check_error {child parent : Option String} {mustExist : Bool} {fault : Fault}
    (h : graph.check child parent mustExist = .error fault) : fault.isCycle = false := by
  unfold check at h
  cases hparse : Relationship.parse child parent with
  | error cause =>
      rw [hparse] at h
      cases h
      exact isCycle_of_parse_error hparse
  | ok edge =>
      rw [hparse] at h
      cases h

theorem isCycle_of_validate_error {child parent : Option String} {mustExist : Bool} {fault : Fault}
    (h : graph.validate child parent mustExist = .error fault) : fault.isCycle = false := by
  unfold validate at h
  cases hcheck : graph.check child parent mustExist with
  | error cause =>
      rw [hcheck] at h
      cases h
      exact isCycle_of_check_error hcheck
  | ok violation =>
      rw [hcheck] at h
      cases violation with
      | none => cases h
      | some violation =>
          cases h
          rfl

end Graph
end Entitlement
