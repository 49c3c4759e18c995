import Entitlement.Proofs.Graph.Answers
import Entitlement.Proofs.Graph.Build
import Entitlement.Proofs.Graph.History

/-!
# One edge more or less

A change adds or removes one edge.  A new edge leads up from its child, and from every name below
its child, to its parent and to whatever was above the parent; it leads nowhere else.  Removing an
edge that has just been added leaves the edges as they were before, so that every question is
answered as it was then.
-/

namespace Entitlement
namespace Graph

def Within (first second : Graph) : Prop :=
  forall child parent, first.Edge child parent -> second.Edge child parent

variable {before now again first second : Graph} {edge : Relationship} {change : Change}
  {changed : Bool}

theorem within_refl (graph : Graph) : graph.Within graph :=
  fun _ _ hedge => hedge

/-!
# What a change leaves
-/

theorem Changes.of_unchanged (h : Changes before edge change false now) (hbefore : before.Sound) :
    Changes before edge change false before where
  sound := hbefore
  hasEdge_eq := h.hasEdge_of_unchanged
  changed_eq := h.changed_eq

theorem Changes.edge_add_iff (h : Changes before edge .add changed now) {child parent : Name} :
    now.Edge child parent ↔
      child = edge.child ∧ parent = edge.parent ∨ before.Edge child parent := by
  have hends : (⟨child, parent⟩ : Relationship) = edge ↔
      child = edge.child ∧ parent = edge.parent := Relationship.eq_iff_ends
  unfold Edge
  rw [h.hasEdge_eq, ← hends]
  by_cases hsame : (⟨child, parent⟩ : Relationship) = edge
  · rw [if_pos hsame]
    exact iff_of_true rfl (Or.inl hsame)
  · rw [if_neg hsame]
    exact (or_iff_right hsame).symm

theorem Changes.within_of_add (h : Changes before edge .add changed now) : before.Within now :=
  fun _ _ hedge => h.edge_add_iff.mpr (Or.inr hedge)

theorem Changes.within_of_remove (h : Changes before edge .remove changed now) :
    now.Within before := by
  intro child parent hedge
  have hkept := h.hasEdge_eq ⟨child, parent⟩
  unfold Edge at hedge ⊢
  rw [hedge] at hkept
  split at hkept
  · cases hkept
  · exact hkept.symm

theorem Changes.undone (hadd : Changes before edge .add true now)
    (hremove : Changes now edge .remove changed again) :
    changed = true ∧ forall other, before.hasEdge other = again.hasEdge other := by
  have hnow : now.hasEdge edge = true := by
    rw [hadd.hasEdge_eq, if_pos rfl]
    rfl
  have hbefore : before.hasEdge edge = false := by
    cases hedge : before.hasEdge edge with
    | false => rfl
    | true =>
        have hnew := hadd.changed_eq
        rw [hedge] at hnew
        cases hnew
  constructor
  · rw [hremove.changed_eq, hnow]
    rfl
  · intro other
    rw [hremove.hasEdge_eq, hadd.hasEdge_eq]
    by_cases hsame : other = edge
    · rw [if_pos hsame, hsame]
      exact hbefore
    · rw [if_neg hsame, if_neg hsame]

/-!
# Paths with a new edge
-/

/-- With a new edge, paths are the old ones and those that use the edge. -/
theorem Changes.above_add_iff (h : Changes before edge .add changed now) {lower upper : Name} :
    now.Above lower upper ↔
      before.Above lower upper ∨
        (lower = edge.child ∨ before.Above lower edge.child) ∧
          (upper = edge.parent ∨ before.Above edge.parent upper) := by
  constructor
  · intro hpath
    rcases path_with_edge (fun _ _ => h.edge_add_iff.mp) hpath with hold | ⟨hlower, hupper⟩
    · exact Or.inl hold
    · refine Or.inr ⟨?_, Relation.reflTransGen_iff_eq_or_transGen.mp hupper⟩
      rcases Relation.reflTransGen_iff_eq_or_transGen.mp hlower with hsame | hbelow
      · exact Or.inl hsame.symm
      · exact Or.inr hbelow
  · intro hpath
    have hmono := Relation.TransGen.mono h.within_of_add
    rcases hpath with hold | ⟨hlower, hupper⟩
    · exact hmono _ _ hold
    · have hnew : now.Above edge.child edge.parent :=
        Relation.TransGen.single (h.edge_add_iff.mpr (Or.inl ⟨rfl, rfl⟩))
      have hbelow : now.Above lower edge.parent := by
        rcases hlower with rfl | hlower
        · exact hnew
        · exact (hmono _ _ hlower).trans hnew
      rcases hupper with rfl | hupper
      · exact hbelow
      · exact hbelow.trans (hmono _ _ hupper)

/-- A name gets new ascendants from a new edge just if it is the child or has the child above it. -/
theorem Changes.mem_ascendants_add_iff (h : Changes before edge .add changed now)
    (hbefore : before.Sound) {text : Option String} {name : Name} :
    name ∈ now.ascendants text ↔
      name ∈ before.ascendants text ∨
        (Name.parse text = .ok edge.child ∨ edge.child ∈ before.ascendants text) ∧
          (name = edge.parent ∨ name ∈ before.ascendants (some edge.parent.text)) := by
  rw [h.sound.mem_ascendants_iff, hbefore.mem_ascendants_iff, hbefore.mem_ascendants_iff,
    hbefore.mem_ascendants_text_iff]
  simp only [h.above_add_iff]
  cases Name.parse text with
  | error defect => simp
  | ok start => simp

/-!
# Restored answers
-/

theorem joins_eq (graph : Graph) (child parent : Option String) :
    graph.joins child parent =
      match Name.parse child, Name.parse parent with
      | .ok lower, .ok upper => graph.hasEdge ⟨lower, upper⟩
      | _, _ => false := by
  unfold joins find? hasEdge
  cases Name.parse child with
  | error defect => rfl
  | ok lower =>
      cases Name.parse parent with
      | error defect =>
          dsimp only
          cases graph.position? lower with
          | none => rfl
          | some i => rfl
      | ok upper => rfl

theorem joins_eq_of_hasEdge_eq (h : forall other, first.hasEdge other = second.hasEdge other)
    (child parent : Option String) : first.joins child parent = second.joins child parent := by
  rw [joins_eq, joins_eq]
  simp only [h]

end Graph
end Entitlement
