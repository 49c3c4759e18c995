import Entitlement.Proofs.Name
import Entitlement.Roster
import Mathlib.Data.List.Sort

/-!
# The members of a roster

A roster has the members of the list that it is made of, and it lists them in strictly ascending
order.  So the same members always give the same roster.
-/

namespace Entitlement
namespace Roster

variable {α : Type} [Ord α]

def Ascending (roster : List α) : Prop :=
  roster.Pairwise fun x y => compare x y = .lt

theorem mem_insert [Std.LawfulEqOrd α] {x y : α} {roster : List α} :
    y ∈ Roster.insert x roster ↔ y = x ∨ y ∈ roster := by
  induction roster with
  | nil => simp [Roster.insert]
  | cons z rest ih =>
      unfold Roster.insert
      cases horder : compare x z with
      | lt => exact List.mem_cons
      | eq =>
          have hsame : x = z := Std.LawfulEqOrd.eq_of_compare horder
          rw [hsame, List.mem_cons]
          exact ⟨Or.inr, fun h => h.elim Or.inl id⟩
      | gt =>
          rw [List.mem_cons, List.mem_cons, ih]
          exact or_left_comm

theorem ascending_insert [Std.TransOrd α] [Std.LawfulEqOrd α] {x : α} {roster : List α}
    (h : Ascending roster) : Ascending (Roster.insert x roster) := by
  induction roster with
  | nil => exact List.pairwise_singleton _ x
  | cons z rest ih =>
      have hrest := List.pairwise_cons.mp h
      unfold Roster.insert
      cases horder : compare x z with
      | lt =>
          refine List.pairwise_cons.mpr ⟨?_, h⟩
          intro y hy
          rcases List.mem_cons.mp hy with hhead | htail
          · rw [hhead]
            exact horder
          · exact Std.TransCmp.lt_trans horder (hrest.1 y htail)
      | eq => exact h
      | gt =>
          refine List.pairwise_cons.mpr ⟨?_, ih hrest.2⟩
          intro y hy
          rcases mem_insert.mp hy with hnew | hold
          · rw [hnew]
            exact Std.OrientedCmp.gt_iff_lt.mp horder
          · exact hrest.1 y hold

theorem foldl_insert [Std.TransOrd α] [Std.LawfulEqOrd α] (xs : List α) {roster : List α}
    (h : Ascending roster) :
    Ascending (xs.foldl (fun roster x => Roster.insert x roster) roster) ∧
      forall y, y ∈ xs.foldl (fun roster x => Roster.insert x roster) roster ↔
        y ∈ xs ∨ y ∈ roster := by
  induction xs generalizing roster with
  | nil => exact ⟨h, fun y => by simp⟩
  | cons x rest ih =>
      rcases ih (ascending_insert (x := x) h) with ⟨hascending, hmembers⟩
      refine ⟨hascending, fun y => ?_⟩
      rw [List.foldl_cons, hmembers y, mem_insert, List.mem_cons, or_left_comm, or_assoc]

theorem ascending_ofList [Std.TransOrd α] [Std.LawfulEqOrd α] (xs : List α) :
    Ascending (ofList xs) :=
  (foldl_insert xs List.Pairwise.nil).1

theorem mem_ofList [Std.TransOrd α] [Std.LawfulEqOrd α] {xs : List α} {y : α} :
    y ∈ ofList xs ↔ y ∈ xs := by
  have hmembers := (foldl_insert xs (List.Pairwise.nil : Ascending ([] : List α))).2 y
  exact hmembers.trans (or_iff_left (List.not_mem_nil))

theorem Ascending.eq_of_mem_iff [Std.TransOrd α] [Std.LawfulEqOrd α] {first second : List α}
    (hfirst : Ascending first) (hsecond : Ascending second)
    (hmembers : forall x, x ∈ first ↔ x ∈ second) : first = second := by
  have hirrefl : Std.Irrefl fun x y : α => compare x y = .lt :=
    ⟨fun x hlt => absurd (Std.ReflOrd.compare_self (a := x)) (by rw [hlt]; simp)⟩
  have hantisymm : Std.Antisymm fun x y : α => compare x y = .lt :=
    ⟨fun x y hlt hgt => absurd (Std.TransCmp.lt_trans hlt hgt) (hirrefl.irrefl x)⟩
  exact List.Pairwise.eq_of_mem_iff hfirst hsecond hmembers

theorem ofList_eq_of_mem_iff [Std.TransOrd α] [Std.LawfulEqOrd α] {xs ys : List α}
    (hmembers : forall x, x ∈ xs ↔ x ∈ ys) : ofList xs = ofList ys := by
  apply (ascending_ofList xs).eq_of_mem_iff (ascending_ofList ys)
  intro x
  rw [mem_ofList, mem_ofList, hmembers]

end Roster

namespace Name

instance : Std.LawfulEqOrd Name where
  compare_self {name} := Std.ReflOrd.compare_self (α := String) (a := name.text)
  eq_of_compare h := eq_of_text_eq (Std.LawfulEqOrd.eq_of_compare h)

instance : Std.TransOrd Name where
  eq_swap {a b} := Std.OrientedOrd.eq_swap (α := String) (a := a.text) (b := b.text)
  isLE_trans {a b c} := Std.TransOrd.isLE_trans (α := String) (a := a.text) (b := b.text)
    (c := c.text)

end Name
end Entitlement
