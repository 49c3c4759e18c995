import Entitlement.Text.Blank
import Mathlib.Data.List.DropRight

/-!
# Trimming

Trimming leaves a text alone if the text neither starts nor ends with a blank character.  A trimmed
text has this form, so trimming it again changes nothing.
-/

namespace Entitlement
namespace Text

structure Trimmed (cs : List Char) : Prop where
  first : forall h : cs ≠ [], ¬ isBlank (cs.head h) = true
  last : forall h : cs ≠ [], ¬ isBlank (cs.getLast h) = true

theorem trimChars_eq_rdropWhile (cs : List Char) :
    trimChars cs = (cs.dropWhile isBlank).rdropWhile isBlank := rfl

theorem trimmed_trimChars (cs : List Char) : Trimmed (trimChars cs) := by
  rw [trimChars_eq_rdropWhile]
  constructor
  · intro h
    have hfront := List.rdropWhile_prefix isBlank (l := cs.dropWhile isBlank)
    rw [hfront.head h]
    simpa using List.head_dropWhile_not isBlank (hfront.ne_nil h)
  · intro h
    exact List.rdropWhile_last_not isBlank _ h

theorem Trimmed.trimChars_eq {cs : List Char} (h : Trimmed cs) : trimChars cs = cs := by
  have hfirst : cs.dropWhile isBlank = cs := by
    rw [List.dropWhile_eq_self_iff]
    intro hlength
    rw [← List.head_eq_getElem (List.ne_nil_of_length_pos hlength)]
    exact h.first _
  rw [trimChars_eq_rdropWhile, hfirst, List.rdropWhile_eq_self_iff]
  exact h.last

theorem trimChars_eq_nil_iff {cs : List Char} : trimChars cs = [] ↔ cs.all isBlank = true := by
  rw [trimChars_eq_rdropWhile, List.rdropWhile_eq_nil_iff, List.all_eq_true]
  constructor
  · intro hkept c hc
    by_cases hblank : isBlank c = true
    · exact hblank
    · have hmember : c ∈ cs.dropWhile isBlank := by
        rw [← List.takeWhile_append_dropWhile (p := isBlank) (l := cs)] at hc
        rcases List.mem_append.mp hc with hdropped | hrest
        · exact absurd (List.mem_takeWhile_imp hdropped) hblank
        · exact hrest
      exact hkept c hmember
  · intro hall c hc
    exact hall c ((List.dropWhile_sublist isBlank).mem hc)

@[simp] theorem toList_trim (s : String) : (trim s).toList = trimChars s.toList :=
  String.toList_ofList

theorem trim_eq_empty_iff {s : String} : trim s = "" ↔ blank s = true := by
  rw [← String.toList_eq_nil_iff, toList_trim]
  exact trimChars_eq_nil_iff

@[simp] theorem trim_trim (s : String) : trim (trim s) = trim s := by
  unfold trim
  rw [String.toList_ofList, (trimmed_trimChars s.toList).trimChars_eq]

end Text
end Entitlement
