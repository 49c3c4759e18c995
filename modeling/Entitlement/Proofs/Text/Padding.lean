import Entitlement.Proofs.Text.Upper

/-!
# Blanks around a text

A text is blanks, a trimmed text, and blanks again, and trimming finds the middle one.  Blank
characters have no other upper case form.  So blanks around a text make no difference to it once it
is trimmed, and it is all the same whether a text is trimmed first or brought into upper case first.
-/

namespace Entitlement
namespace Text

/-!
# The trimmed middle
-/

theorem exists_around_trimChars (cs : List Char) :
    exists front back, (front ++ back).all isBlank = true ∧ cs = front ++ trimChars cs ++ back := by
  refine ⟨cs.takeWhile isBlank, (cs.dropWhile isBlank).rtakeWhile isBlank, ?_, ?_⟩
  · rw [List.all_append, Bool.and_eq_true]
    constructor
    · exact List.all_takeWhile
    · unfold List.rtakeWhile
      rw [List.all_reverse]
      exact List.all_takeWhile
  · rw [trimChars_eq_rdropWhile, List.append_assoc, List.rdropWhile_append_rtakeWhile,
      List.takeWhile_append_dropWhile]

theorem Trimmed.trimChars_around {middle : List Char} (h : Trimmed middle) {front back : List Char}
    (hblank : (front ++ back).all isBlank = true) :
    trimChars (front ++ middle ++ back) = middle := by
  rw [List.all_append, Bool.and_eq_true, List.all_eq_true, List.all_eq_true] at hblank
  rcases hblank with ⟨hfront, hback⟩
  rw [List.append_assoc]
  unfold trimChars
  rw [List.dropWhile_append_of_pos hfront]
  by_cases hmiddle : middle = []
  · subst hmiddle
    rw [List.nil_append, List.dropWhile_eq_nil_iff.mpr hback]
    rfl
  · have hkept : (middle ++ back).dropWhile isBlank = middle.dropWhile isBlank ++ back := by
      rw [List.dropWhile_append, if_neg]
      intro hempty
      have hdropped := List.dropWhile_eq_nil_iff.mp (List.isEmpty_iff.mp hempty)
      exact h.first hmiddle (hdropped _ (List.head_mem hmiddle))
    have hbackward : forall c, c ∈ back.reverse -> isBlank c = true :=
      fun c hc => hback c (List.mem_reverse.mp hc)
    rw [hkept, List.reverse_append, List.dropWhile_append_of_pos hbackward]
    exact h.trimChars_eq

theorem trimChars_pad (cs : List Char) {front back : List Char}
    (hblank : (front ++ back).all isBlank = true) :
    trimChars (front ++ cs ++ back) = trimChars cs := by
  rcases exists_around_trimChars cs with ⟨before, after, hown, hcs⟩
  have hsplit : front ++ cs ++ back = (front ++ before) ++ trimChars cs ++ (after ++ back) := by
    conv_lhs => rw [hcs]
    simp only [List.append_assoc]
  rw [hsplit]
  apply (trimmed_trimChars cs).trimChars_around
  simp only [List.all_append, Bool.and_eq_true] at hblank hown ⊢
  exact ⟨⟨hblank.1, hown.1⟩, hown.2, hblank.2⟩

theorem mem_trimChars_iff {cs : List Char} {c : Char} (hprinted : isBlank c = false) :
    c ∈ trimChars cs ↔ c ∈ cs := by
  rcases exists_around_trimChars cs with ⟨front, back, hblank, hcs⟩
  have houtside : c ∉ front ++ back := by
    intro hc
    rw [List.all_eq_true.mp hblank c hc] at hprinted
    cases hprinted
  rw [List.mem_append, not_or] at houtside
  constructor
  · intro hc
    rw [hcs]
    exact List.mem_append_left _ (List.mem_append_right _ hc)
  · intro hc
    rw [hcs] at hc
    rcases List.mem_append.mp hc with hleft | hback
    · exact (List.mem_append.mp hleft).resolve_left houtside.1
    · exact absurd hback houtside.2

/-!
# Blank characters have one case
-/

/-- The upper case data lies beside the blank characters. -/
theorem moving_beside_blanks :
    Case.movingRuns.all (fun run => blankRanges.all fun range =>
      Nat.blt run.last range.1 || Nat.blt range.2 run.first) = true := by
  decide +kernel

theorem still_of_isBlank {c : Char} (h : isBlank c = true) : Case.Still c.toNat := by
  rcases (inRanges_iff blankRanges c.toNat).mp h with ⟨range, hrange, hlow, hhigh⟩
  intro run hrun
  have hruns := List.all_eq_true.mp moving_beside_blanks run hrun
  have hbeside := List.all_eq_true.mp hruns range hrange
  rw [Bool.or_eq_true, Nat.blt_eq, Nat.blt_eq] at hbeside
  rw [Bool.eq_false_iff]
  intro hcovers
  rcases (Case.Run.covers_iff run c.toNat).mp hcovers with ⟨hfirst, hlast, _⟩
  omega

theorem flatMap_upperChar_of_blank {cs : List Char} (h : cs.all isBlank = true) :
    cs.flatMap upperChar = cs := by
  have hsame : forall c, c ∈ cs -> upperChar c = [c] :=
    fun c hc => upperChar_of_still (still_of_isBlank (List.all_eq_true.mp h c hc))
  rw [List.flatMap_congr hsame, List.flatMap_singleton']

theorem trimChars_flatMap_upperChar (cs : List Char) :
    trimChars (cs.flatMap upperChar) = (trimChars cs).flatMap upperChar := by
  rcases exists_around_trimChars cs with ⟨front, back, hblank, hcs⟩
  have hends := hblank
  rw [List.all_append, Bool.and_eq_true] at hends
  have hsplit : cs.flatMap upperChar = front ++ (trimChars cs).flatMap upperChar ++ back := by
    conv_lhs => rw [hcs]
    rw [List.flatMap_append, List.flatMap_append, flatMap_upperChar_of_blank hends.1,
      flatMap_upperChar_of_blank hends.2]
  rw [hsplit]
  exact (trimmed_trimChars cs).flatMap_upperChar.trimChars_around hblank

end Text
end Entitlement
