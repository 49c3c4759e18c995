import Entitlement.Proofs.Name
import Entitlement.Proofs.Text.Lower

/-!
# Spellings of a name

A name is the same name in upper case and with blanks around it.  In lower case it is the same name
exactly if it holds no one-way capital, since no spelling without one leads to such a letter.
-/

namespace Entitlement

theorem canonicalForm_eq_trim_upper (raw : String) :
    canonicalForm raw = Text.trim (Text.upper raw) := by
  apply String.toList_inj.mp
  rw [toList_canonicalForm, Text.toList_trim, Text.toList_upper,
    Text.trimChars_flatMap_upperChar]

@[simp] theorem canonicalForm_upper (raw : String) :
    canonicalForm (Text.upper raw) = canonicalForm raw := by
  rw [canonicalForm_eq_trim_upper, canonicalForm_eq_trim_upper, Text.upper_upper]

theorem canonicalForm_pad {front back : String} (hblank : Text.blank (front ++ back) = true)
    (raw : String) : canonicalForm (front ++ raw ++ back) = canonicalForm raw := by
  unfold Text.blank at hblank
  rw [String.toList_append] at hblank
  unfold canonicalForm Text.trim
  rw [String.toList_append, String.toList_append, Text.trimChars_pad raw.toList hblank]

theorem canonicalForm_lower_iff {raw : String} :
    canonicalForm (Text.lower raw) = canonicalForm raw ↔ Text.holdsOneWay raw = false := by
  constructor
  · intro hsame
    rw [Text.holdsOneWay_eq_false_iff]
    intro c hc honeWay
    have hkept : c ∈ (canonicalForm raw).toList := by
      rw [canonicalForm_eq_trim_upper, Text.toList_trim, Text.toList_upper,
        Text.mem_trimChars_iff (Text.isBlank_oneWay honeWay), List.mem_flatMap]
      refine ⟨c, hc, ?_⟩
      rw [Text.upperChar_oneWay honeWay]
      exact List.mem_singleton.mpr rfl
    rw [← hsame, canonicalForm_eq_trim_upper, Text.toList_trim, Text.toList_upper_lower,
      Text.mem_trimChars_iff (Text.isBlank_oneWay honeWay)] at hkept
    rcases List.mem_flatMap.mp hkept with ⟨_, _, himage⟩
    exact Text.not_oneWay_of_mem himage honeWay
  · intro hnone
    rw [canonicalForm_eq_trim_upper, canonicalForm_eq_trim_upper, Text.upper_lower hnone]

namespace Name

theorem parse_congr {first second : String}
    (hsame : canonicalForm first = canonicalForm second) :
    parse (some first) = parse (some second) := by
  by_cases hempty : canonicalForm second = ""
  · rw [parse, parse, dif_pos hempty, dif_pos (hsame.trans hempty)]
  · rw [parse, parse, dif_neg hempty, dif_neg fun h => hempty (hsame.symm.trans h)]
    exact congrArg Except.ok (eq_of_text_eq hsame)

end Name
end Entitlement
