import Entitlement.Text.Blank
import Entitlement.Text.Case

/-!
# Canonical names

The vertices of a hierarchy are compared without regard to letter case and surrounding blanks. A
name is a text that has been brought into the one form in which it is compared: trimmed and in
upper case, and never empty.
-/

namespace Entitlement

/-- The form in which names are compared. It is empty for blank text only. -/
def canonicalForm (raw : String) : String :=
  Text.upper (Text.trim raw)

structure Name where
  text : String
  text_ne_empty : text ≠ ""
  isCanonical : ∃ raw, canonicalForm raw = text
  deriving DecidableEq

namespace Name

inductive Defect where
  | missing
  | empty
  deriving DecidableEq, Repr

def parse : Option String -> Except Defect Name
  | none => .error .missing
  | some raw =>
      if h : canonicalForm raw = "" then
        .error .empty
      else
        .ok ⟨canonicalForm raw, h, raw, rfl⟩

theorem parse_some_text {raw : String} {name : Name} (h : parse (some raw) = .ok name) :
    name.text = canonicalForm raw := by
  simp only [parse] at h
  split at h
  · exact absurd h (by simp)
  · rw [← Except.ok.inj h]

instance : Ord Name where
  compare a b := compare a.text b.text

end Name

end Entitlement
