import Entitlement.Hierarchy.Key
import Entitlement.Name
import Entitlement.Proofs.Text.Upper

/-!
# Stability of names and contexts

A name is read back from its own text, and a context that has been normalized stays as it is.  So it
does not matter how many layers bring a name or a context into its normal form.
-/

namespace Entitlement

theorem toList_canonicalForm (raw : String) :
    (canonicalForm raw).toList = (Text.trimChars raw.toList).flatMap Text.upperChar := by
  unfold canonicalForm
  rw [Text.toList_upper, Text.toList_trim]

@[simp] theorem canonicalForm_canonicalForm (raw : String) :
    canonicalForm (canonicalForm raw) = canonicalForm raw := by
  have htrimmed : Text.trim (canonicalForm raw) = canonicalForm raw := by
    have hchars := toList_canonicalForm raw
    have hkept := (Text.trimmed_trimChars raw.toList).flatMap_upperChar.trimChars_eq
    rw [Text.trim, hchars, hkept, ← hchars, String.ofList_toList]
  show Text.upper (Text.trim (canonicalForm raw)) = canonicalForm raw
  rw [htrimmed]
  exact Text.upper_upper _

theorem canonicalForm_eq_empty_iff {raw : String} :
    canonicalForm raw = "" ↔ Text.blank raw = true := by
  rw [← String.toList_eq_nil_iff, toList_canonicalForm, List.flatMap_eq_nil_iff]
  unfold Text.blank
  rw [← Text.trimChars_eq_nil_iff, List.eq_nil_iff_forall_not_mem]
  constructor
  · intro himages c hc
    exact Text.upperChar_ne_nil c (himages c hc)
  · intro hnone c hc
    exact absurd hc (hnone c)

theorem canonicalForm_ne_empty {raw : String} (h : Text.blank raw = false) :
    canonicalForm raw ≠ "" := by
  rw [Ne, canonicalForm_eq_empty_iff, h]
  exact Bool.false_ne_true

theorem exists_canonicalForm (raw : String) :
    exists source, canonicalForm source = canonicalForm raw :=
  ⟨raw, rfl⟩

namespace Name

theorem eq_of_text_eq {a b : Name} (h : a.text = b.text) : a = b := by
  cases a with
  | mk text hne hcanonical =>
      cases h
      rfl

@[simp] theorem canonicalForm_text (name : Name) : canonicalForm name.text = name.text := by
  rcases name.isCanonical with ⟨raw, hraw⟩
  rw [← hraw, canonicalForm_canonicalForm]

@[simp] theorem parse_text (name : Name) : parse (some name.text) = .ok name := by
  have hne : ¬ canonicalForm name.text = "" := by
    rw [canonicalForm_text]
    exact name.text_ne_empty
  simp only [parse]
  rw [dif_neg hne]
  exact congrArg Except.ok (eq_of_text_eq (canonicalForm_text name))

theorem parse_some_eq_ok_iff {raw : String} {name : Name} :
    parse (some raw) = .ok name ↔ Text.blank raw = false ∧ name.text = canonicalForm raw := by
  rw [← Bool.not_eq_true, ← canonicalForm_eq_empty_iff]
  constructor
  · intro hname
    have htext := parse_some_text hname
    exact ⟨fun hempty => name.text_ne_empty (htext.trans hempty), htext⟩
  · intro hread
    rcases hread with ⟨hne, htext⟩
    simp only [parse]
    rw [dif_neg hne]
    exact congrArg Except.ok (eq_of_text_eq htext.symm)

def ofText (raw : String) (h : Text.blank raw = false) : Name :=
  ⟨canonicalForm raw, canonicalForm_ne_empty h, exists_canonicalForm raw⟩

theorem parse_some_of_not_blank {raw : String} (h : Text.blank raw = false) :
    parse (some raw) = .ok (ofText raw h) :=
  parse_some_eq_ok_iff.mpr ⟨h, rfl⟩

inductive Nameless : Option String -> Prop where
  | absent : Nameless none
  | blank {raw : String} : Text.blank raw = true -> Nameless (some raw)

theorem nameless_iff {text : Option String} :
    Nameless text ↔ exists defect, parse text = .error defect := by
  constructor
  · intro h
    cases hparse : parse text with
    | error defect => exact ⟨defect, rfl⟩
    | ok name =>
        cases h with
        | absent => cases hparse
        | blank hblank =>
            rw [(parse_some_eq_ok_iff.mp hparse).1] at hblank
            cases hblank
  · intro h
    rcases h with ⟨defect, hdefect⟩
    cases text with
    | none => exact Nameless.absent
    | some raw =>
        cases hblank : Text.blank raw with
        | true => exact Nameless.blank hblank
        | false =>
            rw [parse_some_of_not_blank hblank] at hdefect
            cases hdefect

end Name

namespace Context

@[simp] theorem normalize_normalize (sentinel : String) (context : Option String) :
    normalize sentinel (some (normalize sentinel context)) = normalize sentinel context := by
  have hglobal : normalize sentinel (some global) = global := rfl
  cases context with
  | none => exact hglobal
  | some context =>
      by_cases hmeant : (Text.trim context = "" ||
          Text.lower (Text.trim context) = Text.lower sentinel) = true
      · have hresult : normalize sentinel (some context) = global := if_pos hmeant
        rw [hresult, hglobal]
      · have hresult : normalize sentinel (some context) = Text.trim context := if_neg hmeant
        rw [hresult]
        unfold normalize
        simp only [Text.trim_trim]
        exact if_neg hmeant

theorem normalize_trim (sentinel text : String) :
    normalize sentinel (some (Text.trim text)) = normalize sentinel (some text) := by
  unfold normalize
  simp only [Text.trim_trim]

theorem normalize_cases (sentinel text : String) :
    normalize sentinel (some text) = global ∨
      (normalize sentinel (some text) = Text.trim text ∧ Text.trim text ≠ global) := by
  by_cases hmeant : (Text.trim text = "" ||
      Text.lower (Text.trim text) = Text.lower sentinel) = true
  · exact Or.inl (if_pos hmeant)
  · refine Or.inr ⟨if_neg hmeant, fun hblank => hmeant ?_⟩
    rw [Bool.or_eq_true, decide_eq_true_iff]
    exact Or.inl hblank

/--
A context that goes through another normal form first ends up in the same place, unless it is taken
for the global one on the way and would not be taken for it otherwise.
-/
theorem normalize_normalize_eq_iff (inner outer : String) (context : Option String) :
    normalize outer (some (normalize inner context)) = normalize outer context ↔
      (normalize inner context = global -> normalize outer context = global) := by
  have hglobal : normalize outer (some global) = global := rfl
  cases context with
  | none => exact iff_of_true hglobal fun _ => rfl
  | some text =>
      rcases normalize_cases inner text with hinner | ⟨hinner, htext⟩
      · rw [hinner, hglobal]
        exact ⟨fun h _ => h.symm, fun h => (h rfl).symm⟩
      · rw [hinner, normalize_trim]
        exact iff_of_true rfl fun h => absurd h htext

end Context

namespace HierarchyKey

@[simp] theorem of_of (sentinel : String) (kind : HierarchyKind) (context : Option String) :
    of sentinel kind (some (of sentinel kind context).context) = of sentinel kind context := by
  simp [of]

theorem of_own_iff {sentinel : String} {key : HierarchyKey} :
    of sentinel key.kind (some key.context) = key ↔
      exists kind context, of sentinel kind context = key := by
  constructor
  · intro hown
    exact ⟨key.kind, some key.context, hown⟩
  · intro haddress
    rcases haddress with ⟨kind, context, hkey⟩
    rw [← hkey]
    exact of_of sentinel kind context

end HierarchyKey

end Entitlement
