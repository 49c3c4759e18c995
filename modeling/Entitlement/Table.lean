/-!
# Tables

A table holds rows with distinct keys in the order in which the keys were first put.
-/

namespace Entitlement

/-- Rows with distinct keys, in the order in which the keys were first put. -/
abbrev Table (κ ν : Type) : Type :=
  List (κ × ν)

namespace Table

variable {κ ν : Type} [DecidableEq κ]

def get? (key : κ) : Table κ ν -> Option ν
  | [] => none
  | (k, value) :: rest => if k = key then some value else get? key rest

def put (key : κ) (value : ν) : Table κ ν -> Table κ ν
  | [] => [(key, value)]
  | (k, old) :: rest => if k = key then (k, value) :: rest else (k, old) :: put key value rest

def erase (key : κ) (table : Table κ ν) : Table κ ν :=
  table.filter fun row => row.1 ≠ key

@[simp] theorem get?_nil (key : κ) : get? key ([] : Table κ ν) = none := rfl

theorem get?_put (key : κ) (value : ν) (table : Table κ ν) (other : κ) :
    get? other (put key value table) = if other = key then some value else get? other table := by
  induction table with
  | nil =>
      by_cases h : key = other
      · simp [put, get?, h]
      · simp [put, get?, h, Ne.symm h]
  | cons row rest ih =>
      obtain ⟨k, old⟩ := row
      by_cases hk : k = key
      · subst hk
        by_cases ho : k = other
        · simp [put, get?, ho]
        · simp [put, get?, ho, Ne.symm ho]
      · by_cases ho : k = other
        · subst ho
          simp [put, get?, hk]
        · simp [put, get?, hk, ho, ih]

theorem get?_erase (key : κ) (table : Table κ ν) (other : κ) :
    get? other (erase key table) = if other = key then none else get? other table := by
  induction table with
  | nil => simp [erase]
  | cons row rest ih =>
      obtain ⟨k, old⟩ := row
      unfold erase at ih
      by_cases hk : k = key
      · subst hk
        by_cases ho : k = other
        · subst ho
          simpa [erase] using ih
        · simpa [erase, get?, ho] using ih
      · by_cases ho : k = other
        · subst ho
          simp [erase, get?, hk]
        · simpa [erase, get?, hk, ho] using ih

end Table

end Entitlement
