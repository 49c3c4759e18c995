import Entitlement.Table
import Mathlib.Data.List.Nodup

/-!
# Rows and values of a table

A table whose keys are distinct holds exactly the rows that its keys lead to.  Putting a value keeps
the keys distinct, and so does a change of the values.  A value that is put adds its key to the keys
and takes the place of the old value wherever values are counted.
-/

namespace Entitlement
namespace Table

variable {κ ν : Type} [DecidableEq κ]

theorem get?_mapRows (f : κ -> ν -> ν) (key : κ) (table : Table κ ν) :
    get? key (table.map fun row => (row.1, f row.1 row.2)) = (get? key table).map (f key) := by
  induction table with
  | nil => rfl
  | cons row rest ih =>
      rcases row with ⟨k, value⟩
      rw [List.map_cons]
      unfold get?
      by_cases hkey : k = key
      · rw [if_pos hkey, if_pos hkey, hkey]
        rfl
      · rw [if_neg hkey, if_neg hkey]
        exact ih

theorem mem_of_get? {key : κ} {value : ν} {table : Table κ ν} (h : get? key table = some value) :
    (key, value) ∈ table := by
  induction table with
  | nil => cases h
  | cons row rest ih =>
      rcases row with ⟨k, v⟩
      unfold get? at h
      by_cases hkey : k = key
      · rw [if_pos hkey] at h
        rw [hkey, Option.some.inj h]
        exact List.mem_cons_self
      · rw [if_neg hkey] at h
        exact List.mem_cons_of_mem _ (ih h)

theorem get?_eq_some_iff {table : Table κ ν} (hkeys : (table.map Prod.fst).Nodup) {key : κ}
    {value : ν} : get? key table = some value ↔ (key, value) ∈ table := by
  refine ⟨mem_of_get?, fun hrow => ?_⟩
  induction table with
  | nil => cases hrow
  | cons row rest ih =>
      rcases row with ⟨k, v⟩
      rw [List.map_cons, List.nodup_cons] at hkeys
      unfold get?
      rcases List.mem_cons.mp hrow with hhead | htail
      · cases hhead
        exact if_pos rfl
      · have hkey : k ≠ key := by
          intro hsame
          rw [hsame] at hkeys
          exact hkeys.1 (List.mem_map.mpr ⟨(key, value), htail, rfl⟩)
        rw [if_neg hkey]
        exact ih hkeys.2 htail

theorem mem_put {key : κ} {value : ν} {table : Table κ ν} {row : κ × ν}
    (hrow : row ∈ put key value table) : row = (key, value) ∨ row ∈ table := by
  induction table with
  | nil => exact Or.inl (List.mem_singleton.mp hrow)
  | cons first rest ih =>
      rcases first with ⟨k, old⟩
      unfold put at hrow
      split at hrow
      · rename_i hkey
        rcases List.mem_cons.mp hrow with hhead | htail
        · rw [hkey] at hhead
          exact Or.inl hhead
        · exact Or.inr (List.mem_cons_of_mem _ htail)
      · rcases List.mem_cons.mp hrow with hhead | htail
        · rw [hhead]
          exact Or.inr List.mem_cons_self
        · exact (ih htail).imp_right (List.mem_cons_of_mem _)

theorem nodup_keys_put (key : κ) (value : ν) {table : Table κ ν}
    (hkeys : (table.map Prod.fst).Nodup) : ((put key value table).map Prod.fst).Nodup := by
  induction table with
  | nil => exact List.nodup_singleton key
  | cons first rest ih =>
      rcases first with ⟨k, old⟩
      rw [List.map_cons, List.nodup_cons] at hkeys
      unfold put
      split
      · exact List.nodup_cons.mpr hkeys
      · rename_i hkey
        refine List.nodup_cons.mpr ⟨?_, ih hkeys.2⟩
        intro hmember
        rcases List.mem_map.mp hmember with ⟨row, hrow, hfirst⟩
        rcases mem_put hrow with hnew | hold
        · rw [hnew] at hfirst
          exact hkey hfirst.symm
        · exact hkeys.1 (List.mem_map.mpr ⟨row, hold, hfirst⟩)

theorem keys_put (key : κ) (value : ν) (table : Table κ ν) :
    (put key value table).map Prod.fst =
      if key ∈ table.map Prod.fst then table.map Prod.fst else table.map Prod.fst ++ [key] := by
  induction table with
  | nil => rfl
  | cons first rest ih =>
      rcases first with ⟨k, old⟩
      unfold put
      by_cases hkey : k = key
      · rw [if_pos hkey, if_pos (List.mem_map.mpr ⟨(k, old), List.mem_cons_self, hkey⟩)]
        rfl
      · have hmember : key ∈ ((k, old) :: rest).map Prod.fst ↔ key ∈ rest.map Prod.fst := by
          rw [List.map_cons, List.mem_cons]
          exact or_iff_right fun hsame => hkey hsame.symm
        rw [if_neg hkey, List.map_cons, ih]
        simp only [hmember]
        split
        · rfl
        · rfl

theorem mem_keys_put (key other : κ) (value : ν) (table : Table κ ν) :
    other ∈ (put key value table).map Prod.fst ↔ other = key ∨ other ∈ table.map Prod.fst := by
  rw [keys_put]
  split
  · rename_i hmember
    apply Iff.intro Or.inr
    intro h
    rcases h with hsame | hold
    · rw [hsame]
      exact hmember
    · exact hold
  · rw [List.mem_append, List.mem_singleton, or_comm]

theorem keys_erase (key : κ) (table : Table κ ν) :
    (erase key table).map Prod.fst = (table.map Prod.fst).filter fun other => other ≠ key := by
  unfold erase
  rw [List.filter_map]
  rfl

theorem mem_keys_of_get? {key : κ} {value : ν} {table : Table κ ν}
    (h : get? key table = some value) : key ∈ table.map Prod.fst :=
  List.mem_map.mpr ⟨(key, value), mem_of_get? h, rfl⟩

theorem countP_put (p : ν -> Bool) (key : κ) (value : ν) (table : Table κ ν) :
    (put key value table).countP (fun row => p row.2) + ((get? key table).any p).toNat =
      table.countP (fun row => p row.2) + (p value).toNat := by
  have hcount : forall (row : κ × ν) (rows : Table κ ν),
      (row :: rows).countP (fun row => p row.2) =
        rows.countP (fun row => p row.2) + (p row.2).toNat := by
    intro row rows
    rw [List.countP_cons]
    cases p row.2 with
    | true => rfl
    | false => rfl
  induction table with
  | nil =>
      unfold put
      rw [hcount]
      rfl
  | cons first rest ih =>
      rcases first with ⟨k, old⟩
      unfold put get?
      split
      · rw [hcount, hcount]
        exact Nat.add_right_comm _ _ _
      · rw [hcount, hcount]
        dsimp only
        omega

end Table
end Entitlement
