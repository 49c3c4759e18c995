import Entitlement.Text.Case.Run
import Mathlib.Data.List.Basic

/-!
# Runs of code points

Runs are compared by their bounds.  What lies near some code points is found sector by sector, so
that a check of all the data need not hold every run against every other one.
-/

namespace Entitlement
namespace Text
namespace Case

/-!
# Stretches of code points that do not meet
-/

/-- No image of the run is a member of the other one, as far as the bounds of the two tell. -/
def Run.avoids (run other : Run) : Bool :=
  Nat.blt other.last run.image || Nat.blt (run.image + (run.last - run.first)) other.first ||
    ((Nat.beq run.step 2 || Nat.beq run.first run.last) &&
      Nat.beq other.step 2 && Nat.beq ((run.image + other.first) % 2) 1)

theorem Run.covers_iff (run : Run) (code : Nat) :
    run.covers code = true ↔
      run.first ≤ code ∧ code ≤ run.last ∧ (code - run.first) % run.step = 0 := by
  simp [Run.covers, and_assoc]

theorem Run.avoids_iff (run other : Run) :
    run.avoids other = true ↔
      other.last < run.image ∨ run.image + (run.last - run.first) < other.first ∨
        (run.step = 2 ∨ run.first = run.last) ∧ other.step = 2 ∧
          (run.image + other.first) % 2 = 1 := by
  simp [Run.avoids, Nat.blt_eq, Nat.beq_eq, or_assoc, and_assoc]

theorem Run.not_covers_apply {run other : Run} {code : Nat}
    (havoids : run.avoids other = true) (hcode : run.covers code = true) :
    other.covers (run.apply code) = false := by
  rw [Run.covers_iff] at hcode
  rcases hcode with ⟨hfirst, hlast, hstep⟩
  rw [Bool.eq_false_iff]
  intro hother
  rw [Run.covers_iff] at hother
  rcases hother with ⟨hotherFirst, hotherLast, hotherStep⟩
  unfold Run.apply at hotherFirst hotherLast hotherStep
  rcases (Run.avoids_iff run other).mp havoids with hbelow | habove | ⟨hsparse, htwo, hodd⟩
  · omega
  · omega
  · rw [htwo] at hotherStep
    rcases hsparse with hrun | hsingle
    · rw [hrun] at hstep
      omega
    · omega

/-!
# What lies near some code points
-/

section Near

variable {α : Type} (bounds : α -> Nat × Nat)

/-- The items that may cover a code point between two bounds, by bounds of their own. -/
def near (low high : Nat) (items : List α) : List α :=
  items.filter fun item => Nat.ble (bounds item).1 high && Nat.ble low (bounds item).2

/-- Parts of the code space, in each of which only a few runs lie. -/
def sectors : List (Nat × Nat) :=
  [
    (0x0000, 0x00FF), (0x0100, 0x017F), (0x0180, 0x01BF), (0x01C0, 0x024F), (0x0250, 0x027F),
    (0x0280, 0x036F), (0x0370, 0x03CF), (0x03D0, 0x045F), (0x0460, 0x1C7F), (0x1C80, 0x1EFF),
    (0x1F00, 0x1F5F), (0x1F60, 0x1F7F), (0x1F80, 0x1FAF), (0x1FB0, 0x1FFF), (0x2000, 0x2C5F),
    (0x2C60, 0xA63F), (0xA640, 0xA71F), (0xA720, 0xA78F), (0xA790, 0xFAFF), (0xFB00, 0x103FF),
    (0x10400, 0x10FFFF)
  ]

def sector? (low high : Nat) : Option (Nat × Nat) :=
  sectors.find? fun sector => Nat.ble sector.1 low && Nat.ble high sector.2

/-- The items near two bounds, looked for among those of their sector. -/
def around (low high : Nat) (items : List α) : List α :=
  match sector? low high with
  | some sector => near bounds low high (near bounds sector.1 sector.2 items)
  | none => near bounds low high items

theorem around_eq (low high : Nat) (items : List α) :
    around bounds low high items = near bounds low high items := by
  unfold around
  split
  · rename_i sector hsector
    have hbounds := List.find?_some hsector
    rw [Bool.and_eq_true, Nat.ble_eq, Nat.ble_eq] at hbounds
    unfold near
    rw [List.filter_filter]
    refine List.filter_congr fun item _ => ?_
    rw [Bool.eq_iff_iff]
    simp only [Bool.and_eq_true, Nat.ble_eq]
    omega
  · rfl

end Near

def Run.bounds (run : Run) : Nat × Nat :=
  (run.first, run.last)

def rowBounds (row : Nat × List Nat) : Nat × Nat :=
  (row.1, row.1)

section Lookup

variable {low high code : Nat} (hlow : low ≤ code) (hhigh : code ≤ high)

include hlow hhigh

theorem find?_near (runs : List Run) :
    (near Run.bounds low high runs).find? (·.covers code) = runs.find? (·.covers code) := by
  unfold near
  rw [List.find?_filter]
  congr
  funext run
  rw [Bool.eq_iff_iff, decide_eq_true_iff, and_iff_right_iff_imp]
  intro hcovers
  rcases (run.covers_iff code).mp hcovers with ⟨hfirst, hlast, _⟩
  rw [Bool.and_eq_true, Nat.ble_eq, Nat.ble_eq]
  exact ⟨Nat.le_trans hfirst hhigh, Nat.le_trans hlow hlast⟩

theorem lookup_near (rows : List (Nat × List Nat)) :
    (near rowBounds low high rows).lookup code = rows.lookup code := by
  unfold near
  induction rows with
  | nil => rfl
  | cons row rest ih =>
      rcases row with ⟨key, images⟩
      by_cases hsame : code = key
      · rw [List.filter_cons_of_pos, ← hsame, List.lookup_cons_self, List.lookup_cons_self]
        rw [Bool.and_eq_true, Nat.ble_eq, Nat.ble_eq, ← hsame]
        exact ⟨hhigh, hlow⟩
      · have hother : (code == key) = false := beq_false_of_ne hsame
        rw [List.filter_cons]
        split
        · rw [List.lookup_cons, List.lookup_cons, hother, ih]
        · rw [List.lookup_cons, hother, ih]

theorem replace_near (rows : List (Nat × List Nat)) (runs : List Run) :
    replace (near rowBounds low high rows) (near Run.bounds low high runs) code =
      replace rows runs code := by
  unfold replace
  rw [lookup_near hlow hhigh, find?_near hlow hhigh]

end Lookup

theorem Run.avoids_of_near {run : Run} {others : List Run}
    (h : (near Run.bounds run.image (run.image + (run.last - run.first)) others).all run.avoids =
      true) : others.all run.avoids = true := by
  rw [List.all_eq_true] at h ⊢
  intro other hother
  by_cases hnear : other.first ≤ run.image + (run.last - run.first) ∧ run.image ≤ other.last
  · refine h other (List.mem_filter.mpr ⟨hother, ?_⟩)
    rwa [Bool.and_eq_true, Nat.ble_eq, Nat.ble_eq]
  · rw [Run.avoids_iff]
    omega

end Case
end Text
end Entitlement
