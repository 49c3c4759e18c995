import Entitlement.Proofs.Text.Runs
import Entitlement.Proofs.Text.Trim
import Entitlement.Text.Case

/-!
# Upper case is stable

The upper case data maps no code point to one that it maps further, and no code point to a blank
one.  Hence a text in upper case stays as it is when it is brought into upper case again, and
bringing a trimmed text into upper case leaves it trimmed.

The data is compared stretch by stretch: every stretch of images lies beside every stretch of code
points that it must not meet, or between its members.
-/

namespace Entitlement
namespace Text
namespace Case

/-!
# The images of the upper case data
-/

/-- The code points of expansions, each of them once and mapped to itself. -/
def expansionImages : List Run :=
  (upperExpansions.flatMap (·.2)).eraseDups.map fun code => ⟨code, code, 1, code⟩

/-- Code points with another upper case form, which no image may be. -/
def movingRuns : List Run :=
  upperRuns ++ upperExpansions.map fun row => ⟨row.1, row.1, 2, 0⟩

/-- Blank characters and numbers of no character, which no image may be. -/
def foreignRuns : List Run :=
  ⟨0xD800, 0xDFFF, 1, 0⟩ :: blankRanges.map fun range => ⟨range.1, range.2, 1, 0⟩

theorem images_avoid :
    (upperRuns ++ expansionImages).all (fun run =>
      Nat.blt (run.image + (run.last - run.first)) 0x110000 &&
        (movingRuns ++ foreignRuns).all run.avoids) = true := by
  have hnear : (upperRuns ++ expansionImages).all (fun run =>
      Nat.blt (run.image + (run.last - run.first)) 0x110000 &&
        (around Run.bounds run.image (run.image + (run.last - run.first))
          (movingRuns ++ foreignRuns)).all run.avoids) = true := by
    decide +kernel
  rw [List.all_eq_true] at hnear ⊢
  intro run hrun
  have hboth := hnear run hrun
  rw [around_eq, Bool.and_eq_true] at hboth
  rw [hboth.1, Run.avoids_of_near hboth.2]
  rfl

/-- The code point has no other upper case form. -/
def Still (code : Nat) : Prop :=
  forall run, run ∈ movingRuns -> run.covers code = false

def Printed (code : Nat) : Prop :=
  code < 0x110000 ∧ forall run, run ∈ foreignRuns -> run.covers code = false

theorem image_still_printed {run : Run} {code : Nat}
    (hrun : run ∈ upperRuns ++ expansionImages) (hcode : run.covers code = true) :
    Still (run.apply code) ∧ Printed (run.apply code) := by
  have hall := List.all_eq_true.mp images_avoid run hrun
  rw [Bool.and_eq_true, List.all_eq_true] at hall
  rcases hall with ⟨hbound, havoids⟩
  have happly : run.apply code < 0x110000 := by
    have hmember := (Run.covers_iff run code).mp hcode
    have hlast := Nat.blt_eq.mp hbound
    unfold Run.apply
    omega
  constructor
  · intro other hother
    exact Run.not_covers_apply (havoids other (List.mem_append_left _ hother)) hcode
  · refine ⟨happly, ?_⟩
    intro other hother
    exact Run.not_covers_apply (havoids other (List.mem_append_right _ hother)) hcode

theorem still_iff (code : Nat) :
    Still code ↔ upperExpansions.lookup code = none ∧ upperRuns.find? (·.covers code) = none := by
  have hkey : forall key, (⟨key, key, 2, 0⟩ : Run).covers code = true ↔ key = code := by
    intro key
    rw [Run.covers_iff]
    simp only
    omega
  unfold Still movingRuns
  rw [List.lookup_eq_none_iff, List.find?_eq_none]
  constructor
  · intro h
    constructor
    · intro row hrow
      have hmember := h _ (List.mem_append_right _ (List.mem_map_of_mem hrow))
      rw [Bool.eq_false_iff, Ne, hkey] at hmember
      exact bne_iff_ne.mpr (Ne.symm hmember)
    · intro run hrun
      rw [h run (List.mem_append_left _ hrun)]
      exact Bool.false_ne_true
  · intro hboth run hrun
    rcases hboth with ⟨hrows, hruns⟩
    rcases List.mem_append.mp hrun with hupper | hexpansion
    · exact Bool.eq_false_iff.mpr (hruns run hupper)
    · rcases List.mem_map.mp hexpansion with ⟨row, hrow, rfl⟩
      rw [Bool.eq_false_iff, Ne, hkey]
      exact Ne.symm (bne_iff_ne.mp (hrows row hrow))

theorem replace_of_still {code : Nat} (h : Still code) :
    replace upperExpansions upperRuns code = [code] := by
  rw [still_iff] at h
  unfold replace
  rw [h.1, h.2]

theorem mem_of_lookup_eq_some {rows : List (Nat × List Nat)} {code : Nat} {images : List Nat}
    (h : rows.lookup code = some images) : (code, images) ∈ rows := by
  rcases List.lookup_eq_some_iff.mp h with ⟨before, after, hsplit, _⟩
  rw [hsplit]
  exact List.mem_append_right _ List.mem_cons_self

theorem mem_replace_cases {code image : Nat}
    (h : image ∈ replace upperExpansions upperRuns code) :
    (Still code ∧ image = code) ∨
      exists run member, run ∈ upperRuns ++ expansionImages ∧ run.covers member = true ∧
        run.apply member = image := by
  unfold replace at h
  cases hexpansion : upperExpansions.lookup code with
  | some images =>
      rw [hexpansion] at h
      have himage : image ∈ (upperExpansions.flatMap (·.2)).eraseDups :=
        List.mem_eraseDups.mpr
          (List.mem_flatMap.mpr ⟨_, mem_of_lookup_eq_some hexpansion, h⟩)
      refine Or.inr ⟨⟨image, image, 1, image⟩, image, ?_, ?_, ?_⟩
      · exact List.mem_append_right _ (List.mem_map.mpr ⟨image, himage, rfl⟩)
      · simp [Run.covers]
      · simp [Run.apply]
  | none =>
      rw [hexpansion] at h
      cases hfound : upperRuns.find? (·.covers code) with
      | some run =>
          rw [hfound] at h
          have hcovers : run.covers code = true :=
            List.find?_some (p := fun run : Run => run.covers code) hfound
          refine Or.inr ⟨run, code, ?_, hcovers, (List.mem_singleton.mp h).symm⟩
          exact List.mem_append_left _ (List.mem_of_find?_eq_some hfound)
      | none =>
          rw [hfound] at h
          exact Or.inl ⟨(still_iff code).mpr ⟨hexpansion, hfound⟩, List.mem_singleton.mp h⟩

/-- An image is still, and it is printed unless it is the code point itself. -/
theorem still_of_mem_replace {code image : Nat}
    (h : image ∈ replace upperExpansions upperRuns code) :
    Still image ∧ (image = code ∨ Printed image) := by
  rcases mem_replace_cases h with ⟨hstill, hsame⟩ | ⟨run, member, hrun, hmember, himage⟩
  · rw [hsame]
    exact ⟨hstill, Or.inl rfl⟩
  · have hstill := image_still_printed hrun hmember
    rw [himage] at hstill
    exact ⟨hstill.1, Or.inr hstill.2⟩

theorem replace_ne_nil (code : Nat) : replace upperExpansions upperRuns code ≠ [] := by
  have hfilled : upperExpansions.all (fun row => !row.2.isEmpty) = true := rfl
  unfold replace
  split
  · rename_i images hexpansion
    simpa using List.all_eq_true.mp hfilled _ (mem_of_lookup_eq_some hexpansion)
  · split
    · exact List.cons_ne_nil _ _
    · exact List.cons_ne_nil _ _

theorem still_ascii_iff {code : Nat} (h : code < 0x80) :
    Still code ↔ ¬ (0x61 ≤ code ∧ code ≤ 0x7A) := by
  have hbeyond : movingRuns.tail.all (fun run => Nat.ble 0x80 run.first) = true := by
    decide +kernel
  have hsplit : movingRuns = ⟨0x61, 0x7A, 1, 0x41⟩ :: movingRuns.tail := rfl
  have hletters : (⟨0x61, 0x7A, 1, 0x41⟩ : Run).covers code = true ↔ 0x61 ≤ code ∧ code ≤ 0x7A := by
    rw [Run.covers_iff]
    simp only
    omega
  unfold Still
  rw [hsplit]
  constructor
  · intro hstill hletter
    have hfalse := hstill _ List.mem_cons_self
    rw [hletters.mpr hletter] at hfalse
    cases hfalse
  · intro hletter run hrun
    rcases List.mem_cons.mp hrun with rfl | htail
    · rw [Bool.eq_false_iff, Ne, hletters]
      exact hletter
    · have hfirst := Nat.ble_eq.mp (List.all_eq_true.mp hbeyond run htail)
      rw [Bool.eq_false_iff, Ne, Run.covers_iff]
      omega

end Case

/-!
# Characters and texts in upper case
-/

theorem toNat_toUpper (c : Char) :
    c.toUpper.toNat = if 0x61 ≤ c.toNat ∧ c.toNat ≤ 0x7A then c.toNat - 0x20 else c.toNat := by
  unfold Char.toUpper
  split
  · rename_i hletter
    have hrange : 0x61 ≤ c.toNat ∧ c.toNat ≤ 0x7A := hletter
    have hdistance : ('A'.val - 'a'.val).toNat = 2 ^ 32 - 0x20 := by decide
    rw [if_pos hrange]
    show (c.val + ('A'.val - 'a'.val)).toNat = c.toNat - 0x20
    rw [UInt32.toNat_add, hdistance]
    show (c.toNat + (2 ^ 32 - 0x20)) % 2 ^ 32 = c.toNat - 0x20
    omega
  · rename_i hletter
    rw [if_neg]
    intro hrange
    exact hletter hrange

theorem toNat_ofNat_of_printed {code : Nat} (h : Case.Printed code) :
    (Char.ofNat code).toNat = code := by
  have hsurrogate := h.2 ⟨0xD800, 0xDFFF, 1, 0⟩ List.mem_cons_self
  have hvalid : code.isValidChar := by
    rw [Bool.eq_false_iff, Ne, Case.Run.covers_iff] at hsurrogate
    have hbound := h.1
    simp only [Nat.mod_one, and_true] at hsurrogate
    unfold Nat.isValidChar
    omega
  unfold Char.ofNat
  rw [dif_pos hvalid]
  rfl

theorem not_inRanges_of_printed {code : Nat} (h : Case.Printed code) :
    inRanges blankRanges code = false := by
  rw [Bool.eq_false_iff]
  intro hblank
  rcases (inRanges_iff blankRanges code).mp hblank with ⟨range, hrange, hlow, hhigh⟩
  have hrun := h.2 ⟨range.1, range.2, 1, 0⟩
    (List.mem_cons_of_mem _ (List.mem_map_of_mem hrange))
  rw [Bool.eq_false_iff, Ne, Case.Run.covers_iff] at hrun
  exact hrun ⟨hlow, hhigh, Nat.mod_one _⟩

theorem upperChar_of_still {c : Char} (h : Case.Still c.toNat) : upperChar c = [c] := by
  unfold upperChar
  split
  · rename_i hascii
    rw [Case.still_ascii_iff hascii] at h
    congr
    apply Char.toNat_inj.mp
    rw [toNat_toUpper, if_neg h]
  · rw [Case.replace_of_still h]
    simp

theorem still_toUpper {c : Char} (hascii : c.toNat < 0x80) :
    Case.Still c.toUpper.toNat ∧ (c.toUpper = c ∨ isBlank c.toUpper = false) := by
  by_cases hletter : 0x61 ≤ c.toNat ∧ c.toNat ≤ 0x7A
  · have hcovers : (⟨0x61, 0x7A, 1, 0x41⟩ : Case.Run).covers c.toNat = true :=
      (Case.Run.covers_iff _ _).mpr ⟨hletter.1, hletter.2, Nat.mod_one _⟩
    have hrun := Case.image_still_printed (List.mem_append_left _ List.mem_cons_self) hcovers
    have happly : (⟨0x61, 0x7A, 1, 0x41⟩ : Case.Run).apply c.toNat = c.toUpper.toNat := by
      rw [toNat_toUpper, if_pos hletter]
      show 0x41 + (c.toNat - 0x61) = c.toNat - 0x20
      omega
    rw [happly] at hrun
    exact ⟨hrun.1, Or.inr (not_inRanges_of_printed hrun.2)⟩
  · have hsame : c.toUpper = c := by
      apply Char.toNat_inj.mp
      rw [toNat_toUpper, if_neg hletter]
    rw [hsame]
    exact ⟨(Case.still_ascii_iff hascii).mpr hletter, Or.inl rfl⟩

theorem still_of_mem_upperChar {c image : Char} (h : image ∈ upperChar c) :
    Case.Still image.toNat ∧ (image = c ∨ isBlank image = false) := by
  unfold upperChar at h
  split at h
  · rename_i hascii
    rw [List.mem_singleton.mp h]
    exact still_toUpper hascii
  · rcases List.mem_map.mp h with ⟨code, hcode, himage⟩
    rcases Case.still_of_mem_replace hcode with ⟨hstill, hsame | hprinted⟩
    · have hself : image = c := by
        rw [← himage, hsame, Char.ofNat_toNat]
      rw [hself]
      rw [hsame] at hstill
      exact ⟨hstill, Or.inl rfl⟩
    · have hnumber := toNat_ofNat_of_printed hprinted
      rw [himage] at hnumber
      rw [hnumber]
      refine ⟨hstill, Or.inr ?_⟩
      unfold isBlank
      rw [hnumber]
      exact not_inRanges_of_printed hprinted

theorem upperChar_ne_nil (c : Char) : upperChar c ≠ [] := by
  unfold upperChar
  split
  · exact List.cons_ne_nil _ _
  · intro hnil
    exact Case.replace_ne_nil _ (List.map_eq_nil_iff.mp hnil)

theorem flatMap_upperChar_upperChar (c : Char) :
    (upperChar c).flatMap upperChar = upperChar c := by
  have hstill : forall image, image ∈ upperChar c -> upperChar image = [image] := by
    intro image himage
    exact upperChar_of_still (still_of_mem_upperChar himage).1
  rw [List.flatMap_congr hstill]
  simp

@[simp] theorem toList_upper (s : String) : (upper s).toList = s.toList.flatMap upperChar :=
  String.toList_ofList

@[simp] theorem upper_upper (s : String) : upper (upper s) = upper s := by
  unfold upper
  rw [String.toList_ofList, List.flatMap_assoc]
  simp only [flatMap_upperChar_upperChar]

theorem Trimmed.flatMap_upperChar {cs : List Char} (h : Trimmed cs) :
    Trimmed (cs.flatMap upperChar) := by
  have hkept : forall c image, image ∈ upperChar c -> ¬ isBlank c = true ->
      ¬ isBlank image = true := by
    intro c image himage hblank
    rcases (still_of_mem_upperChar himage).2 with hsame | hprinted
    · rw [hsame]
      exact hblank
    · rw [hprinted]
      exact Bool.false_ne_true
  constructor
  · intro hne
    cases cs with
    | nil => exact absurd rfl hne
    | cons c rest =>
        have hhead : ((c :: rest).flatMap upperChar).head hne =
            (upperChar c).head (upperChar_ne_nil c) := by
          simp [List.flatMap_cons, upperChar_ne_nil]
        rw [hhead]
        exact hkept c _ (List.head_mem _) (h.first (List.cons_ne_nil c rest))
  · intro hne
    rcases List.eq_nil_or_concat' cs with hnil | ⟨front, c, hcs⟩
    · rw [hnil] at hne
      exact absurd rfl hne
    · subst hcs
      have hlast : ((front ++ [c]).flatMap upperChar).getLast hne =
          (upperChar c).getLast (upperChar_ne_nil c) := by
        simp [List.flatMap_append, upperChar_ne_nil]
      have hblank := h.last (List.append_ne_nil_of_right_ne_nil front (List.cons_ne_nil c []))
      rw [List.getLast_append_singleton] at hblank
      rw [hlast]
      exact hkept c _ (List.getLast_mem _) hblank

end Text
end Entitlement
