import Entitlement.Proofs.Text.Padding

/-!
# Upper case after lower case

A text that is brought into lower case and then into upper case comes out as if it had been brought
into upper case at once, unless it holds one of six capital letters.  The lower case forms of these
belong to other capitals, so the way back leads elsewhere; and no other text leads to them.

What a sigma becomes in lower case depends on its neighbours, but both forms have one capital.  All
other characters are looked at one by one, each within the part of the data that can cover it.
-/

namespace Entitlement
namespace Text

/-- The capital letters that are not the upper case form of their own lower case form. -/
def oneWayCapitals : List Char :=
  ['\u0130', '\u03F4', '\u1E9E', '\u2126', '\u212A', '\u212B']

def holdsOneWay (s : String) : Bool :=
  s.toList.any fun c => oneWayCapitals.contains c

namespace Case

/-!
# The way back
-/

/-- The code point is that of a character beyond ASCII. -/
def distant (code : Nat) : Bool :=
  Nat.ble 0x80 code && (Nat.blt code 0xD800 || Nat.ble 0xE000 code && Nat.blt code 0x110000)

/-- Beyond ASCII, all members of the run but the one-way capitals have the upper case of their
partners. -/
def Run.returns (run : Run) : Bool :=
  Nat.blt run.last 0x80 ||
    (let reach := run.image + (run.last - run.first)
    let rows := around rowBounds run.first run.last upperExpansions
    let runs := around Run.bounds run.first run.last upperRuns
    let imageRows := around rowBounds run.image reach upperExpansions
    let imageRuns := around Run.bounds run.image reach upperRuns
    (List.range ((run.last - run.first) / run.step + 1)).all fun k =>
      let code := run.first + run.step * k
      distant (run.apply code) &&
          replace imageRows imageRuns (run.apply code) == replace rows runs code ||
        oneWayCapitals.any fun c => Nat.beq c.toNat code)

theorem lowerRuns_return : lowerRuns.all Run.returns = true := by
  decide +kernel

theorem replace_apply {run : Run} (hrun : run ∈ lowerRuns) {code : Nat}
    (hcode : run.covers code = true) (hdistant : 0x80 ≤ code)
    (hpaired : forall c, c ∈ oneWayCapitals -> c.toNat ≠ code) :
    distant (run.apply code) = true ∧
      replace upperExpansions upperRuns (run.apply code) =
        replace upperExpansions upperRuns code := by
  rcases (run.covers_iff code).mp hcode with ⟨hfirst, hlast, hstep⟩
  have hreturns := List.all_eq_true.mp lowerRuns_return run hrun
  unfold Run.returns at hreturns
  simp only [around_eq] at hreturns
  rw [Bool.or_eq_true, Nat.blt_eq] at hreturns
  have hmembers := List.all_eq_true.mp (hreturns.resolve_left (by omega))
  -- The code point is that of the member at this place.
  have hplace : (code - run.first) / run.step ∈
      List.range ((run.last - run.first) / run.step + 1) := by
    rw [List.mem_range, Nat.lt_succ_iff]
    exact Nat.div_le_div_right (by omega)
  have hmember : run.first + run.step * ((code - run.first) / run.step) = code := by
    rw [Nat.mul_div_cancel' (Nat.dvd_of_mod_eq_zero hstep)]
    omega
  have hchecked := hmembers _ hplace
  simp only [hmember, Bool.or_eq_true, Bool.and_eq_true, beq_iff_eq] at hchecked
  rcases hchecked with ⟨hfar, hsame⟩ | hpair
  · have hreach : run.apply code ≤ run.image + (run.last - run.first) := by
      unfold Run.apply
      omega
    have hstart : run.image ≤ run.apply code := Nat.le_add_right _ _
    rw [replace_near hstart hreach, replace_near hfirst hlast] at hsame
    exact ⟨hfar, hsame⟩
  · rcases List.any_eq_true.mp hpair with ⟨c, hc, hcapital⟩
    exact absurd (Nat.beq_eq.mp hcapital) (hpaired c hc)

theorem images_avoid_oneWay :
    (upperRuns ++ expansionImages).all (fun run =>
      oneWayCapitals.all fun c => run.avoids ⟨c.toNat, c.toNat, 2, 0⟩) = true := by
  decide +kernel

theorem eq_of_mem_replace_oneWay {code : Nat} {c : Char} (hc : c ∈ oneWayCapitals)
    (himage : c.toNat ∈ replace upperExpansions upperRuns code) : c.toNat = code := by
  rcases mem_replace_cases himage with ⟨_, hsame⟩ | ⟨run, member, hrun, hmember, happly⟩
  · exact hsame
  · have havoids := List.all_eq_true.mp (List.all_eq_true.mp images_avoid_oneWay run hrun) c hc
    have hmissed := Run.not_covers_apply havoids hmember
    rw [happly, Bool.eq_false_iff, Ne, Run.covers_iff] at hmissed
    exact absurd ⟨le_refl _, le_refl _, by simp⟩ hmissed

end Case

/-!
# Characters
-/

theorem toNat_ofNat_of_distant {code : Nat} (h : Case.distant code = true) :
    (Char.ofNat code).toNat = code := by
  unfold Case.distant at h
  simp only [Bool.and_eq_true, Bool.or_eq_true, Nat.blt_eq, Nat.ble_eq] at h
  have hvalid : code.isValidChar := by
    unfold Nat.isValidChar
    omega
  unfold Char.ofNat
  rw [dif_pos hvalid]
  rfl

theorem upperChar_of_distant {c : Char} (h : 0x80 ≤ c.toNat) :
    upperChar c = (Case.replace Case.upperExpansions Case.upperRuns c.toNat).map Char.ofNat := by
  unfold upperChar
  rw [if_neg (by omega)]

/-- A one-way capital is a capital beyond ASCII, whose lower case leads to none of them. -/
theorem oneWay_leaves {c : Char} (h : c ∈ oneWayCapitals) :
    0x80 ≤ c.toNat ∧ upperChar c = [c] ∧ isBlank c = false ∧
      forall image, image ∈ (lowerChar c).flatMap upperChar -> image ∉ oneWayCapitals := by
  have hall : oneWayCapitals.all (fun c =>
      Nat.ble 0x80 c.toNat && upperChar c == [c] && !isBlank c &&
        ((lowerChar c).flatMap upperChar).all fun image => !oneWayCapitals.contains image) =
      true := by
    decide +kernel
  have hc := List.all_eq_true.mp hall c h
  simpa only [Bool.and_eq_true, Nat.ble_eq, beq_iff_eq, Bool.not_eq_true', List.all_eq_true,
    List.contains_eq_mem, decide_eq_false_iff_not, and_assoc] using hc

theorem upperChar_oneWay {c : Char} (h : c ∈ oneWayCapitals) : upperChar c = [c] :=
  (oneWay_leaves h).2.1

theorem isBlank_oneWay {c : Char} (h : c ∈ oneWayCapitals) : isBlank c = false :=
  (oneWay_leaves h).2.2.1

theorem upper_ascii {c : Char} (h : c.toNat < 0x80) :
    (lowerChar c).flatMap upperChar = upperChar c ∧
      forall image, image ∈ upperChar c -> image.toNat < 0x80 := by
  have hall : (List.range 0x80).all (fun code =>
      let c := Char.ofNat code
      (lowerChar c).flatMap upperChar == upperChar c &&
        (upperChar c).all fun image => Nat.blt image.toNat 0x80) = true := by
    decide +kernel
  have hc := List.all_eq_true.mp hall c.toNat (List.mem_range.mpr h)
  simpa only [Char.ofNat_toNat, Bool.and_eq_true, beq_iff_eq, List.all_eq_true,
    Nat.blt_eq] using hc

theorem flatMap_upperChar_lowerChar {c : Char} (h : c ∉ oneWayCapitals) :
    (lowerChar c).flatMap upperChar = upperChar c := by
  by_cases hascii : c.toNat < 0x80
  · exact (upper_ascii hascii).1
  · have hpaired : forall capital, capital ∈ oneWayCapitals -> capital.toNat ≠ c.toNat := by
      intro capital hcapital hsame
      rw [Char.toNat_inj.mp hsame] at hcapital
      exact h hcapital
    have hsingle : Case.lowerExpansions.lookup c.toNat = none := by
      have hother : (c.toNat == 0x0130) = false :=
        beq_false_of_ne (hpaired '\u0130' List.mem_cons_self).symm
      unfold Case.lowerExpansions
      rw [List.lookup_cons, hother]
      rfl
    unfold lowerChar Case.replace
    rw [if_neg hascii, hsingle]
    dsimp only
    cases hfound : Case.lowerRuns.find? (·.covers c.toNat) with
    | none => simp
    | some run =>
        have hcovers : run.covers c.toNat = true :=
          List.find?_some (p := fun run : Case.Run => run.covers c.toNat) hfound
        rcases Case.replace_apply (List.mem_of_find?_eq_some hfound) hcovers (by omega) hpaired with
          ⟨hfar, hsame⟩
        have hnumber := toNat_ofNat_of_distant hfar
        have hbeyond : 0x80 ≤ (Char.ofNat (run.apply c.toNat)).toNat := by
          rw [hnumber]
          unfold Case.distant at hfar
          exact Nat.ble_eq.mp (Bool.and_eq_true _ _ ▸ hfar).1
        rw [List.map_singleton, List.flatMap_singleton, upperChar_of_distant hbeyond, hnumber,
          hsame, upperChar_of_distant (by omega)]

theorem not_oneWay_of_mem {c image : Char} (h : image ∈ (lowerChar c).flatMap upperChar) :
    image ∉ oneWayCapitals := by
  by_cases hc : c ∈ oneWayCapitals
  · exact (oneWay_leaves hc).2.2.2 image h
  · intro himage
    rw [flatMap_upperChar_lowerChar hc] at h
    have hfar := (oneWay_leaves himage).1
    by_cases hascii : c.toNat < 0x80
    · have hnear := (upper_ascii hascii).2 image h
      omega
    · rw [upperChar_of_distant (by omega)] at h
      rcases List.mem_map.mp h with ⟨code, hcode, hcharacter⟩
      have hsame : image = c := by
        rcases (Case.still_of_mem_replace hcode).2 with hself | hprinted
        · rw [← hcharacter, hself, Char.ofNat_toNat]
        · have hnumber := toNat_ofNat_of_printed hprinted
          rw [hcharacter] at hnumber
          rw [← hnumber] at hcode
          exact Char.toNat_inj.mp (Case.eq_of_mem_replace_oneWay himage hcode)
      rw [hsame] at himage
      exact hc himage

/-!
# Texts
-/

theorem flatMap_upperChar_lowerFrom (afterCased : Bool) (cs : List Char) :
    (lowerFrom afterCased cs).flatMap upperChar =
      cs.flatMap fun c => (lowerChar c).flatMap upperChar := by
  induction cs generalizing afterCased with
  | nil => rfl
  | cons c rest ih =>
      unfold lowerFrom
      rw [List.flatMap_append, List.flatMap_cons, ih]
      congr 1
      split
      · rename_i hsigma
        rw [hsigma]
        have hforms : ['\u03C2'].flatMap upperChar = ['\u03C3'].flatMap upperChar ∧
            ['\u03C3'].flatMap upperChar = (lowerChar '\u03A3').flatMap upperChar := by
          decide +kernel
        split
        · exact hforms.1.trans hforms.2
        · exact hforms.2
      · rfl

@[simp] theorem toList_upper_lower (s : String) :
    (upper (lower s)).toList = s.toList.flatMap fun c => (lowerChar c).flatMap upperChar := by
  unfold lower
  rw [toList_upper, String.toList_ofList, flatMap_upperChar_lowerFrom]

theorem holdsOneWay_eq_false_iff {s : String} :
    holdsOneWay s = false ↔ forall c, c ∈ s.toList -> c ∉ oneWayCapitals := by
  unfold holdsOneWay
  simp

theorem upper_lower {s : String} (h : holdsOneWay s = false) : upper (lower s) = upper s := by
  have hsame : forall c, c ∈ s.toList -> (lowerChar c).flatMap upperChar = upperChar c :=
    fun c hc => flatMap_upperChar_lowerChar (holdsOneWay_eq_false_iff.mp h c hc)
  apply String.toList_inj.mp
  rw [toList_upper_lower, toList_upper, List.flatMap_congr hsame]

end Text
end Entitlement
