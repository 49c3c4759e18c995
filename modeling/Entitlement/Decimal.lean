/-!
# Ratios in binary and decimal places

A ratio of two counts is reported as the binary fraction of 53 significant digits that is nearest to
it, written with a fixed number of decimal places. Ties go to the even neighbour both times.
-/

namespace Entitlement
namespace Decimal

def roundDiv (num den : Nat) : Nat :=
  let q := num / den
  let r := num % den
  if 2 * r < den then q
  else if den < 2 * r then q + 1
  else if q % 2 = 0 then q
  else q + 1

/-- The least shift by which a ratio below one gets 53 significant binary digits. -/
def shift (num den : Nat) : Nat :=
  let rough := 52 + Nat.log2 den - Nat.log2 num
  if den * Nat.pow 2 52 ≤ num * Nat.pow 2 rough then rough else rough + 1

/-- The nearest binary fraction of 53 significant digits, as a numerator over a power of two. -/
def binary (num den : Nat) : Nat × Nat :=
  if num = 0 then
    (0, 1)
  else
    let scale := Nat.pow 2 (shift num den)
    (roundDiv (num * scale) den, scale)

def padded (width n : Nat) : String :=
  let digits := toString n
  String.ofList (List.replicate (width - digits.length) '0') ++ digits

def ofRatio (places num den : Nat) : String :=
  let (numerator, scale) := binary num den
  let one := Nat.pow 10 places
  let units := roundDiv (numerator * one) scale
  s!"{units / one}.{padded places (units % one)}"

end Decimal
end Entitlement
