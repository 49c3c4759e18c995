/-!
# Runs of case pairs

Case data is regular: long stretches of letters are paired with letters at a fixed distance, or
every second letter is. A run describes one such stretch.
-/

namespace Entitlement
namespace Text
namespace Case

/--
A stretch of code points `first, first + step, ...` up to `last`, paired in order with
the code points that start at `image` and keep the same distances.
-/
structure Run where
  first : Nat
  last : Nat
  step : Nat
  image : Nat

def Run.covers (run : Run) (code : Nat) : Bool :=
  run.first ≤ code && code ≤ run.last && (code - run.first) % run.step == 0

def Run.apply (run : Run) (code : Nat) : Nat :=
  run.image + (code - run.first)

/--
The characters that replace a code point: its expansion if it has one, its partner if a run covers
it, and itself otherwise.
-/
def replace (expansions : List (Nat × List Nat)) (runs : List Run) (code : Nat) : List Nat :=
  match expansions.lookup code with
  | some image => image
  | none =>
      match runs.find? (·.covers code) with
      | some run => [run.apply code]
      | none => [code]

end Case
end Text
end Entitlement
