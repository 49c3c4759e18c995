import Entitlement.Text.Word

/-!
# Masking lines of output

Two runs that do the same write different lines, because a line may name the time at which it was
written and the place in the program that wrote it. Both are replaced by marks, wherever they stand
in a line, so that the lines of two runs can be compared.
-/

namespace Entitlement
namespace Mask

def time : String := "<TIME>"

def place : String := "<SRC>"

/-!
# Shapes
-/

abbrev Shape : Type :=
  List (Char -> Bool)

namespace Shape

/-- The shape of a picture, in which a zero stands for a digit and all else for itself. -/
def ofPicture (picture : String) : Shape :=
  picture.toList.map fun c => if c = '0' then Text.isDigit else (· == c)

def after? : Shape -> List Char -> Option (List Char)
  | [], cs => some cs
  | _ :: _, [] => none
  | fits :: shape, c :: cs => if fits c then after? shape cs else none

end Shape

def afterSome? (fits : Char -> Bool) (cs : List Char) : Option (List Char) :=
  if cs.head?.any fits then some (cs.dropWhile fits) else none

def afterTime? (cs : List Char) : Option (List Char) :=
  ((Shape.ofPicture "0000-00-00 00:00:00").after? cs).map fun rest =>
    ((Shape.ofPicture ",000").after? rest).getD rest

def afterPlace? (cs : List Char) : Option (List Char) := do
  let cs ← (Shape.ofPicture "[").after? cs
  let cs ← afterSome? Text.isWordChar cs
  let cs ← (Shape.ofPicture ".py:").after? cs
  let cs ← afterSome? Text.isDigit cs
  (Shape.ofPicture "]").after? cs

def mark? (cs : List Char) : Option (List Char × List Char) :=
  match afterTime? cs with
  | some rest => some (time.toList, rest)
  | none => (afterPlace? cs).map fun rest => (('[' :: place.toList) ++ [']'], rest)

/-!
# Lines
-/

/-- Replace times and places, after skipping as many characters as the number says. -/
def applyFrom : Nat -> List Char -> List Char
  | _, [] => []
  | skipped + 1, _ :: rest => applyFrom skipped rest
  | 0, c :: rest =>
      match mark? (c :: rest) with
      | some (mark, after) => mark ++ applyFrom (rest.length - after.length) rest
      | none => c :: applyFrom 0 rest

def apply (line : String) : String :=
  String.ofList (applyFrom 0 line.toList)

end Mask
end Entitlement
