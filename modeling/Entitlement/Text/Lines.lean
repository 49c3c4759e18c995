/-!
# Lines of a text

A text is cut into lines at every character, and every pair of characters, that ends a line. What
follows the last line end is a line only if it is not empty.
-/

namespace Entitlement
namespace Text

def lineEnds : List Char :=
  ['\n', '\x0b', '\x0c', '\r', '\x1c', '\x1d', '\x1e', '\x85', '\u2028', '\u2029']

def consLine (c : Char) : List (List Char) -> List (List Char)
  | [] => [[c]]
  | line :: rest => (c :: line) :: rest

/-- The lines of a list of characters. A carriage return and a line feed end one line together. -/
def linesOf : List Char -> List (List Char)
  | [] => []
  | '\r' :: '\n' :: rest => [] :: linesOf rest
  | c :: rest => if lineEnds.contains c then [] :: linesOf rest else consLine c (linesOf rest)

def lines (s : String) : List String :=
  (linesOf s.toList).map String.ofList

end Text
end Entitlement
