import Entitlement.Text.Case.Upper
import Entitlement.Text.Case.Lower
import Entitlement.Text.Case.Context

/-!
# Full case mapping

Upper and lower casing of texts by the full mappings of Unicode 14.0: one character may become
several, and a capital sigma becomes a final sigma at the end of a word. Characters below `0x80`
need no table.
-/

namespace Entitlement
namespace Text

def upperChar (c : Char) : List Char :=
  if c.toNat < 0x80 then
    [c.toUpper]
  else
    (Case.replace Case.upperExpansions Case.upperRuns c.toNat).map Char.ofNat

def lowerChar (c : Char) : List Char :=
  if c.toNat < 0x80 then
    [c.toLower]
  else
    (Case.replace Case.lowerExpansions Case.lowerRuns c.toNat).map Char.ofNat

def upper (s : String) : String :=
  String.ofList (s.toList.flatMap upperChar)

def Case.followedByCased (cs : List Char) : Bool :=
  match cs.find? (fun c => !Case.ignorable c) with
  | some c => Case.cased c
  | none => false

/--
Lower case of the characters of a text. The flag tells whether the nearest earlier character that
is not skipped is cased; together with the characters that follow, it decides the form of a sigma.
-/
def lowerFrom (afterCased : Bool) : List Char -> List Char
  | [] => []
  | c :: rest =>
      let image :=
        if c = 'Σ' then
          [if afterCased && !Case.followedByCased rest then 'ς' else 'σ']
        else
          lowerChar c
      image ++ lowerFrom (if Case.ignorable c then afterCased else Case.cased c) rest

def lower (s : String) : String :=
  String.ofList (lowerFrom false s.toList)

end Text
end Entitlement
