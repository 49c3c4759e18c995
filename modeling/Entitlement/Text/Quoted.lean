import Entitlement.Text.Printable

/-!
# Quoted text

A text is quoted between single quotes, or between double quotes if it holds single quotes only.
The backslash and the delimiter are escaped, and characters that are not printable are written by
their code points.
-/

namespace Entitlement
namespace Text

def hex (width : Nat) (n : Nat) : List Char :=
  let digits := Nat.toDigits 16 n
  List.replicate (width - digits.length) '0' ++ digits

def quotedChar (delimiter c : Char) : List Char :=
  if c = delimiter || c = '\\' then
    ['\\', c]
  else if c = '\t' then
    ['\\', 't']
  else if c = '\n' then
    ['\\', 'n']
  else if c = '\r' then
    ['\\', 'r']
  else if isPrintable c then
    [c]
  else if c.toNat < 0x100 then
    '\\' :: 'x' :: hex 2 c.toNat
  else if c.toNat < 0x10000 then
    '\\' :: 'u' :: hex 4 c.toNat
  else
    '\\' :: 'U' :: hex 8 c.toNat

/-- Double quotes delimit a text that holds a single quote and no double quote. -/
def delimiterFor (cs : List Char) : Char :=
  if cs.contains '\'' && !cs.contains '"' then '"' else '\''

def quoted (s : String) : String :=
  let cs := s.toList
  let delimiter := delimiterFor cs
  String.ofList (delimiter :: cs.flatMap (quotedChar delimiter) ++ [delimiter])

end Text
end Entitlement
