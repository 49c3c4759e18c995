import Entitlement.Value

/-!
# JSON text of structured values

A printer of JSON text without needless blanks. An integer is printed by its digits; any other
number by its mantissa and its exponent, so that no digit is lost and none is invented.
-/

namespace Entitlement
namespace Value
namespace Json

def hexDigit (n : Nat) : Char :=
  Char.ofNat (if n < 10 then '0'.toNat + n else 'a'.toNat + (n - 10))

def escape (c : Char) : List Char :=
  if c = '"' || c = '\\' then ['\\', c]
  else if c.toNat < 0x20 then
    ['\\', 'u', '0', '0', hexDigit (c.toNat / 16), hexDigit (c.toNat % 16)]
  else [c]

def printText (s : String) : String :=
  String.ofList ('"' :: s.toList.flatMap escape ++ ['"'])

def printNumber (mantissa exponent : Int) : String :=
  if exponent = 0 then s!"{mantissa}" else s!"{mantissa}e{exponent}"

end Json

mutual

def toJson : Value -> String
  | .null => "null"
  | .bool true => "true"
  | .bool false => "false"
  | .number mantissa exponent => Json.printNumber mantissa exponent
  | .negativeZero => "-0.0"
  | .notFinite word => word
  | .text s => Json.printText s
  | .list items => "[" ++ String.intercalate "," (itemsToJson items) ++ "]"
  | .record fields => "\x7b" ++ String.intercalate "," (fieldsToJson fields) ++ "\x7d"

def itemsToJson : List Value -> List String
  | [] => []
  | item :: rest => item.toJson :: itemsToJson rest

def fieldsToJson : List (String × Value) -> List String
  | [] => []
  | (key, value) :: rest => (Json.printText key ++ ":" ++ value.toJson) :: fieldsToJson rest

end

end Value
end Entitlement
