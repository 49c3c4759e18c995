/-!
# Structured values

Details of a fault and raw settings are data whose shape is not known in advance. A value is null,
a truth value, a number, a text, a list of values or a record with named fields.
-/

namespace Entitlement

inductive Value where
  | null
  | bool (b : Bool)
  /-- The number `mantissa * 10 ^ exponent`; it is written as an integer if the exponent is zero. -/
  | number (mantissa exponent : Int)
  /-- Zero with a minus sign, which only a number that is not written as an integer can have. -/
  | negativeZero
  | notFinite (word : String)
  | text (s : String)
  | list (items : List Value)
  | record (fields : List (String × Value))
  deriving Inhabited

namespace Value

instance : Coe String Value := ⟨Value.text⟩

instance : Coe Bool Value := ⟨Value.bool⟩

def ofText? : Option String -> Value
  | none => .null
  | some s => .text s

def kindLabel : Value -> String
  | .null => "NoneType"
  | .bool _ => "bool"
  | .number _ exponent => if exponent = 0 then "int" else "float"
  | .negativeZero | .notFinite _ => "float"
  | .text _ => "str"
  | .list _ => "list"
  | .record _ => "dict"

def isYes : Value -> Bool
  | .null | .negativeZero => false
  | .bool b => b
  | .number mantissa _ => mantissa != 0
  | .notFinite _ => true
  | .text s => s != ""
  | .list items => !items.isEmpty
  | .record fields => !fields.isEmpty

def integer? : Value -> Option Int
  | .number mantissa exponent =>
      let power : Int := Nat.pow 10 exponent.natAbs
      if 0 ≤ exponent then some (mantissa * power)
      else if mantissa % power = 0 then some (mantissa / power)
      else none
  | .negativeZero => some 0
  | _ => none

end Value

end Entitlement
