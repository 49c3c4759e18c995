import Entitlement.Value

/-!
# Structured values from JSON text

A reader for JSON text. Beyond the standard it takes the words `NaN`, `Infinity` and `-Infinity`;
it takes no control characters in texts and nothing but blanks around the value. The digits of an
integer and the depth of lists and records are limited.
-/

namespace Entitlement
namespace Value
namespace Json

/-- The number of digits that an integer may have. Other numbers may have any number of digits. -/
def maxDigits : Nat := 4300

def maxDepth : Nat := 980

inductive Holder where
  | list
  | record
  deriving DecidableEq, Repr

inductive Defect where
  | malformed
  /-- Lists and records nest too deep; the holder is the first one that lies too deep. -/
  | tooDeep (holder : Holder)
  deriving DecidableEq, Repr

def orMalformed {α : Type} : Option α -> Except Defect α
  | some a => .ok a
  | none => .error .malformed

def skipBlanks (cs : List Char) : List Char :=
  cs.dropWhile fun c => c = ' ' || c = '\t' || c = '\n' || c = '\r'

def hexDigit? (c : Char) : Option Nat :=
  if c.isDigit then some (c.toNat - '0'.toNat)
  else if 'a' ≤ c && c ≤ 'f' then some (c.toNat - 'a'.toNat + 10)
  else if 'A' ≤ c && c ≤ 'F' then some (c.toNat - 'A'.toNat + 10)
  else none

def unit? (a b c d : Char) : Option Nat := do
  let a ← hexDigit? a
  let b ← hexDigit? b
  let c ← hexDigit? c
  let d ← hexDigit? d
  return ((a * 16 + b) * 16 + c) * 16 + d

def escaped? : Char -> Option Char
  | '"' => some '"'
  | '\\' => some '\\'
  | '/' => some '/'
  | 'b' => some '\x08'
  | 'f' => some '\x0c'
  | 'n' => some '\n'
  | 'r' => some '\r'
  | 't' => some '\t'
  | _ => none

/--
The UTF-16 units of a text up to its closing quote, and what follows. A character that is not
escaped stands for itself and is given by its code point.
-/
def readUnits : List Char -> Option (List Nat × List Char)
  | '"' :: rest => some ([], rest)
  | '\\' :: 'u' :: a :: b :: c :: d :: rest => do
      let unit ← unit? a b c d
      let (units, rest) ← readUnits rest
      return (unit :: units, rest)
  | '\\' :: c :: rest => do
      let c ← escaped? c
      let (units, rest) ← readUnits rest
      return (c.toNat :: units, rest)
  | '\\' :: [] => none
  | c :: rest =>
      if c.toNat < 0x20 then
        none
      else do
        let (units, rest) ← readUnits rest
        return (c.toNat :: units, rest)
  | [] => none

/-- Join the pairs of surrogates; a surrogate that is left alone becomes a replacement character. -/
def joinUnits : List Nat -> List Char
  | high :: low :: rest =>
      if 0xD800 ≤ high && high < 0xDC00 && 0xDC00 ≤ low && low < 0xE000 then
        Char.ofNat (0x10000 + (high - 0xD800) * 0x400 + (low - 0xDC00)) :: joinUnits rest
      else
        single high :: joinUnits (low :: rest)
  | unit :: [] => [single unit]
  | [] => []
where
  single (unit : Nat) : Char :=
    if 0xD800 ≤ unit && unit < 0xE000 then '\uFFFD' else Char.ofNat unit

def readText (cs : List Char) : Option (String × List Char) := do
  let (units, rest) ← readUnits cs
  return (String.ofList (joinUnits units), rest)

def ofDigits (digits : List Char) : Nat :=
  digits.foldl (fun n c => n * 10 + (c.toNat - '0'.toNat)) 0

def readFraction : List Char -> List Char × List Char
  | '.' :: rest =>
      let digits := rest.takeWhile Char.isDigit
      if digits.isEmpty then ([], '.' :: rest) else (digits, rest.dropWhile Char.isDigit)
  | cs => ([], cs)

def readExponent (cs : List Char) : Option Int × List Char :=
  match cs with
  | mark :: rest =>
      if mark = 'e' || mark = 'E' then
        let (negative, unsigned) := match rest with
          | '-' :: rest => (true, rest)
          | '+' :: rest => (false, rest)
          | rest => (false, rest)
        let digits := unsigned.takeWhile Char.isDigit
        if digits.isEmpty then
          (none, cs)
        else
          let size : Int := ofDigits digits
          (some (if negative then -size else size), unsigned.dropWhile Char.isDigit)
      else
        (none, cs)
  | [] => (none, [])

/--
An unsigned number, and what follows. Its whole part has no needless zeros in front. The exponent
zero is left to integers, the numbers that are written without a fraction and without an exponent.
-/
def readUnsigned (cs : List Char) : Option (Int × Int × List Char) :=
  let whole := match cs with
    | '0' :: _ => ['0']
    | cs => cs.takeWhile Char.isDigit
  if whole.isEmpty then
    none
  else
    let (fraction, rest) := readFraction (cs.drop whole.length)
    let (exponent, rest) := readExponent rest
    let mantissa : Int := ofDigits (whole ++ fraction)
    let scale : Int := exponent.getD 0 - fraction.length
    if fraction.isEmpty && exponent.isNone && whole.length > maxDigits then
      none
    else if scale = 0 && exponent.isSome then
      some (mantissa * 10, -1, rest)
    else
      some (mantissa, scale, rest)

def afterWord? (word : String) (cs : List Char) : Option (List Char) :=
  if word.toList.isPrefixOf cs then some (cs.drop word.length) else none

def words : List (String × Value) :=
  [("null", .null), ("true", .bool true), ("false", .bool false), ("NaN", .notFinite "NaN"),
    ("Infinity", .notFinite "Infinity"), ("-Infinity", .notFinite "-Infinity")]

def readScalar (cs : List Char) : Option (Value × List Char) :=
  match words.findSome? fun (word, value) => (afterWord? word cs).map fun rest => (value, rest) with
  | some found => some found
  | none =>
      match cs with
      | '-' :: rest => do
          let (mantissa, exponent, rest) ← readUnsigned rest
          if mantissa = 0 && exponent ≠ 0 then
            return (.negativeZero, rest)
          else
            return (.number (-mantissa) exponent, rest)
      | _ => do
          let (mantissa, exponent, rest) ← readUnsigned cs
          return (.number mantissa exponent, rest)

mutual

/--
A value, and what follows. The first argument bounds the number of nested steps, the second one the
depth of lists and records.
-/
def readValue : Nat -> Nat -> List Char -> Except Defect (Value × List Char)
  | 0, _, _ => .error .malformed
  | _ + 1, _, '"' :: rest => do
      let (s, rest) ← orMalformed (readText rest)
      return (.text s, rest)
  | _ + 1, 0, '[' :: _ => .error (.tooDeep .list)
  | fuel + 1, depth + 1, '[' :: rest =>
      match skipBlanks rest with
      | ']' :: rest => .ok (.list [], rest)
      | rest => do
          let (items, rest) ← readItems fuel depth rest
          return (.list items, rest)
  | _ + 1, 0, '{' :: _ => .error (.tooDeep .record)
  | fuel + 1, depth + 1, '{' :: rest =>
      match skipBlanks rest with
      | '}' :: rest => .ok (.record [], rest)
      | rest => do
          let (fields, rest) ← readFields fuel depth rest
          return (.record fields, rest)
  | _ + 1, _, cs => orMalformed (readScalar cs)

def readItems : Nat -> Nat -> List Char -> Except Defect (List Value × List Char)
  | 0, _, _ => .error .malformed
  | fuel + 1, depth, cs => do
      let (item, rest) ← readValue fuel depth cs
      match skipBlanks rest with
      | ']' :: rest => return ([item], rest)
      | ',' :: rest =>
          let (items, rest) ← readItems fuel depth (skipBlanks rest)
          return (item :: items, rest)
      | _ => .error .malformed

def readFields : Nat -> Nat -> List Char ->
    Except Defect (List (String × Value) × List Char)
  | 0, _, _ => .error .malformed
  | fuel + 1, depth, '"' :: rest => do
      let (key, rest) ← orMalformed (readText rest)
      match skipBlanks rest with
      | ':' :: rest =>
          let (value, rest) ← readValue fuel depth (skipBlanks rest)
          match skipBlanks rest with
          | '}' :: rest => return ([(key, value)], rest)
          | ',' :: rest =>
              let (fields, rest) ← readFields fuel depth (skipBlanks rest)
              return ((key, value) :: fields, rest)
          | _ => .error .malformed
      | _ => .error .malformed
  | _ + 1, _, _ => .error .malformed

end

end Json

def readJson (s : String) : Except Json.Defect Value := do
  let cs := Json.skipBlanks s.toList
  let (value, rest) ← Json.readValue (2 * cs.length + 1) Json.maxDepth cs
  if (Json.skipBlanks rest).isEmpty then return value else .error .malformed

def ofJson? (s : String) : Option Value :=
  (readJson s).toOption

end Value
end Entitlement
