/-!
# Encodings of text

A file holds bytes. They are written as UTF-8 and may be read in another encoding, in which case
what is read differs from what was written wherever it is not plain ASCII.
-/

namespace Entitlement
namespace Text

inductive Encoding where
  | utf8
  | latin1
  | ascii
  /-- Two bytes make a unit; a mark in front tells their order. -/
  | utf16
  deriving DecidableEq, Repr

inductive DecodeDefect where
  | notAscii (byte position : Nat)
  | halfUnit (byte position : Nat)
  | noMark
  deriving DecidableEq, Repr

namespace Encoding

def bytesOf (c : Char) : List Nat :=
  let n := c.toNat
  let tail (k : Nat) : Nat := 0x80 + n / k % 0x40
  if n < 0x80 then [n]
  else if n < 0x800 then [0xC0 + n / 0x40, tail 1]
  else if n < 0x10000 then [0xE0 + n / 0x1000, tail 0x40, tail 1]
  else [0xF0 + n / 0x40000, tail 0x1000, tail 0x40, tail 1]

/-- A run of characters that are neither letters nor digits nor points becomes one low line. -/
def foldName (pending : Bool) : List Char -> List Char
  | [] => []
  | c :: rest =>
      if c.isAlphanum || c = '.' then
        (if pending then ['_', c.toLower] else [c.toLower]) ++ foldName false rest
      else
        foldName true rest

def plainName (name : String) : String :=
  let folded := foldName false name.toList
  String.ofList (if folded.head? == some '_' then folded.drop 1 else folded)

def names : List (Encoding × List String) :=
  [(.utf8, ["utf_8", "utf8", "u8", "utf", "utf_8_sig", "cp65001"]),
    (.latin1, ["latin_1", "latin1", "latin", "l1", "iso_8859_1", "iso8859_1", "iso8859", "8859",
      "cp819", "ibm819"]),
    (.ascii, ["ascii", "us_ascii", "us", "646", "cp367", "ibm367"]),
    (.utf16, ["utf_16", "utf16", "u16"])]

def ofName? (name : String) : Option Encoding :=
  (names.find? fun (_, names) => names.contains (plainName name)).map (·.1)

def firstForeign? : Nat -> List Nat -> Option (Nat × Nat)
  | _, [] => none
  | position, byte :: rest =>
      if byte < 0x80 then firstForeign? (position + 1) rest else some (byte, position)

def reread (encoding : Encoding) (written : String) : Except DecodeDefect String :=
  let bytes := written.toList.flatMap bytesOf
  match encoding with
  | .utf8 => .ok written
  | .latin1 => .ok (String.ofList (bytes.map Char.ofNat))
  | .ascii =>
      match firstForeign? 0 bytes with
      | some (byte, position) => .error (.notAscii byte position)
      | none => .ok written
  | .utf16 =>
      match bytes.getLast? with
      | none => .ok written
      | some last =>
          if bytes.length % 2 = 1 then .error (.halfUnit last (bytes.length - 1))
          else .error .noMark

end Encoding

end Text
end Entitlement
