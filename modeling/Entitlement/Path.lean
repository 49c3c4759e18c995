/-!
# Paths

A path leads to a file by the parts between its slashes. Parts that are empty or mean the present
folder do not count, so that a file has many paths.
-/

namespace Entitlement

structure Path where
  /-- One or two slashes if the path is absolute, and nothing otherwise. -/
  root : String
  parts : List String
  deriving DecidableEq, Repr

inductive PathDefect where
  | unknownHome
  | tooLong (path : Path)
  deriving DecidableEq, Repr

namespace Path

def split : List Char -> List (List Char)
  | [] => [[]]
  | c :: rest =>
      if c = '/' then
        [] :: split rest
      else
        match split rest with
        | part :: parts => (c :: part) :: parts
        | [] => [[c]]

/-- The slashes that make a path absolute. Two of them are kept, three or more mean one. -/
def rootOf : List Char -> String
  | '/' :: '/' :: '/' :: _ => "/"
  | '/' :: '/' :: _ => "//"
  | '/' :: _ => "/"
  | _ => ""

def ofString (s : String) : Path where
  root := rootOf s.toList
  parts := ((split s.toList).map String.ofList).filter fun part => part != "" && part != "."

def text (path : Path) : String :=
  path.root ++ String.intercalate "/" path.parts

def isAbsolute (path : Path) : Bool :=
  path.root != ""

def isLocal (path : Path) (name : String) : Bool :=
  !path.isAbsolute && path.parts == [name]

def homes : List String :=
  ["~", "~root"]

def startsAtUnknownHome (path : Path) : Bool :=
  match path.parts with
  | part :: _ => !path.isAbsolute && part.toList.head? == some '~' && !homes.contains part
  | [] => false

def maxNameSize : Nat := 255

def maxSize : Nat := 4095

/-- The path or the first name to be looked up on it is too long. The folder above is no name. -/
def isTooLong (path : Path) : Bool :=
  let first := (path.parts.dropWhile (· == "..")).head?
  path.text.utf8ByteSize > maxSize || first.any fun part => part.utf8ByteSize > maxNameSize

def follow (path : Path) (name : String) : Except PathDefect Bool :=
  if path.startsAtUnknownHome then .error .unknownHome
  else if path.text.toList.contains '\x00' then .ok false
  else if path.isTooLong then .error (.tooLong path)
  else .ok (path.isLocal name)

end Path

end Entitlement
