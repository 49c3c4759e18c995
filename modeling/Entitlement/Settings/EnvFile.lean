import Entitlement.Table
import Entitlement.Text.Blank

/-!
# Environment files

An environment file assigns texts to names, one assignment after the other. A value may stand
between quotes, in which case it may span lines; otherwise it ends at the end of the line or at a
comment. A line that cannot be read is skipped. Values may refer to earlier assignments and to the
environment. A byte order mark in front of the file is not part of it.
-/

namespace Entitlement
namespace EnvFile

def unifyLineEnds : List Char -> List Char
  | '\r' :: '\n' :: rest => '\n' :: unifyLineEnds rest
  | '\r' :: rest => '\n' :: unifyLineEnds rest
  | c :: rest => c :: unifyLineEnds rest
  | [] => []

def dropMark : List Char -> List Char
  | '\uFEFF' :: rest => rest
  | cs => cs

def isInlineBlank (c : Char) : Bool :=
  Text.isBlank c && c != '\n'

def skipInline (cs : List Char) : List Char :=
  cs.dropWhile isInlineBlank

def nextLine (cs : List Char) : List Char :=
  (cs.dropWhile (· != '\n')).drop 1

def skipExport (cs : List Char) : List Char :=
  let word := "export".toList
  let after := cs.drop word.length
  if word.isPrefixOf cs && after.head?.any isInlineBlank then skipInline after else cs

/-!
# Names and values
-/

def readName (cs : List Char) : Option (Option String × List Char) :=
  match cs with
  | '#' :: _ => some (none, cs)
  | '\'' :: rest =>
      let name := rest.takeWhile (· != '\'')
      match rest.dropWhile (· != '\'') with
      | _ :: after => if name.isEmpty then none else some (some (String.ofList name), after)
      | [] => none
  | _ =>
      let inName (c : Char) : Bool := c != '=' && c != '#' && !Text.isBlank c
      let name := cs.takeWhile inName
      if name.isEmpty then none else some (some (String.ofList name), cs.dropWhile inName)

/--
The characters up to the closing quote, and what follows. A backslash and the character after it
belong together, so that a quote after a backslash does not close.
-/
def readQuoted (quote : Char) : List Char -> Option (List Char × List Char)
  | '\\' :: c :: rest =>
      (readQuoted quote rest).map fun (body, after) => ('\\' :: c :: body, after)
  | c :: rest =>
      if c = quote then
        some ([], rest)
      else
        (readQuoted quote rest).map fun (body, after) => (c :: body, after)
  | [] => none

def doubleEscape? : Char -> Option Char
  | '\\' => some '\\'
  | '\'' => some '\''
  | '"' => some '"'
  | 'a' => some '\x07'
  | 'b' => some '\x08'
  | 'f' => some '\x0c'
  | 'n' => some '\n'
  | 'r' => some '\r'
  | 't' => some '\t'
  | 'v' => some '\x0b'
  | _ => none

def singleEscape? : Char -> Option Char
  | '\\' => some '\\'
  | '\'' => some '\''
  | _ => none

def unescape (escape? : Char -> Option Char) : List Char -> List Char
  | '\\' :: c :: rest =>
      match escape? c with
      | some image => image :: unescape escape? rest
      | none => '\\' :: unescape escape? (c :: rest)
  | c :: rest => c :: unescape escape? rest
  | [] => []

def beforeComment (afterBlank : Bool) : List Char -> List Char
  | [] => []
  | c :: rest =>
      if c = '#' && afterBlank then [] else c :: beforeComment (Text.isBlank c) rest

def plainValue (line : List Char) : List Char :=
  Text.trimChars (beforeComment false line)

def readValue (cs : List Char) : Option (List Char × List Char) :=
  match skipInline cs with
  | '\'' :: rest =>
      (readQuoted '\'' rest).map fun (body, after) => (unescape singleEscape? body, after)
  | '"' :: rest =>
      (readQuoted '"' rest).map fun (body, after) => (unescape doubleEscape? body, after)
  | _ => some (plainValue (cs.takeWhile (· != '\n')), cs.dropWhile (· != '\n'))

def skipComment (cs : List Char) : List Char :=
  match skipInline cs with
  | '#' :: rest => rest.dropWhile (· != '\n')
  | _ => cs

def lineEnd? (cs : List Char) : Option (List Char) :=
  match skipInline cs with
  | [] => some []
  | '\n' :: rest => some rest
  | _ => none

/-!
# Assignments
-/

abbrev Assignment : Type :=
  String × Option (List Char)

/--
The value after a name, if there is one, and what follows the line. If the line cannot be read, the
answer is what starts at the unreadable place.
-/
def readTail (cs : List Char) : Except (List Char) (Option (List Char) × List Char) :=
  let close (value : Option (List Char)) (rest : List Char) :
      Except (List Char) (Option (List Char) × List Char) :=
    match lineEnd? (skipComment rest) with
    | some after => .ok (value, after)
    | none => .error rest
  match skipInline cs with
  | '=' :: rest =>
      match readValue rest with
      | some (value, after) => close (some value) after
      | none => .error rest
  | rest => close none rest

def readAssignment (cs : List Char) : Option Assignment × List Char :=
  let cs := skipExport (cs.dropWhile Text.isBlank)
  match readName cs with
  | none => (none, nextLine cs)
  | some (name, rest) =>
      match readTail rest with
      | .ok (value, after) => (name.map fun name => (name, value), after)
      | .error rest => (none, nextLine rest)

def readAssignments : Nat -> List Char -> List Assignment
  | 0, _ => []
  | fuel + 1, cs =>
      if cs.all Text.isBlank then
        []
      else
        let (assignment, rest) := readAssignment cs
        assignment.toList ++ readAssignments fuel rest

/-!
# References
-/

def readReference (cs : List Char) : Option (String × String × List Char) :=
  let inName (c : Char) : Bool := c != '\x7d' && c != ':'
  let name := String.ofList (cs.takeWhile inName)
  match cs.dropWhile inName with
  | '\x7d' :: rest => some (name, "", rest)
  | ':' :: '-' :: rest =>
      match rest.dropWhile (· != '\x7d') with
      | _ :: after => some (name, String.ofList (rest.takeWhile (· != '\x7d')), after)
      | [] => none
  | _ => none

def expand (lookup : String -> Option (Option String)) : Nat -> List Char -> List Char
  | 0, cs => cs
  | _ + 1, [] => []
  | fuel + 1, '$' :: '\x7b' :: rest =>
      match readReference rest with
      | some (name, fallback, after) =>
          let text := match lookup name with
            | none => fallback
            | some text => text.getD ""
          text.toList ++ expand lookup fuel after
      | none => '$' :: expand lookup fuel ('\x7b' :: rest)
  | fuel + 1, c :: rest => c :: expand lookup fuel rest

def resolve (environment : Table String String) (assignments : List Assignment) :
    Table String (Option String) :=
  assignments.foldl
    (fun known (name, value) =>
      let lookup (name : String) : Option (Option String) :=
        match known.get? name with
        | some text => some text
        | none => (environment.get? name).map some
      known.put name (value.map fun cs => String.ofList (expand lookup (cs.length + 1) cs)))
    []

def read (environment : Table String String) (file : String) : Table String (Option String) :=
  let cs := unifyLineEnds (dropMark file.toList)
  resolve environment (readAssignments (cs.length + 1) cs)

end EnvFile
end Entitlement
