import Entitlement.Settings.Refusal

/-!
# The choice of the environment file

The folder of the program may hold an environment file. It is read as UTF-8 unless a caller names
other files or another encoding, among the values given for settings. Files that do not exist are
passed over.
-/

namespace Entitlement
namespace FileChoice

def fileName : String := ".env"

def followRaw : Value -> Except SettingsRefusal Bool
  | .text path => ((Path.ofString path).follow fileName).mapError .badPath
  | raw => .error (.unfit .path raw)

def followAll : List Value -> Except SettingsRefusal Bool
  | [] => .ok false
  | raw :: rest => do
      let found ← followRaw raw
      let foundLater ← followAll rest
      return found || foundLater

def isNamed : Value -> Except SettingsRefusal Bool
  | .null => .ok false
  | .text path => followRaw (.text path)
  | .list paths => followAll paths
  | .record fields => followAll (fields.map fun field => .text field.1)
  | raw => .error (.unfit .files raw)

def encoding (given : List (String × Value)) : Except SettingsRefusal Text.Encoding :=
  match (given.lookup "_env_file_encoding").filter Value.isYes with
  | none => .ok .utf8
  | some (.text name) =>
      match Text.Encoding.ofName? name with
      | some encoding => .ok encoding
      | none => .error (.unknownEncoding name)
  | some raw => .error (.unfit .encoding raw)

def read (given : List (String × Value)) (file : Option String) :
    Except SettingsRefusal (Option String) := do
  let named ← match given.lookup "_env_file" with
    | none => pure true
    | some files => isNamed files
  match file with
  | some written =>
      if named then
        let encoding ← encoding given
        return some (← (encoding.reread written).mapError .undecodable)
      else
        return none
  | none => return none

end FileChoice
end Entitlement
