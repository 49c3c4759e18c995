import Entitlement.Settings.Check
import Entitlement.Settings.EnvFile
import Entitlement.Settings.FileChoice
import Entitlement.Settings.Variables

/-!
# Loading settings

A setting is taken from the first source that gives it: values given by the caller, variables of the
environment, and an environment file. The list of contexts is given by a variable as JSON text, in
which null means that the variable gives none. Parts of the list are no list.
-/

namespace Entitlement

inductive SettingsFault where
  | refused (refusal : SettingsRefusal)
  | invalid (complaints : List Complaint)

namespace Settings

/-- The raw value that a caller gives for a setting; of several spellings the first one counts. -/
def givenRaw (given : List (String × Value)) (setting : Setting) : Option Value :=
  (given.find? fun (name, _) => Text.lower name == setting.label).map (·.2)

def variableRaw (rules : VariableRules) (source : VariableSource)
    (assigned : Table String (Option String)) (setting : Setting) :
    Except SettingsRefusal (Option Value) :=
  match rules.textOf assigned setting with
  | none =>
      let inParts := setting = .preloadContexts && rules.givesParts assigned setting
      .ok (if inParts then some (.record []) else none)
  | some text =>
      if rules.nullText = some text then
        .ok (some .null)
      else if setting = .preloadContexts then
        match Value.readJson text with
        | .ok .null => .ok none
        | .ok value => .ok (some value)
        | .error .malformed => .error (.unreadable setting source)
        | .error (.tooDeep holder) => .error (.tooDeep holder)
      else
        .ok (some (.text text))

def readable (rules : VariableRules) (source : VariableSource)
    (assigned : Table String (Option String)) : Except SettingsRefusal Unit := do
  let _ ← variableRaw rules source assigned .preloadContexts
  return ()

def firstRaw (rules : VariableRules) (given : List (String × Value))
    (environment file : Table String (Option String)) (setting : Setting) : Option Value :=
  givenRaw given setting
    <|> (variableRaw rules .environment environment setting).toOption.join
    <|> (variableRaw rules .file file setting).toOption.join

/--
Load settings. The given values may hold rules for the variables. What variables hold is read before
any value is checked.
-/
def load (environment : Table String String) (file : Option String)
    (given : List (String × Value)) : Except SettingsFault Settings := do
  let rules := VariableRules.ofGiven given
  let assigned : Table String (Option String) := environment.map fun row => (row.1, some row.2)
  (VariableRules.checkLength given).mapError .refused
  let content ← (FileChoice.read given file).mapError .refused
  let fileVariables := (content.map (EnvFile.read environment)).getD []
  (VariableRules.checkNames given).mapError .refused
  (readable rules .environment assigned).mapError .refused
  (readable rules .file fileVariables).mapError .refused
  (ofRaw (firstRaw rules given assigned fileVariables)).mapError .invalid

end Settings

end Entitlement
