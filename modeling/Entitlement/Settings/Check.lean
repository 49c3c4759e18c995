import Entitlement.Settings.Basic

/-!
# Checking raw settings

Raw values are checked setting by setting, and all complaints are reported together, in the order of
the settings. Truth values may be given as words or as the numbers one and zero; other integers are
unclear as long as they fit into 64 bits.
-/

namespace Entitlement

inductive Problem where
  | unclearBool
  | notBool
  | notText
  | notList
  | unsupportedFormat (given : String)
  | unknownSetting (given : String)
  deriving DecidableEq, Repr

namespace Problem

def code : Problem -> String
  | .unclearBool => "bool_parsing"
  | .notBool => "bool_type"
  | .notText => "string_type"
  | .notList => "list_type"
  | .unsupportedFormat _ => "value_error"
  | .unknownSetting _ => "no_such_attribute"

def message : Problem -> String
  | .unclearBool => "Input should be a valid boolean, unable to interpret input"
  | .notBool => "Input should be a valid boolean"
  | .notText => "Input should be a valid string"
  | .notList => "Input should be a valid list"
  | .unsupportedFormat given => s!"Value error, Unsupported log format: {given}"
  | .unknownSetting given => s!"Object has no attribute '{given}'"

end Problem

structure Complaint where
  setting : String
  item : Option Nat
  problem : Problem
  deriving DecidableEq, Repr

abbrev Checked (α : Type) : Type :=
  Except (List Complaint) α

namespace Checked

def complain {α : Type} (setting : Setting) (problem : Problem) : Checked α :=
  .error [⟨setting.label, none, problem⟩]

def complaints {α : Type} : Checked α -> List Complaint
  | .ok _ => []
  | .error complaints => complaints

end Checked

namespace Settings

def boolOfWord? (word : String) : Option Bool :=
  let word := String.ofList (word.toList.map Char.toLower)
  if ["1", "true", "t", "yes", "y", "on"].contains word then some true
  else if ["0", "false", "f", "no", "n", "off"].contains word then some false
  else none

def boolOfInt? (n : Int) : Option Bool :=
  if n = 1 then some true else if n = 0 then some false else none

def fitsWord (n : Int) : Bool :=
  -0x8000000000000000 ≤ n && n < 0x8000000000000000

def checkBool (setting : Setting) (raw : Value) : Checked Bool :=
  let orUnclear : Option Bool -> Checked Bool
    | some b => .ok b
    | none => Checked.complain setting .unclearBool
  match raw with
  | .bool b => .ok b
  | .text word => orUnclear (boolOfWord? word)
  | raw =>
      match raw.integer? with
      | some n => if fitsWord n then orUnclear (boolOfInt? n) else Checked.complain setting .notBool
      | none => Checked.complain setting .notBool

def checkText (setting : Setting) : Value -> Checked String
  | .text s => .ok s
  | _ => Checked.complain setting .notText

def itemComplaints (setting : Setting) : Nat -> List Value -> List Complaint
  | _, [] => []
  | i, .text _ :: rest => itemComplaints setting (i + 1) rest
  | i, _ :: rest => ⟨setting.label, some i, .notText⟩ :: itemComplaints setting (i + 1) rest

def checkTexts (setting : Setting) : Value -> Checked (List String)
  | .list items =>
      match itemComplaints setting 0 items with
      | [] => .ok (items.filterMap fun | .text s => some s | _ => none)
      | complaints => .error complaints
  | _ => Checked.complain setting .notList

def checkLevel (setting : Setting) (raw : Value) : Checked String :=
  (checkText setting raw).map Text.upper

def checkFormat (setting : Setting) (raw : Value) : Checked LogFormat := do
  let given := Text.lower (← checkText setting raw)
  match LogFormat.ofLabel? given with
  | some layout => return layout
  | none => Checked.complain setting (.unsupportedFormat given)

def ofRaw (raw : Setting -> Option Value) : Checked Settings :=
  let check {α : Type} (setting : Setting) (f : Setting -> Value -> Checked α) (default : α) :
      Checked α :=
    match raw setting with
    | some given => f setting given
    | none => .ok default
  let auditEnabled := check .auditEnabled checkBool default.auditEnabled
  let sentinel := check .sentinel checkText default.sentinel
  let preloadContexts := check .preloadContexts checkTexts default.preloadContexts
  let configureLogging := check .configureLogging checkBool default.configureLogging
  let logLevel := check .logLevel checkLevel default.logLevel
  let logVerbosity := check .logVerbosity checkLevel default.logVerbosity
  let logFormat := check .logFormat checkFormat default.logFormat
  let hierarchyLogging := check .hierarchyLogging checkBool default.hierarchyLogging
  match auditEnabled, sentinel, preloadContexts, configureLogging, logLevel, logVerbosity,
    logFormat, hierarchyLogging with
  | .ok auditEnabled, .ok sentinel, .ok preloadContexts, .ok configureLogging, .ok logLevel,
    .ok logVerbosity, .ok logFormat, .ok hierarchyLogging =>
      .ok {
        auditEnabled, sentinel, preloadContexts, configureLogging, logLevel, logVerbosity,
        logFormat, hierarchyLogging }
  | _, _, _, _, _, _, _, _ =>
      .error
        (auditEnabled.complaints ++ sentinel.complaints ++ preloadContexts.complaints
          ++ configureLogging.complaints ++ logLevel.complaints ++ logVerbosity.complaints
          ++ logFormat.complaints ++ hierarchyLogging.complaints)

def replace (settings : Settings) (setting : Setting) (raw : Value) : Checked Settings :=
  match setting with
  | .auditEnabled => do return { settings with auditEnabled := ← checkBool setting raw }
  | .sentinel => do return { settings with sentinel := ← checkText setting raw }
  | .preloadContexts => do return { settings with preloadContexts := ← checkTexts setting raw }
  | .configureLogging => do return { settings with configureLogging := ← checkBool setting raw }
  | .logLevel => do return { settings with logLevel := ← checkLevel setting raw }
  | .logVerbosity => do return { settings with logVerbosity := ← checkLevel setting raw }
  | .logFormat => do return { settings with logFormat := ← checkFormat setting raw }
  | .hierarchyLogging => do return { settings with hierarchyLogging := ← checkBool setting raw }

def assign (settings : Settings) (name : String) (raw : Value) : Checked Settings :=
  match Setting.ofLabel? name with
  | some setting => settings.replace setting raw
  | none => .error [⟨name, none, .unknownSetting name⟩]

end Settings

end Entitlement
