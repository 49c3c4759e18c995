import Entitlement.Settings.Load

/-!
# Settings in use

Settings that are loaded without given values are kept and shared until they are forgotten. The
settings in use can be replaced one by one; beside them callers may make notes.
-/

namespace Entitlement

inductive KeptSettings where
  | none
  | current
  | other (settings : Settings)

structure SettingsDesk where
  environment : Table String String
  file : Option String
  current : Settings
  /-- What callers have noted beside the settings, under names of their own. -/
  notes : Table String Value
  kept : KeptSettings

namespace SettingsDesk

def start (environment : Table String String) (file : Option String)
    (given : Option (List (String × Value))) : Except SettingsFault SettingsDesk := do
  match given with
  | some given =>
      return ⟨environment, file, ← Settings.load environment file given, [], .none⟩
  | none => return ⟨environment, file, ← Settings.load environment file [], [], .current⟩

def shared (desk : SettingsDesk) : Except SettingsFault (Bool × Settings × SettingsDesk) :=
  match desk.kept with
  | .current => .ok (true, desk.current, desk)
  | .other settings => .ok (false, settings, desk)
  | .none => do
      let settings ← Settings.load desk.environment desk.file []
      return (false, settings, { desk with kept := .other settings })

def setVariable (desk : SettingsDesk) (name text : String) : SettingsDesk :=
  { desk with environment := desk.environment.put name text }

def views : List String :=
  ["model_extra", "model_fields_set", "__fields__", "__fields_set__"]

def refusal? (name : String) (raw : Value) : Option SettingsRefusal :=
  if views.contains name then
    some (.readOnly name)
  else if name = "__weakref__" then
    some (.reserved name)
  else if name = "__class__" then
    some (.unfit .settingsClass raw)
  else if name = "__dict__" then
    match raw with
    | .record _ => none
    | raw => some (.unfit .allSettings raw)
  else
    none

def isNote (name : String) : Bool :=
  name.toList.head? == some '_'

def assign (desk : SettingsDesk) (name : String) (raw : Value) :
    Except SettingsFault SettingsDesk :=
  match refusal? name raw with
  | some refusal => .error (.refused refusal)
  | none =>
      if isNote name then
        .ok { desk with notes := desk.notes.put name raw }
      else
        match desk.current.assign name raw with
        | .ok settings => .ok { desk with current := settings }
        | .error complaints => .error (.invalid complaints)

def value? (desk : SettingsDesk) (name : String) : Option Value :=
  match Setting.ofLabel? name with
  | some setting => some (desk.current.value setting)
  | none => desk.notes.get? name

def forget (desk : SettingsDesk) : SettingsDesk :=
  { desk with kept := .none }

end SettingsDesk

end Entitlement
