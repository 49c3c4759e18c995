import Entitlement.Settings.Refusal
import Entitlement.Table
import Entitlement.Text.Case

/-!
# Variables that hold settings

A variable holds a setting if its name is that of the setting after a common beginning. Unless a
caller says otherwise, letter case does not count in names, and an empty text counts like any other.
A caller says so among the values given for settings, under names that start with a low line.
-/

namespace Entitlement

structure VariableRules where
  beginning : String
  caseCounts : Bool
  skipsEmpty : Bool
  /-- A text that stands for null. -/
  nullText : Option String
  /-- What stands between the name of a setting and that of a part of it, if there are parts. -/
  divider : Option String
  deriving DecidableEq, Repr

namespace VariableRules

def default : VariableRules where
  beginning := "RBAC_"
  caseCounts := false
  skipsEmpty := false
  nullText := none
  divider := none

def givenText? (given : List (String × Value)) (name : String) : Option String :=
  match given.lookup name with
  | some (.text text) => some text
  | _ => none

def ofGiven (given : List (String × Value)) : VariableRules where
  beginning := (givenText? given "_env_prefix").getD default.beginning
  caseCounts := (given.lookup "_case_sensitive").any Value.isYes
  skipsEmpty := (given.lookup "_env_ignore_empty").any Value.isYes
  nullText := givenText? given "_env_parse_none_str"
  divider := (givenText? given "_env_nested_delimiter").filter (· != "")

def checkLength (given : List (String × Value)) : Except SettingsRefusal Unit :=
  match given.lookup "_env_prefix" with
  | none | some .null | some (.text _) | some (.list _) | some (.record _) => .ok ()
  | some raw => .error (.unfit .beginning raw)

def checkNames (given : List (String × Value)) : Except SettingsRefusal Unit :=
  match given.lookup "_env_prefix" with
  | some (.list _) | some (.record _) => .error (.nameless .auditEnabled .environment)
  | _ => .ok ()

def spelling (rules : VariableRules) (name : String) : String :=
  if rules.caseCounts then name else Text.lower name

def variableName (rules : VariableRules) (setting : Setting) : String :=
  rules.spelling (rules.beginning ++ setting.label)

def counts (rules : VariableRules) (text : Option String) : Bool :=
  !(rules.skipsEmpty && text == some "")

/--
The text that variables give for a setting. If a name is spelled in several ways, the last variable
that is not passed over decides.
-/
def textOf (rules : VariableRules) (assigned : Table String (Option String)) (setting : Setting) :
    Option String :=
  let found := assigned.reverse.find? fun (name, text) =>
    rules.counts text && rules.spelling name == rules.variableName setting
  (found.map (·.2)).join

def givesParts (rules : VariableRules) (assigned : Table String (Option String))
    (setting : Setting) : Bool :=
  match rules.divider with
  | none => false
  | some divider =>
      let beginning := (rules.variableName setting ++ divider).toList
      assigned.any fun (name, text) =>
        rules.counts text && beginning.isPrefixOf (rules.spelling name).toList

end VariableRules

end Entitlement
