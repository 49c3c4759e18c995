import Entitlement.Relationship
import Entitlement.Roster

/-!
# Roles and organizational units

Roles and organizational units are the members of hierarchies. Each lives in one tenant context and
knows its direct parents. A name may be absent or blank as long as the entity is not placed in a
hierarchy.
-/

namespace Entitlement

def parseParents (parents : List (Option String)) : Except Fault (List Name) := do
  let names ← parents.mapM fun parent => (Name.parse parent).mapError Fault.invalidName
  return Roster.ofList names

/-- A role. Administrative roles form a hierarchy of their own. -/
structure Role where
  name : Option String
  context : Option String
  parents : List Name
  description : Option String
  admin : Bool
  deriving DecidableEq

inductive UnitType where
  | user
  | permission
  deriving DecidableEq, Repr

namespace UnitType

def label : UnitType -> String
  | .user => "user"
  | .permission => "perm"

def parse : Option String -> Except Fault UnitType :=
  Vocabulary.choose .unitType label [.user, .permission]

end UnitType

structure OrgUnit where
  name : Option String
  type : UnitType
  context : Option String
  parents : List Name
  description : Option String
  deriving DecidableEq

def Role.summary (role : Role) : String :=
  s!"Role(name='{Text.shown role.name}', admin={Text.shownBool role.admin}, "
    ++ s!"parents={role.parents.length})"

inductive Entity where
  | ofRole (role : Role)
  | ofUnit (unit : OrgUnit)
  deriving DecidableEq

namespace Entity

def name : Entity -> Option String
  | .ofRole role => role.name
  | .ofUnit unit => unit.name

def context : Entity -> Option String
  | .ofRole role => role.context
  | .ofUnit unit => unit.context

def parents : Entity -> List Name
  | .ofRole role => role.parents
  | .ofUnit unit => unit.parents

def kind : Entity -> HierarchyKind
  | .ofRole role => .ofRoles role.admin
  | .ofUnit unit =>
      match unit.type with
      | .user => .userUnit
      | .permission => .permissionUnit

end Entity

end Entitlement
