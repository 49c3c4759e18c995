/-!
# Kinds of hierarchies

A tenant keeps four independent hierarchies: ordinary roles, administrative roles, and the
organizational units of users and of permission objects.
-/

namespace Entitlement

inductive HierarchyKind where
  | role
  | adminRole
  | userUnit
  | permissionUnit
  deriving DecidableEq, Repr

namespace HierarchyKind

def all : List HierarchyKind :=
  [.role, .adminRole, .userUnit, .permissionUnit]

def label : HierarchyKind -> String
  | .role => "role"
  | .adminRole => "admin_role"
  | .userUnit => "user_ou"
  | .permissionUnit => "perm_ou"

def ofRoles (admin : Bool) : HierarchyKind :=
  if admin then .adminRole else .role

end HierarchyKind

end Entitlement
