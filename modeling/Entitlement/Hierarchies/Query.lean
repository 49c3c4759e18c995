import Entitlement.Graph.Check
import Entitlement.Hierarchies.Basic

/-!
# Questions to one kind of hierarchy

Queries, checks and updates of the hierarchies of one kind. Each names a tenant context and works on
the live graph of that tenant.
-/

namespace Entitlement

def HierarchyKind.summary (kind : HierarchyKind) : String :=
  s!"RoleHierarchyService(kind='{kind.label}')"

def HierarchyKind.facet : HierarchyKind -> String
  | .role => "role_hierarchy"
  | .adminRole => "admin_role_hierarchy"
  | .userUnit => "user_ou_hierarchy"
  | .permissionUnit => "perm_ou_hierarchy"

namespace Hierarchies

variable {σ : Type} (directory : Directory σ) (kind : HierarchyKind)

def ask {α : Type} (context : Option String) (query : Graph -> α) : Action (Hierarchies σ) α := do
  return query (← graph directory kind context)

/-- The parent is a direct or inherited parent of the child. A blank parent needs no graph. -/
def isParent (child parent context : Option String) : Action (Hierarchies σ) Bool :=
  match Name.parse parent with
  | .error _ => return false
  | .ok parent => ask directory kind context fun graph => (graph.ascendants child).contains parent

def check (child parent : Entity) (mustExist : Bool) :
    Action (Hierarchies σ) (Option Violation) := do
  let graph ← graph directory kind child.context
  Action.ofResult (graph.check child.name parent.name mustExist)

def validate (child parent : Entity) (mustExist : Bool) : Action (Hierarchies σ) Unit := do
  let graph ← graph directory kind child.context
  Action.ofResult (graph.validate child.name parent.name mustExist)

def update (context : Option String) (edge : Relationship) (label : Option String) :
    Action (Hierarchies σ) Bool := do
  match ← (change directory kind context edge label).attempt with
  | .error fault =>
      if fault.isCycle then
        Action.report .service .error
          (s!"{kind.label} hierarchy update rejected for context [{Text.shown context}]: "
            ++ fault.message)
      Action.fail fault
  | .ok changed =>
      Action.report .service .info
        (s!"Updated {kind.label} hierarchy context [{Text.shown context}]: "
          ++ s!"{Text.shown label} {edge.label} (changed={Text.shownBool changed})")
      return changed

def givenNames (texts : List (Option String)) : List Name :=
  texts.filterMap fun text => (Name.parse text).toOption

/-- Roles together with all roles above them. Without any role no graph is needed. -/
def inherited (roles : List (Option String)) (context : Option String) :
    Action (Hierarchies σ) (List Name) := do
  let names := givenNames roles
  if names.isEmpty then
    return []
  else
    ask directory kind context fun graph =>
      Roster.ofList (names.flatMap fun name => name :: graph.ascendants (some name.text))

end Hierarchies

end Entitlement
