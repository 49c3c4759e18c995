import Entitlement.Directory
import Entitlement.Table

/-!
# The store

A directory that is kept in memory. Edges are grouped by hierarchy and child; a child keeps its
place in the listing as long as it is not deleted as an entity, even if it has lost its parents.
Permissions are addressed without regard to letter case and surrounding blanks.
-/

namespace Entitlement

structure PermissionKey where
  context : String
  admin : Bool
  object : String
  operation : String
  objectId : String
  deriving DecidableEq, Repr

/-- Children in the order in which they were first written, each with its parents. -/
abbrev Lineage : Type :=
  Table Name (List Name)

structure Store where
  sentinel : String
  edges : Table HierarchyKey Lineage
  permissions : Table PermissionKey Permission
  fetches : Table HierarchyKey Nat

namespace Store

def empty (sentinel : String) : Store :=
  ⟨sentinel, [], [], []⟩

def key (store : Store) (kind : HierarchyKind) (context : Option String) : HierarchyKey :=
  HierarchyKey.of store.sentinel kind context

def lineage (store : Store) (key : HierarchyKey) : Lineage :=
  (store.edges.get? key).getD []

def hasEdge (store : Store) (key : HierarchyKey) (edge : Relationship) : Bool :=
  (((store.lineage key).get? edge.child).getD []).contains edge.parent

/-!
# Changes of one hierarchy
-/

def Lineage.addParents (lineage : Lineage) (child : Name) (parents : List Name) : Lineage :=
  let known := (lineage.get? child).getD []
  lineage.put child (parents.foldl (fun all p => if p ∈ all then all else all ++ [p]) known)

def Lineage.removeParent (lineage : Lineage) (child parent : Name) : Lineage :=
  lineage.map fun row => if row.1 = child then (row.1, row.2.erase parent) else row

def Lineage.removeName (lineage : Lineage) (name : Name) : Lineage :=
  (lineage.erase name).map fun row => (row.1, row.2.erase name)

def withLineage (store : Store) (key : HierarchyKey) (lineage : Lineage) : Store :=
  { store with edges := store.edges.put key lineage }

def insertEdge (store : Store) (key : HierarchyKey) (edge : Relationship) : Store :=
  store.withLineage key (Lineage.addParents (store.lineage key) edge.child [edge.parent])

def eraseEdge (store : Store) (key : HierarchyKey) (edge : Relationship) : Store :=
  store.withLineage key (Lineage.removeParent (store.lineage key) edge.child edge.parent)

/-!
# Permissions
-/

def folded (text : String) : String :=
  Text.upper (Text.trim text)

def permissionKey (store : Store) (request : PermissionRequest) : PermissionKey where
  context := Context.normalize store.sentinel request.context
  admin := request.admin
  object := folded request.object
  operation := folded request.operation
  objectId := folded (request.objectId.getD "")

def permission? (store : Store) (request : PermissionRequest) : Option Permission :=
  store.permissions.get? (store.permissionKey request)

/-!
# Actions on the store
-/

def add (kind : HierarchyKind) (edge : Relationship) (context : Option String) :
    Action Store Unit := do
  let key := (← Action.read).key kind context
  Action.update (·.insertEdge key edge)
  Action.report .directory .debug s!"Directory store added [{edge.label}] to [{key.label}]"

def remove (kind : HierarchyKind) (edge : Relationship) (context : Option String) :
    Action Store Bool := do
  let store ← Action.read
  let key := store.key kind context
  if store.hasEdge key edge then
    Action.update (·.eraseEdge key edge)
    Action.report .directory .debug s!"Directory store removed [{edge.label}] from [{key.label}]"
    return true
  else
    return false

/-- Write edges. Each is read when its turn comes, and so is the label of the kind. -/
def load (kind : Option String) (edges : List (Option String × Option String))
    (context : Option String) : Action Store Unit :=
  Action.forEach edges fun (child, parent) => do
    let edge ← Action.ofResult (Relationship.parse child parent)
    add (← Action.ofResult (HierarchyKind.parse kind)) edge context

def addEntity (entity : Entity) : Action Store Unit := do
  let name ← Action.ofResult ((Name.parse entity.name).mapError .invalidName)
  Action.update fun store =>
    let key := store.key entity.kind entity.context
    store.withLineage key (Lineage.addParents (store.lineage key) name entity.parents)

def removeEntity (entity : Entity) : Action Store Unit := do
  let name ← Action.ofResult ((Name.parse entity.name).mapError .invalidName)
  Action.update fun store =>
    let key := store.key entity.kind entity.context
    store.withLineage key (Lineage.removeName (store.lineage key) name)

def addPermission (permission : Permission) : Action Store Unit :=
  Action.update fun store =>
    { store with
      permissions := store.permissions.put (store.permissionKey permission.request) permission }

def removePermission (permission : Permission) : Action Store Bool := do
  let store ← Action.read
  let key := store.permissionKey permission.request
  Action.update fun store => { store with permissions := store.permissions.erase key }
  return (store.permissions.get? key).isSome

def list (kind : HierarchyKind) (context : Option String) : Action Store (List Row) := do
  let store ← Action.read
  let key := store.key kind context
  Action.update fun store =>
    { store with fetches := store.fetches.put key ((store.fetches.get? key).getD 0 + 1) }
  return (store.lineage key).filterMap fun (child, parents) =>
    if parents.isEmpty then none else some (.pair child.text (some (parents.map (some ·.text))))

def readPermission (request : PermissionRequest) : Action Store (Option Permission) := do
  return (← Action.read).permission? request

def fetchCount (store : Store) (kind : HierarchyKind) (context : Option String) : Nat :=
  (store.fetches.get? (store.key kind context)).getD 0

def directory : Directory Store where
  list := list
  readPermission := readPermission

end Store

end Entitlement
