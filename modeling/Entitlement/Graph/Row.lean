import Entitlement.Entity
import Entitlement.Graph.Edit

/-!
# Building a hierarchy from rows

A directory lists a hierarchy as rows, each of which gives a name and its direct parents. Rows come
from outside and need not be well formed; a row is looked at only when its turn comes, and its name
is read only together with a parent.
-/

namespace Entitlement

inductive Row where
  | pair (name : Option String) (parents : Option (List (Option String)))
  | ofEntity (entity : Entity)
  /-- A tuple with fewer than two fields. -/
  | short (count : Nat)
  | long
  | shapeless
  | faulty (fault : Fault)

namespace Row

def content : Row -> Except Fault (Option String × List (Option String))
  | .pair name parents => .ok (name, parents.getD [])
  | .ofEntity entity => .ok (entity.name, entity.parents.map fun parent => some parent.text)
  | .short count => .error (.rowTooShort count)
  | .long => .error .rowTooLong
  | .shapeless => .error .rowWithoutName
  | .faulty fault => .error fault

end Row

namespace Graph

def addRow (row : Row) : Action Graph Unit := do
  let (name, parents) ← Action.ofResult row.content
  Action.forEach parents fun parent => do
    let _ ← addEdgeBetween name parent

def addRows (rows : List Row) : Action Graph Unit :=
  Action.forEach rows addRow

def addEdges (edges : List Relationship) : Action Graph Unit :=
  Action.forEach edges fun edge => do
    let _ ← addEdge edge

def ofRows {σ : Type} (rows : List Row) : Action σ Graph := do
  return (← onCopy empty (addRows rows)).1

def ofEdges {σ : Type} (edges : List Relationship) : Action σ Graph := do
  return (← onCopy empty (addEdges edges)).1

end Graph

end Entitlement
