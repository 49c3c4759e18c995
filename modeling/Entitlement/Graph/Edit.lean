import Entitlement.Action
import Entitlement.Graph.Basic

/-!
# Edits with a journal

Edits of a graph as actions. An edit that changes the set of edges leaves a record; one that is
refused or changes nothing leaves none.
-/

namespace Entitlement
namespace Graph

def addVertex (text : Option String) : Action Graph Name := do
  let name ← Action.ofResult ((Name.parse text).mapError .invalidName)
  Action.update (·.insertVertex name)
  return name

def addEdge (edge : Relationship) : Action Graph Bool := do
  let (graph, changed) ← Action.ofResult ((← Action.read).insertEdge edge)
  Action.update fun _ => graph
  if changed then
    Action.report .graph .debug s!"Added hierarchy edge {edge.label}"
  return changed

def dropEdge (edge : Relationship) : Action Graph Bool := do
  let (graph, changed) := (← Action.read).removeEdge edge
  Action.update fun _ => graph
  if changed then
    Action.report .graph .debug s!"Removed hierarchy edge {edge.label}"
  return changed

def addEdgeBetween (child parent : Option String) : Action Graph Bool := do
  addEdge (← Action.ofResult (Relationship.parse child parent))

def dropEdgeBetween (child parent : Option String) : Action Graph Bool :=
  match Relationship.parse child parent with
  | .ok edge => dropEdge edge
  | .error _ => return false

def apply (edge : Relationship) : Change -> Action Graph Bool
  | .add => addEdge edge
  | .remove => dropEdge edge

/-- Run an edit on a copy of a graph. The copy is answered only if the edit succeeds. -/
def onCopy {σ α : Type} (graph : Graph) (edit : Action Graph α) : Action σ (Graph × α) := fun s =>
  let outcome := edit.run graph
  ⟨outcome.result.map fun answer => (outcome.state, answer), s, outcome.records⟩

end Graph
end Entitlement
