import Entitlement.Graph.Basic

/-!
# The relationship gate

A proposed edit is checked against a hierarchy before it is carried out. The rules are tried in
order: a name is not related to itself; an edge that must exist is there; an edge that must not
exist is absent.
-/

namespace Entitlement
namespace Graph

def violation? (graph : Graph) (edge : Relationship) (mustExist : Bool) : Option Violation :=
  let violates (kind : FaultKind) : Option Violation :=
    some ⟨kind, edge.child.text, edge.parent.text⟩
  if edge.isSelfReference then
    violates .selfReference
  else
    match mustExist, graph.hasEdge edge with
    | true, false => violates .relationshipMissing
    | false, true => violates .relationshipExists
    | _, _ => none

def check (graph : Graph) (child parent : Option String) (mustExist : Bool) :
    Except Fault (Option Violation) := do
  let edge ← Relationship.parse child parent
  return graph.violation? edge mustExist

def validate (graph : Graph) (child parent : Option String) (mustExist : Bool) :
    Except Fault Unit := do
  match ← graph.check child parent mustExist with
  | some violation => throw (.invalidRelationship violation mustExist)
  | none => return ()

end Graph
end Entitlement
