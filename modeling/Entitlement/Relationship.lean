import Entitlement.Fault

/-!
# Relationships

A relationship is a proposed or stored edge of a hierarchy, from a child to one of its parents.
-/

namespace Entitlement

structure Relationship where
  child : Name
  parent : Name
  deriving DecidableEq

namespace Relationship

def parse (child parent : Option String) : Except Fault Relationship := do
  let child ← (Name.parse child).mapError Fault.invalidName
  let parent ← (Name.parse parent).mapError Fault.invalidName
  return ⟨child, parent⟩

def isSelfReference (relationship : Relationship) : Bool :=
  relationship.child = relationship.parent

def label (relationship : Relationship) : String :=
  s!"{relationship.child.text} -> {relationship.parent.text}"

end Relationship

inductive Change where
  | add
  | remove
  deriving DecidableEq, Repr

namespace Change

def label : Change -> String
  | .add => "add"
  | .remove => "remove"

def parse : Option String -> Except Fault Change :=
  Vocabulary.choose .change label [.add, .remove]

end Change

end Entitlement
