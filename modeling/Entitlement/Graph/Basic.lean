import Entitlement.Graph.Closure
import Entitlement.Relationship
import Entitlement.Roster

/-!
# Hierarchy graphs

A hierarchy is a directed acyclic graph of names in which a vertex may have several parents. The
vertices stand in an arena in the order in which they were first inserted, and the edges of a vertex
refer to other vertices by their positions in the arena.

There is no index from names to positions beside the arena. Such an index would grow only where a
vertex is inserted and would never lose or move a name, so it would hold nothing that the arena does
not say itself: `position?` looks for the name there and finds what the index would.

## Edits

An edge is inserted only if it neither leads from a name to itself nor closes a cycle. A removed
edge leaves its vertices in place.

There is no operation that copies a graph either. A graph is a value, and an edit answers a new one
and leaves the old one as it was; so a graph is its own copy, and what an edit of a copy comes to is
what `onCopy` answers.
-/

namespace Entitlement

structure Vertex where
  name : Name
  parents : List Nat
  children : List Nat

structure Graph where
  vertices : Array Vertex
  edgeCount : Nat

namespace Graph

def empty : Graph :=
  ⟨#[], 0⟩

/-!
# Positions
-/

def position? (graph : Graph) (name : Name) : Option Nat :=
  graph.vertices.findIdx? fun vertex => vertex.name = name

def parentsAt (graph : Graph) (i : Nat) : List Nat :=
  match graph.vertices[i]? with
  | some vertex => vertex.parents
  | none => []

def childrenAt (graph : Graph) (i : Nat) : List Nat :=
  match graph.vertices[i]? with
  | some vertex => vertex.children
  | none => []

def namesAt (graph : Graph) (positions : List Nat) : List Name :=
  positions.filterMap fun i => graph.vertices[i]?.map (·.name)

/-- The positions that are reached from a vertex by at least one step, without the vertex itself. -/
def reachedFrom (graph : Graph) (next : Nat -> List Nat) (i : Nat) : List Nat :=
  (closure next (List.range graph.vertices.size) (next i)).filter (· ≠ i)

/-!
# Edges by name
-/

def hasEdge (graph : Graph) (edge : Relationship) : Bool :=
  match graph.position? edge.child, graph.position? edge.parent with
  | some child, some parent => (graph.parentsAt child).contains parent
  | _, _ => false

/-- Parent edges lead from the first name to the second one, which is another. -/
def leadsTo (graph : Graph) (start goal : Name) : Bool :=
  match graph.position? start, graph.position? goal with
  | some i, some j => (graph.reachedFrom graph.parentsAt i).contains j
  | _, _ => false

/-!
# Edits
-/

def insertVertex (graph : Graph) (name : Name) : Graph :=
  match graph.position? name with
  | some _ => graph
  | none => { graph with vertices := graph.vertices.push ⟨name, [], []⟩ }

def link (graph : Graph) (child parent : Nat) : Graph where
  vertices :=
    (graph.vertices.modify child fun vertex =>
        { vertex with parents := parent :: vertex.parents }).modify parent fun vertex =>
      { vertex with children := child :: vertex.children }
  edgeCount := graph.edgeCount + 1

def unlink (graph : Graph) (child parent : Nat) : Graph where
  vertices :=
    (graph.vertices.modify child fun vertex =>
        { vertex with parents := vertex.parents.erase parent }).modify parent fun vertex =>
      { vertex with children := vertex.children.erase child }
  edgeCount := graph.edgeCount - 1

/-- The graph with the edge, whose missing ends become vertices, the child first. -/
def connect (graph : Graph) (edge : Relationship) : Graph :=
  let graph := (graph.insertVertex edge.child).insertVertex edge.parent
  match graph.position? edge.child, graph.position? edge.parent with
  | some child, some parent => graph.link child parent
  | _, _ => graph

/--
Insert an edge. The answer tells whether the edge is new. An edge from a name to itself and an edge
that closes a cycle are refused.
-/
def insertEdge (graph : Graph) (edge : Relationship) : Except Fault (Graph × Bool) :=
  if edge.isSelfReference then
    .error (.selfEdge edge.child)
  else if graph.hasEdge edge then
    .ok (graph, false)
  else if graph.leadsTo edge.parent edge.child then
    .error (.closingEdge edge.child edge.parent)
  else
    .ok (graph.connect edge, true)

def removeEdge (graph : Graph) (edge : Relationship) : Graph × Bool :=
  match graph.position? edge.child, graph.position? edge.parent with
  | some child, some parent =>
      if (graph.parentsAt child).contains parent then
        (graph.unlink child parent, true)
      else
        (graph, false)
  | _, _ => (graph, false)

/-!
# Queries

Queries take a text as it was given. A text that is no name is not in the graph.
-/

def find? (graph : Graph) (text : Option String) : Option Nat :=
  match Name.parse text with
  | .ok name => graph.position? name
  | .error _ => none

def ascendants (graph : Graph) (text : Option String) : List Name :=
  match graph.find? text with
  | some i => graph.namesAt (graph.reachedFrom graph.parentsAt i)
  | none => []

def descendants (graph : Graph) (text : Option String) : List Name :=
  match graph.find? text with
  | some i => graph.namesAt (graph.reachedFrom graph.childrenAt i)
  | none => []

def parents (graph : Graph) (text : Option String) : List Name :=
  match graph.find? text with
  | some i => graph.namesAt (graph.parentsAt i)
  | none => []

def children (graph : Graph) (text : Option String) : List Name :=
  match graph.find? text with
  | some i => graph.namesAt (graph.childrenAt i)
  | none => []

def childCount (graph : Graph) (text : Option String) : Nat :=
  match graph.find? text with
  | some i => (graph.childrenAt i).length
  | none => 0

def hasVertex (graph : Graph) (text : Option String) : Bool :=
  (graph.find? text).isSome

def joins (graph : Graph) (child parent : Option String) : Bool :=
  match graph.find? child, graph.find? parent with
  | some i, some j => (graph.parentsAt i).contains j
  | _, _ => false

def names (graph : Graph) : List Name :=
  graph.vertices.toList.map (·.name)

def edges (graph : Graph) : List Relationship :=
  graph.vertices.toList.flatMap fun vertex =>
    (graph.namesAt vertex.parents).map fun parent => ⟨vertex.name, parent⟩

def size (graph : Graph) : Nat :=
  graph.vertices.size

def summary (graph : Graph) : String :=
  s!"HierarchyGraph(vertices={graph.size}, edges={graph.edgeCount})"

end Graph

end Entitlement
