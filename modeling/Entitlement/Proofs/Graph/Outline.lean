import Entitlement.Proofs.Graph.Build
import Entitlement.Proofs.Graph.Listing
import Mathlib.Data.Finset.Card

/-!
# Graphs and their outlines

An outline is a hierarchy on paper: names in the order in which they came, and a set of edges
between them.  A graph keeps an arena, two mirrored adjacency lists for each vertex and a counter
instead.  The theorems below show that the two go together: an edit of a graph answers what the same
edit of its outline answers, and every query of a graph reads its outline.
-/

namespace Entitlement

/-- Names in the order in which they came, and edges between them. -/
structure Outline where
  names : List Name
  edges : Finset Relationship
  names_nodup : names.Nodup
  ends_mem : forall edge, edge ∈ edges -> edge.child ∈ names ∧ edge.parent ∈ names

namespace Outline

def empty : Outline where
  names := []
  edges := ∅
  names_nodup := List.nodup_nil
  ends_mem := by
    intro edge hedge
    exact absurd hedge (Finset.notMem_empty edge)

def withName (outline : Outline) (name : Name) : Outline where
  names := if name ∈ outline.names then outline.names else outline.names ++ [name]
  edges := outline.edges
  names_nodup := by
    split
    · exact outline.names_nodup
    · rename_i hnew
      exact List.nodup_append.mpr ⟨outline.names_nodup, List.nodup_singleton name, by
        intro a ha b hb hsame
        rw [hsame, List.mem_singleton.mp hb] at ha
        exact hnew ha⟩
  ends_mem := by
    intro edge hedge
    split
    · exact outline.ends_mem edge hedge
    · have hends := outline.ends_mem edge hedge
      exact ⟨List.mem_append_left _ hends.1, List.mem_append_left _ hends.2⟩

theorem mem_withName (outline : Outline) (name other : Name) :
    other ∈ (outline.withName name).names ↔ other ∈ outline.names ∨ other = name := by
  unfold withName
  dsimp only
  split
  · rename_i hold
    refine (or_iff_left_of_imp ?_).symm
    intro hsame
    rw [hsame]
    exact hold
  · rw [List.mem_append, List.mem_singleton]

/-- The missing ends of a new edge become names, the child first. -/
def withEdge (outline : Outline) (edge : Relationship) : Outline where
  names := ((outline.withName edge.child).withName edge.parent).names
  edges := insert edge outline.edges
  names_nodup := ((outline.withName edge.child).withName edge.parent).names_nodup
  ends_mem := by
    intro other hother
    simp only [mem_withName]
    rcases Finset.mem_insert.mp hother with hnew | hold
    · rw [hnew]
      exact ⟨Or.inl (Or.inr rfl), Or.inr rfl⟩
    · have hends := outline.ends_mem other hold
      exact ⟨Or.inl (Or.inl hends.1), Or.inl (Or.inl hends.2)⟩

def withoutEdge (outline : Outline) (edge : Relationship) : Outline where
  names := outline.names
  edges := outline.edges.erase edge
  names_nodup := outline.names_nodup
  ends_mem := by
    intro other hother
    exact outline.ends_mem other (Finset.mem_of_mem_erase hother)

def Leads (outline : Outline) : Name -> Name -> Prop :=
  Relation.TransGen fun child parent => ⟨child, parent⟩ ∈ outline.edges

end Outline

/-!
# Edits on paper
-/

namespace Outline

open Classical in
/-- Write an edge down unless it joins a name to itself, is there already or closes a cycle. -/
noncomputable def add (outline : Outline) (edge : Relationship) : Except Fault Bool × Outline :=
  if edge.child = edge.parent then
    (.error (.selfEdge edge.child), outline)
  else if edge ∈ outline.edges then
    (.ok false, outline)
  else if outline.Leads edge.parent edge.child then
    (.error (.closingEdge edge.child edge.parent), outline)
  else
    (.ok true, outline.withEdge edge)

def remove (outline : Outline) (edge : Relationship) : Except Fault Bool × Outline :=
  if edge ∈ outline.edges then
    (.ok true, outline.withoutEdge edge)
  else
    (.ok false, outline)

end Outline

namespace Graph

/-!
# Graphs that have an outline
-/

/-- The graph is a well-formed arena for the outline. -/
structure Represents (graph : Graph) (outline : Outline) : Prop where
  wellFormed : graph.WellFormed
  names_eq : graph.names = outline.names
  hasEdge_iff : forall edge, graph.hasEdge edge = true ↔ edge ∈ outline.edges
  edgeCount_eq : graph.edgeCount = outline.edges.card

variable {graph : Graph} {outline : Outline}

theorem represents_empty : Represents empty .empty where
  wellFormed := wellFormed_empty
  names_eq := rfl
  hasEdge_iff := by
    intro edge
    exact iff_of_false not_edge_empty (Finset.notMem_empty edge)
  edgeCount_eq := rfl

theorem Represents.insertVertex (h : graph.Represents outline) (name : Name) :
    (graph.insertVertex name).Represents (outline.withName name) where
  wellFormed := h.wellFormed.insertVertex name
  names_eq := by
    rw [names_insertVertex, h.names_eq]
    rfl
  hasEdge_iff := by
    intro edge
    exact (h.wellFormed.edge_insertVertex name).trans (h.hasEdge_iff edge)
  edgeCount_eq := (edgeCount_insertVertex graph name).trans h.edgeCount_eq

theorem Represents.connect (h : graph.Represents outline) {edge : Relationship}
    (hnew : edge ∉ outline.edges) : (graph.connect edge).Represents (outline.withEdge edge) := by
  have habsent : ¬ graph.Edge edge.child edge.parent := by
    intro hedge
    exact hnew ((h.hasEdge_iff edge).mp hedge)
  rcases h.wellFormed.connect habsent with ⟨hform, hedges⟩
  refine ⟨hform, ?_, ?_, ?_⟩
  · rw [names_connect]
    exact ((h.insertVertex edge.child).insertVertex edge.parent).names_eq
  · intro other
    rw [Outline.withEdge, Finset.mem_insert, Relationship.eq_iff_ends, ← h.hasEdge_iff]
    exact hedges other.child other.parent
  · rw [h.wellFormed.edgeCount_connect, h.edgeCount_eq]
    exact (Finset.card_insert_of_notMem hnew).symm

theorem Represents.removeEdge (h : graph.Represents outline) {edge : Relationship}
    (hedge : edge ∈ outline.edges) :
    (graph.removeEdge edge).1.Represents (outline.withoutEdge edge) := by
  rcases h.wellFormed.removeEdge edge with ⟨hform, _, hedges⟩
  refine ⟨hform, ?_, ?_, ?_⟩
  · rw [names_removeEdge]
    exact h.names_eq
  · intro other
    rw [Outline.withoutEdge, Finset.mem_erase, Ne, Relationship.eq_iff_ends, ← h.hasEdge_iff]
    exact hedges other.child other.parent
  · rw [edgeCount_removeEdge, if_pos ((h.hasEdge_iff edge).mpr hedge), h.edgeCount_eq]
    exact (Finset.card_erase_of_mem hedge).symm

theorem Represents.above_iff (h : graph.Represents outline) {lower upper : Name} :
    graph.Above lower upper ↔ outline.Leads lower upper := by
  have hedges : graph.Edge = fun child parent => ⟨child, parent⟩ ∈ outline.edges := by
    funext child parent
    exact propext (h.hasEdge_iff ⟨child, parent⟩)
  unfold Above Outline.Leads
  rw [hedges]

/-!
# Edits follow the outline
-/

/-- The graph reacts to an edit as the outline does, and has its outline afterwards. -/
structure Follows {α : Type} (reaction : Except Fault α × Graph)
    (expected : Except Fault α × Outline) : Prop where
  answer_eq : reaction.1 = expected.1
  represents : reaction.2.Represents expected.2

theorem Represents.addEdge (h : graph.Represents outline) (edge : Relationship) :
    Follows ((addEdge edge).effect graph) (outline.add edge) := by
  have hedge : graph.Edge edge.child edge.parent ↔ edge ∈ outline.edges := h.hasEdge_iff edge
  unfold Outline.add
  rw [effect_addEdge]
  rcases h.wellFormed.insertEdge_cases edge with
    ⟨hself, hresult⟩ | ⟨hself, hold, hresult⟩ | ⟨hself, hnew, hpath, hresult⟩ |
    ⟨hself, hnew, hpath, hresult⟩
  · rw [hresult, if_pos hself]
    exact ⟨rfl, h⟩
  · rw [hresult, if_neg hself, if_pos (hedge.mp hold)]
    exact ⟨rfl, h⟩
  · rw [hresult, if_neg hself, if_neg (fun hold => hnew (hedge.mpr hold)),
      if_pos (h.above_iff.mp hpath)]
    exact ⟨rfl, h⟩
  · rw [hresult, if_neg hself, if_neg (fun hold => hnew (hedge.mpr hold)),
      if_neg (fun hleads => hpath (h.above_iff.mpr hleads))]
    exact ⟨rfl, h.connect fun hold => hnew (hedge.mpr hold)⟩

theorem Represents.dropEdge (h : graph.Represents outline) (edge : Relationship) :
    Follows ((dropEdge edge).effect graph) (outline.remove edge) := by
  have hedge := h.hasEdge_iff edge
  rcases h.wellFormed.removeEdge edge with ⟨_, hwas, _⟩
  unfold Outline.remove
  rw [effect_dropEdge, hwas]
  cases hthere : graph.hasEdge edge with
  | true =>
      have hold : edge ∈ outline.edges := hedge.mp hthere
      rw [if_pos hold]
      exact ⟨rfl, h.removeEdge hold⟩
  | false =>
      rw [if_neg (fun hold => Bool.eq_false_iff.mp hthere (hedge.mpr hold)),
        removeEdge_of_absent hthere]
      exact ⟨rfl, h⟩

/-!
# Reading an outline
-/

structure Reads (graph : Graph) (outline : Outline) : Prop where
  names_eq : graph.names = outline.names
  size_eq : graph.size = outline.names.length
  hasVertex_iff : forall text, graph.hasVertex text = true ↔
    exists name, Name.parse text = .ok name ∧ name ∈ outline.names
  edges_nodup : graph.edges.Nodup
  mem_edges_iff : forall edge, edge ∈ graph.edges ↔ edge ∈ outline.edges
  edgeCount_eq : graph.edgeCount = outline.edges.card
  hasEdge_iff : forall edge, graph.hasEdge edge = true ↔ edge ∈ outline.edges
  joins_iff : forall child parent, graph.joins child parent = true ↔
    exists edge, Relationship.parse child parent = .ok edge ∧ edge ∈ outline.edges
  parents_nodup : forall text, (graph.parents text).Nodup
  mem_parents_iff : forall text parent, parent ∈ graph.parents text ↔
    exists name, Name.parse text = .ok name ∧ ⟨name, parent⟩ ∈ outline.edges
  children_nodup : forall text, (graph.children text).Nodup
  mem_children_iff : forall text child, child ∈ graph.children text ↔
    exists name, Name.parse text = .ok name ∧ ⟨child, name⟩ ∈ outline.edges
  childCount_eq : forall text, graph.childCount text = (graph.children text).length
  /-- A text that names no vertex is answered like a name without edges. -/
  unknown : forall text, (forall name, Name.parse text = .ok name -> name ∉ outline.names) ->
    graph.parents text = [] ∧ graph.children text = [] ∧ graph.childCount text = 0 ∧
      graph.ascendants text = [] ∧ graph.descendants text = [] ∧ graph.hasVertex text = false ∧
      forall other, graph.joins text other = false ∧ graph.joins other text = false

theorem joins_iff {child parent : Option String} :
    graph.joins child parent = true ↔
      exists edge, Relationship.parse child parent = .ok edge ∧ graph.hasEdge edge = true := by
  unfold joins find? Relationship.parse hasEdge
  cases Name.parse child with
  | error defect => simp [Except.mapError, bind, Except.bind]
  | ok first =>
      cases Name.parse parent with
      | error defect =>
          simp [Except.mapError, bind, Except.bind]
      | ok second =>
          simp [Except.mapError, bind, Except.bind, pure, Except.pure]

theorem WellFormed.nodup_parents (h : graph.WellFormed) (text : Option String) :
    (graph.parents text).Nodup := by
  unfold parents
  cases graph.find? text with
  | none => exact List.nodup_nil
  | some i => exact h.nodup_namesAt (h.parents_nodup i)

theorem Represents.reads (h : graph.Represents outline) : graph.Reads outline where
  names_eq := h.names_eq
  size_eq := by
    rw [← length_names, h.names_eq]
  hasVertex_iff := by
    intro text
    rw [Graph.hasVertex_iff, h.names_eq]
  edges_nodup := h.wellFormed.nodup_edges
  mem_edges_iff := by
    intro edge
    rw [h.wellFormed.mem_edges_iff, h.hasEdge_iff]
  edgeCount_eq := h.edgeCount_eq
  hasEdge_iff := h.hasEdge_iff
  joins_iff := by
    intro child parent
    simp only [Graph.joins_iff, h.hasEdge_iff]
  parents_nodup := h.wellFormed.nodup_parents
  mem_parents_iff := by
    intro text parent
    simp only [h.wellFormed.mem_parents_iff, Edge, h.hasEdge_iff]
  children_nodup := h.wellFormed.nodup_children
  mem_children_iff := by
    intro text child
    simp only [h.wellFormed.mem_children_iff, Edge, h.hasEdge_iff]
  childCount_eq := h.wellFormed.childCount_eq_length
  unknown := by
    intro text hunknown
    rw [← h.names_eq, ← find?_eq_none_iff] at hunknown
    unfold parents children childCount ascendants descendants hasVertex joins
    simp only [hunknown]
    refine ⟨trivial, trivial, trivial, trivial, trivial, rfl, fun other => ⟨trivial, ?_⟩⟩
    cases graph.find? other with
    | none => rfl
    | some i => rfl

end Graph
end Entitlement
