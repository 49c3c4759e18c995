import Entitlement.Directory.Memory
import Entitlement.Proofs.Graph.Rows
import Entitlement.Proofs.Table

/-!
# What the store holds

Each child is listed once and has each of its parents once; every write keeps it so.  Writing an
edge adds that edge and deleting it takes it away, and no other edge changes.  The rows that the
store lists describe exactly the stored edges, so a build from the store fails only if they have a
cycle.
-/

namespace Entitlement
namespace Store

/-!
# Lineages
-/

structure Lineage.WellFormed (lineage : Lineage) : Prop where
  children_nodup : (lineage.map Prod.fst).Nodup
  parents_nodup : forall child parents, (child, parents) ∈ lineage -> parents.Nodup

def Lineage.parentsOf (lineage : Lineage) (child : Name) : List Name :=
  (lineage.get? child).getD []

namespace Lineage

theorem wellFormed_nil : WellFormed [] where
  children_nodup := List.nodup_nil
  parents_nodup := by
    intro child parents hrow
    cases hrow

theorem mem_parentsOf_iff {lineage : Lineage} (h : WellFormed lineage) {child parent : Name} :
    parent ∈ parentsOf lineage child ↔
      exists parents, (child, parents) ∈ lineage ∧ parent ∈ parents := by
  unfold parentsOf
  cases hrow : lineage.get? child with
  | none =>
      refine iff_of_false List.not_mem_nil ?_
      intro hrow
      rcases hrow with ⟨parents, hmember, _⟩
      rw [(Table.get?_eq_some_iff h.children_nodup).mpr hmember] at hrow
      cases hrow
  | some parents =>
      have hmember := Table.mem_of_get? hrow
      constructor
      · exact fun hparent => ⟨parents, hmember, hparent⟩
      · intro hrow
        rcases hrow with ⟨others, hothers, hparent⟩
        rw [(Table.get?_eq_some_iff h.children_nodup).mpr hothers] at hrow
        rw [Option.getD_some, ← Option.some.inj hrow]
        exact hparent

theorem nodup_parentsOf {lineage : Lineage} (h : WellFormed lineage) (child : Name) :
    (parentsOf lineage child).Nodup := by
  unfold parentsOf
  cases hrow : lineage.get? child with
  | none => exact List.nodup_nil
  | some parents => exact h.parents_nodup child parents (Table.mem_of_get? hrow)

theorem foldl_parents (parents : List Name) {known : List Name} (hknown : known.Nodup) :
    (parents.foldl (fun all p => if p ∈ all then all else all ++ [p]) known).Nodup ∧
      forall name, name ∈ parents.foldl (fun all p => if p ∈ all then all else all ++ [p]) known ↔
        name ∈ known ∨ name ∈ parents := by
  induction parents generalizing known with
  | nil => exact ⟨hknown, fun name => (or_iff_left List.not_mem_nil).symm⟩
  | cons parent rest ih =>
      rw [List.foldl_cons]
      by_cases hparent : parent ∈ known
      · rw [if_pos hparent]
        refine ⟨(ih hknown).1, fun name => ?_⟩
        rw [(ih hknown).2, List.mem_cons]
        constructor
        · exact Or.imp_right Or.inr
        · intro hmember
          rcases hmember with hold | hsame | hrest
          · exact Or.inl hold
          · rw [hsame]
            exact Or.inl hparent
          · exact Or.inr hrest
      · rw [if_neg hparent]
        have hlonger : (known ++ [parent]).Nodup :=
          List.nodup_append.mpr ⟨hknown, List.nodup_singleton parent, by
            intro a ha b hb hsame
            rw [hsame, List.mem_singleton.mp hb] at ha
            exact hparent ha⟩
        refine ⟨(ih hlonger).1, fun name => ?_⟩
        rw [(ih hlonger).2, List.mem_append, List.mem_singleton, List.mem_cons, or_assoc]

theorem wellFormed_put {lineage : Lineage} (h : WellFormed lineage) (child : Name)
    {parents : List Name} (hparents : parents.Nodup) : WellFormed (lineage.put child parents) where
  children_nodup := Table.nodup_keys_put child parents h.children_nodup
  parents_nodup := by
    intro other others hrow
    rcases Table.mem_put hrow with hnew | hold
    · cases hnew
      exact hparents
    · exact h.parents_nodup other others hold

theorem wellFormed_addParents {lineage : Lineage} (h : WellFormed lineage) (child : Name)
    (parents : List Name) : WellFormed (addParents lineage child parents) :=
  wellFormed_put h child (foldl_parents parents (nodup_parentsOf h child)).1

theorem parentsOf_addParents (lineage : Lineage) (child : Name) (parents : List Name)
    (other : Name) :
    parentsOf (addParents lineage child parents) other =
      if other = child then
        parents.foldl (fun all p => if p ∈ all then all else all ++ [p]) (parentsOf lineage child)
      else parentsOf lineage other := by
  have hrow : (addParents lineage child parents).get? other = _ :=
    Table.get?_put child _ lineage other
  unfold parentsOf
  rw [hrow]
  split
  · rfl
  · rfl

theorem mem_parentsOf_addParents {lineage : Lineage} (h : WellFormed lineage) (child : Name)
    (parents : List Name) {other name : Name} :
    name ∈ parentsOf (addParents lineage child parents) other ↔
      name ∈ parentsOf lineage other ∨ other = child ∧ name ∈ parents := by
  rw [parentsOf_addParents]
  by_cases hother : other = child
  · rw [if_pos hother, hother, (foldl_parents parents (nodup_parentsOf h child)).2]
    exact or_congr_right (and_iff_right rfl).symm
  · rw [if_neg hother]
    exact (or_iff_left fun hnew => hother hnew.1).symm

theorem wellFormed_mapRows {lineage : Lineage} (h : WellFormed lineage)
    {f : Name -> List Name -> List Name}
    (hf : forall child parents, (f child parents).Sublist parents) :
    WellFormed (lineage.map fun row => (row.1, f row.1 row.2)) where
  children_nodup := by
    rw [List.map_map]
    exact h.children_nodup
  parents_nodup := by
    intro child parents hrow
    rcases List.mem_map.mp hrow with ⟨row, hmember, hsame⟩
    cases hsame
    exact (h.parents_nodup row.1 row.2 hmember).sublist (hf row.1 row.2)

theorem removeParent_eq_mapRows (lineage : Lineage) (child parent : Name) :
    removeParent lineage child parent = lineage.map fun row =>
      (row.1, if row.1 = child then row.2.erase parent else row.2) := by
  unfold removeParent
  refine List.map_congr_left fun row _ => ?_
  by_cases hrow : row.1 = child
  · rw [if_pos hrow, if_pos hrow]
  · rw [if_neg hrow, if_neg hrow]

theorem wellFormed_removeParent {lineage : Lineage} (h : WellFormed lineage) (child parent : Name) :
    WellFormed (removeParent lineage child parent) := by
  rw [removeParent_eq_mapRows]
  refine wellFormed_mapRows h (f := fun other parents =>
    if other = child then parents.erase parent else parents) fun other parents => ?_
  split
  · exact List.erase_sublist
  · exact List.Sublist.refl parents

theorem parentsOf_removeParent (lineage : Lineage) (child parent other : Name) :
    parentsOf (removeParent lineage child parent) other =
      if other = child then (parentsOf lineage other).erase parent
      else parentsOf lineage other := by
  have hrow := Table.get?_mapRows
    (fun row parents => if row = child then List.erase parents parent else parents) other lineage
  rw [removeParent_eq_mapRows]
  unfold parentsOf
  rw [hrow]
  cases Table.get? other lineage with
  | none => split <;> rfl
  | some parents => split <;> rfl

theorem mem_parentsOf_removeParent {lineage : Lineage} (h : WellFormed lineage)
    (child parent : Name) {other name : Name} :
    name ∈ parentsOf (removeParent lineage child parent) other ↔
      name ∈ parentsOf lineage other ∧ ¬ (other = child ∧ name = parent) := by
  rw [parentsOf_removeParent]
  by_cases hother : other = child
  · rw [if_pos hother, List.Nodup.mem_erase_iff (nodup_parentsOf h other), and_comm]
    exact and_congr_right fun _ => not_congr (and_iff_right hother).symm
  · rw [if_neg hother]
    exact (and_iff_left fun hboth => hother hboth.1).symm

theorem wellFormed_removeName {lineage : Lineage} (h : WellFormed lineage) (name : Name) :
    WellFormed (removeName lineage name) := by
  have herased : WellFormed (lineage.erase name) :=
    { children_nodup := h.children_nodup.sublist (List.filter_sublist.map Prod.fst)
      parents_nodup := fun child parents hrow =>
        h.parents_nodup child parents (List.mem_filter.mp hrow).1 }
  exact wellFormed_mapRows herased (f := fun _ parents => parents.erase name)
    fun _ _ => List.erase_sublist

theorem mem_parentsOf_removeName {lineage : Lineage} (h : WellFormed lineage) (name : Name)
    {child parent : Name} :
    parent ∈ parentsOf (removeName lineage name) child ↔
      parent ∈ parentsOf lineage child ∧ ¬ (name = child ∨ name = parent) := by
  have hrow := Table.get?_mapRows (fun _ parents => List.erase parents name) child
    (lineage.erase name)
  have hnodup := nodup_parentsOf h child
  unfold removeName parentsOf
  unfold parentsOf at hnodup
  rw [hrow, Table.get?_erase]
  by_cases hchild : child = name
  · rw [if_pos hchild]
    exact iff_of_false List.not_mem_nil fun hboth => hboth.2 (Or.inl hchild.symm)
  · rw [if_neg hchild, or_iff_right fun hsame => hchild hsame.symm]
    cases hparents : Table.get? child lineage with
    | none => exact iff_of_false List.not_mem_nil fun hboth => List.not_mem_nil hboth.1
    | some parents =>
        rw [hparents, Option.getD_some] at hnodup
        rw [Option.map_some, Option.getD_some, Option.getD_some, List.Nodup.mem_erase_iff hnodup,
          and_comm, eq_comm]

theorem keys_removeName (lineage : Lineage) (name : Name) :
    (removeName lineage name).map Prod.fst =
      (lineage.map Prod.fst).filter fun other => other ≠ name := by
  unfold removeName
  rw [List.map_map, ← Table.keys_erase]
  rfl

theorem keys_removeParent (lineage : Lineage) (child parent : Name) :
    (removeParent lineage child parent).map Prod.fst = lineage.map Prod.fst := by
  rw [removeParent_eq_mapRows, List.map_map]
  rfl

end Lineage
/-!
# Edges of the store
-/

def WellFormed (store : Store) : Prop :=
  forall key, Lineage.WellFormed (store.lineage key)

theorem wellFormed_empty (sentinel : String) : (empty sentinel).WellFormed :=
  fun _ => Lineage.wellFormed_nil

theorem lineage_withLineage (store : Store) (key : HierarchyKey) (lineage : Lineage)
    (other : HierarchyKey) :
    (store.withLineage key lineage).lineage other =
      if other = key then lineage else store.lineage other := by
  unfold Store.lineage withLineage
  rw [Table.get?_put]
  split <;> rfl

theorem WellFormed.withLineage {store : Store} (h : store.WellFormed) {key : HierarchyKey}
    {lineage : Lineage} (hlineage : Lineage.WellFormed lineage) :
    (store.withLineage key lineage).WellFormed := by
  intro other
  rw [lineage_withLineage]
  split
  · exact hlineage
  · exact h other

theorem hasEdge_iff (store : Store) (key : HierarchyKey) (edge : Relationship) :
    store.hasEdge key edge = true ↔
      edge.parent ∈ Lineage.parentsOf (store.lineage key) edge.child :=
  List.contains_iff_mem

def written (store : Store) (key : HierarchyKey) (edge : Relationship) : Change -> Store
  | .add => store.insertEdge key edge
  | .remove => if store.hasEdge key edge then store.eraseEdge key edge else store

theorem written_remove (store : Store) (key : HierarchyKey) (edge : Relationship) :
    store.written key edge .remove =
      if store.hasEdge key edge then store.eraseEdge key edge else store := rfl

theorem WellFormed.written {store : Store} (h : store.WellFormed) (key : HierarchyKey)
    (edge : Relationship) (change : Change) : (store.written key edge change).WellFormed := by
  cases change with
  | add => exact h.withLineage (Lineage.wellFormed_addParents (h key) edge.child [edge.parent])
  | remove =>
      rw [written_remove]
      split
      · exact h.withLineage (Lineage.wellFormed_removeParent (h key) edge.child edge.parent)
      · exact h

theorem sentinel_written (store : Store) (key : HierarchyKey) (edge : Relationship)
    (change : Change) : (store.written key edge change).sentinel = store.sentinel := by
  cases change with
  | add => rfl
  | remove =>
      rw [written_remove]
      split <;> rfl

theorem WellFormed.hasEdge_insertEdge {store : Store} (h : store.WellFormed) (key : HierarchyKey)
    (edge : Relationship) (other : HierarchyKey) (e : Relationship) :
    (store.insertEdge key edge).hasEdge other e = true ↔
      (other = key ∧ e = edge) ∨ store.hasEdge other e = true := by
  rw [hasEdge_iff, hasEdge_iff]
  unfold insertEdge
  rw [lineage_withLineage]
  by_cases hkey : other = key
  · rw [if_pos hkey, hkey, Lineage.mem_parentsOf_addParents (h key), List.mem_singleton, or_comm,
      ← Relationship.eq_iff_ends]
    exact or_congr_left (and_iff_right rfl).symm
  · rw [if_neg hkey]
    exact (or_iff_right fun hnew => hkey hnew.1).symm

theorem WellFormed.hasEdge_eraseEdge {store : Store} (h : store.WellFormed) (key : HierarchyKey)
    (edge : Relationship) (other : HierarchyKey) (e : Relationship) :
    (store.eraseEdge key edge).hasEdge other e = true ↔
      store.hasEdge other e = true ∧ ¬ (other = key ∧ e = edge) := by
  rw [hasEdge_iff, hasEdge_iff]
  unfold eraseEdge
  rw [lineage_withLineage]
  by_cases hkey : other = key
  · rw [if_pos hkey, hkey, Lineage.mem_parentsOf_removeParent (h key), ← Relationship.eq_iff_ends]
    exact and_congr_right fun _ => not_congr (and_iff_right rfl).symm
  · rw [if_neg hkey]
    exact (and_iff_left fun hboth => hkey hboth.1).symm

theorem WellFormed.hasEdge_written {store : Store} (h : store.WellFormed) (key : HierarchyKey)
    (edge : Relationship) (change : Change) (other : HierarchyKey) (e : Relationship) :
    (store.written key edge change).hasEdge other e =
      if other = key ∧ e = edge then change.leavesEdge else store.hasEdge other e := by
  by_cases hsame : other = key ∧ e = edge
  · rw [if_pos hsame, hsame.1, hsame.2]
    cases change with
    | add => exact (h.hasEdge_insertEdge key edge key edge).mpr (Or.inl ⟨rfl, rfl⟩)
    | remove =>
        refine Bool.eq_false_iff.mpr fun hedge => ?_
        rw [written_remove] at hedge
        split at hedge
        · exact ((h.hasEdge_eraseEdge key edge key edge).mp hedge).2 ⟨rfl, rfl⟩
        · rename_i habsent
          exact habsent hedge
  · rw [if_neg hsame]
    refine Bool.eq_iff_iff.mpr ?_
    cases change with
    | add => exact (h.hasEdge_insertEdge key edge other e).trans (or_iff_right hsame)
    | remove =>
        rw [written_remove]
        split
        · exact (h.hasEdge_eraseEdge key edge other e).trans (and_iff_left hsame)
        · exact Iff.rfl

/-!
# Actions on the store
-/

def write (kind : HierarchyKind) (edge : Relationship) (context : Option String) :
    Change -> Action Store Unit
  | .add => add kind edge context
  | .remove => do
      let _ ← remove kind edge context

theorem effect_write (kind : HierarchyKind) (edge : Relationship) (context : Option String)
    (change : Change) (store : Store) :
    (write kind edge context change).effect store =
      (.ok (), store.written (store.key kind context) edge change) := by
  cases change with
  | add => rfl
  | remove =>
      unfold write
      rw [Action.effect_discard, written_remove]
      unfold remove
      simp only [Action.effect_bind, Action.effect_read]
      split
      · rfl
      · rfl

/-!
# Listings
-/

def SameEdges (before after : Store) : Prop :=
  after.sentinel = before.sentinel ∧ after.edges = before.edges

instance : IsPreorder Store SameEdges where
  refl := fun _ => ⟨rfl, rfl⟩
  trans := fun _ _ _ hfirst hsecond =>
    ⟨hsecond.1.trans hfirst.1, hsecond.2.trans hfirst.2⟩

theorem SameEdges.hasEdge_eq {before after : Store} (h : SameEdges before after)
    (key : HierarchyKey) (edge : Relationship) :
    after.hasEdge key edge = before.hasEdge key edge := by
  unfold hasEdge Store.lineage
  rw [h.2]

theorem SameEdges.wellFormed {before after : Store} (h : SameEdges before after)
    (hbefore : before.WellFormed) : after.WellFormed := by
  intro key
  have hkey := hbefore key
  unfold Store.lineage at hkey ⊢
  rw [h.2]
  exact hkey

def Lineage.rows (lineage : Lineage) : List Row :=
  (lineage.filter fun row => !row.2.isEmpty).map fun row => Graph.rowOf row.1 row.2

theorem Lineage.filterMap_eq_rows (lineage : Lineage) :
    (lineage.filterMap fun (row : Name × List Name) =>
      if row.2.isEmpty then none else some (Graph.rowOf row.1 row.2)) = rows lineage := by
  unfold rows
  induction lineage with
  | nil => rfl
  | cons row rest ih =>
      rcases row with ⟨child, parents⟩
      rw [List.filterMap_cons, List.filter_cons]
      cases parents with
      | nil => exact ih
      | cons first others => exact congrArg (List.cons _) ih

theorem effect_list (kind : HierarchyKind) (context : Option String) (store : Store) :
    ((list kind context).effect store).1 =
      .ok (Lineage.rows (store.lineage (store.key kind context))) :=
  congrArg Except.ok (Lineage.filterMap_eq_rows _)

theorem SameEdges.listing_eq {before after : Store} (h : SameEdges before after)
    (kind : HierarchyKind) (context : Option String) :
    ((list kind context).effect after).1 = ((list kind context).effect before).1 := by
  rw [effect_list, effect_list]
  unfold Store.lineage Store.key
  rw [h.1, h.2]

theorem moves_list (kind : HierarchyKind) (context : Option String) :
    (list kind context).Moves SameEdges :=
  fun _ => ⟨rfl, rfl⟩

theorem moves_readPermission (request : PermissionRequest) :
    (readPermission request).Moves SameEdges :=
  fun _ => ⟨rfl, rfl⟩

/-!
# Runs of a store
-/

inductive Call where
  | add (kind : HierarchyKind) (edge : Relationship) (context : Option String)
  | remove (kind : HierarchyKind) (edge : Relationship) (context : Option String)
  | load (kind : Option String) (edges : List (Option String × Option String))
      (context : Option String)
  | addEntity (entity : Entity)
  | removeEntity (entity : Entity)
  | addPermission (permission : Permission)
  | removePermission (permission : Permission)
  | list (kind : HierarchyKind) (context : Option String)
  | readPermission (request : PermissionRequest)

def Call.perform : Call -> Action Store Unit
  | .add kind edge context => Store.add kind edge context
  | .remove kind edge context => do
      let _ ← Store.remove kind edge context
  | .load kind edges context => Store.load kind edges context
  | .addEntity entity => Store.addEntity entity
  | .removeEntity entity => Store.removeEntity entity
  | .addPermission permission => Store.addPermission permission
  | .removePermission permission => do
      let _ ← Store.removePermission permission
  | .list kind context => do
      let _ ← Store.list kind context
  | .readPermission request => do
      let _ ← Store.readPermission request

/-- The stores that calls lead to, whether the calls succeed or not. -/
inductive Reached (sentinel : String) : Store -> Prop where
  | start : Reached sentinel (empty sentinel)
  | call {store : Store} (call : Call) : Reached sentinel store ->
      Reached sentinel (call.perform.run store).state

/-!
# Stored cycles
-/

def Edge (store : Store) (key : HierarchyKey) (child parent : Name) : Prop :=
  store.hasEdge key ⟨child, parent⟩ = true

def Acyclic (store : Store) (key : HierarchyKey) : Prop :=
  forall name, ¬ Relation.TransGen (store.Edge key) name name

theorem acyclic_of_hasEdge_eq {store : Store} {key : HierarchyKey} {graph : Graph}
    (hgraph : graph.Sound) (hedges : forall edge, graph.hasEdge edge = store.hasEdge key edge) :
    store.Acyclic key := by
  intro name hcycle
  have hsame : forall child parent, store.Edge key child parent -> graph.Edge child parent :=
    fun child parent hedge => (hedges ⟨child, parent⟩).trans hedge
  exact hgraph.acyclic name (Relation.TransGen.mono hsame name name hcycle)

theorem SameEdges.acyclic {before after : Store} (h : SameEdges before after) {key : HierarchyKey}
    (hbefore : before.Acyclic key) : after.Acyclic key := by
  unfold Acyclic Edge at hbefore ⊢
  simp only [h.hasEdge_eq]
  exact hbefore

theorem acyclic_of_hasEdge_eq_false {store : Store} {key : HierarchyKey}
    (hnone : forall edge, store.hasEdge key edge = false) : store.Acyclic key := by
  intro name hcycle
  rcases Relation.TransGen.head'_iff.mp hcycle with ⟨parent, hedge, _⟩
  rw [Edge, hnone] at hedge
  cases hedge

theorem WellFormed.mem_edgesOf_iff {store : Store} (h : store.WellFormed) (key : HierarchyKey)
    {child parent : Name} :
    ⟨child, parent⟩ ∈ Graph.edgesOf ((store.lineage key).filter fun row => !row.2.isEmpty) ↔
      store.Edge key child parent := by
  unfold Edge
  rw [hasEdge_iff, Lineage.mem_parentsOf_iff (h key), Graph.mem_edgesOf_iff]
  refine exists_congr fun parents => and_congr_left fun hparent => ?_
  rw [List.mem_filter]
  refine and_iff_left ?_
  cases parents with
  | nil => cases hparent
  | cons first rest => rfl

/-- A listing describes the stored edges, unless they have a cycle. -/
theorem WellFormed.rows_cases {store : Store} (h : store.WellFormed) (key : HierarchyKey) :
    (exists graph, Graph.empty.edited (Graph.addRows (Lineage.rows (store.lineage key))) =
        .ok graph ∧ graph.Sound ∧
        forall edge, graph.hasEdge edge = store.hasEdge key edge) ∨
      exists fault, Graph.empty.edited (Graph.addRows (Lineage.rows (store.lineage key))) =
        .error fault ∧ fault.isCycle = true ∧ ¬ store.Acyclic key := by
  have hedges : forall child parent, Graph.empty.EdgeOr
      (Graph.edgesOf ((store.lineage key).filter fun row => !row.2.isEmpty)) child parent ↔
        store.Edge key child parent := by
    intro child parent
    exact (or_iff_left Graph.not_edge_empty).trans (h.mem_edgesOf_iff key)
  -- Reading the rows back inserts the stored edges one by one into the empty graph.
  unfold Lineage.rows
  rw [Graph.edited_addRows (Graph.readRows_rowOf _)]
  unfold Graph.edited
  rcases Graph.sound_empty.addEdges_cases
      (Graph.edgesOf ((store.lineage key).filter fun row => !row.2.isEmpty)) with
    ⟨built, hbuilt, hsound, hbuiltEdges⟩ | ⟨fault, state, hfail, hcycle, name, hpath⟩
  · rw [hbuilt]
    refine Or.inl ⟨built, rfl, hsound, fun edge => Bool.eq_iff_iff.mpr ?_⟩
    exact (hbuiltEdges edge.child edge.parent).trans (hedges edge.child edge.parent)
  · rw [hfail]
    refine Or.inr ⟨fault, rfl, hcycle, fun hacyclic => hacyclic name ?_⟩
    exact Relation.TransGen.mono (fun child parent => (hedges child parent).mp) _ _ hpath

end Store
end Entitlement
