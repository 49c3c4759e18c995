import Entitlement.Proofs.Directory.Ledger

/-!
# The store follows its ledger

Every write does to the store what it does to the ledger, and every call carries out its writes, in
order.  A reader of the store therefore learns what the ledger says, and nothing else.
-/

namespace Entitlement
namespace Store

/-!
# What one write does
-/

def apply (store : Store) : Write -> Store
  | .insert key child parents =>
      store.withLineage key (Lineage.addParents (store.lineage key) child parents)
  | .erase key edge => store.written key edge .remove
  | .forget key name => store.withLineage key (Lineage.removeName (store.lineage key) name)
  | .file key permission => { store with permissions := store.permissions.put key permission }
  | .withdraw key => { store with permissions := store.permissions.erase key }

def children (store : Store) (key : HierarchyKey) : List Name :=
  (store.lineage key).map Prod.fst

section Apply

variable {store : Store}

theorem apply_insert (store : Store) (key : HierarchyKey) (child : Name) (parents : List Name) :
    store.apply (.insert key child parents) =
      store.withLineage key (Lineage.addParents (store.lineage key) child parents) := rfl

theorem apply_erase (store : Store) (key : HierarchyKey) (edge : Relationship) :
    store.apply (.erase key edge) = store.written key edge .remove := rfl

theorem apply_forget (store : Store) (key : HierarchyKey) (name : Name) :
    store.apply (.forget key name) =
      store.withLineage key (Lineage.removeName (store.lineage key) name) := rfl

theorem sentinel_apply (store : Store) (write : Write) :
    (store.apply write).sentinel = store.sentinel := by
  cases write with
  | erase key edge => exact sentinel_written store key edge .remove
  | _ => rfl

theorem WellFormed.apply (h : store.WellFormed) (write : Write) :
    (store.apply write).WellFormed := by
  cases write with
  | insert key child parents =>
      exact h.withLineage (Lineage.wellFormed_addParents (h key) child parents)
  | erase key edge => exact h.written key edge .remove
  | forget key name => exact h.withLineage (Lineage.wellFormed_removeName (h key) name)
  | file key permission => exact h
  | withdraw key => exact h

theorem lineage_apply {write : Write} {key : HierarchyKey} (h : write.hierarchy? ≠ some key) :
    (store.apply write).lineage key = store.lineage key := by
  have hother : forall other lineage, some other ≠ some key ->
      (store.withLineage other lineage).lineage key = store.lineage key := by
    intro other lineage hne
    rw [lineage_withLineage, if_neg fun hsame => hne (congrArg some hsame.symm)]
  cases write with
  | insert other child parents => exact hother other _ h
  | erase other edge =>
      rw [apply_erase, written_remove]
      split
      · exact hother other _ h
      · rfl
  | forget other name => exact hother other _ h
  | file other permission => rfl
  | withdraw other => rfl

theorem WellFormed.hasEdge_apply (h : store.WellFormed) (write : Write) (key : HierarchyKey)
    (edge : Relationship) :
    (store.apply write).hasEdge key edge = true ↔
      write.adds key edge = true ∨
        store.hasEdge key edge = true ∧ write.deletes key edge = false := by
  cases write with
  | insert other child parents =>
      rw [hasEdge_iff, hasEdge_iff, apply_insert, lineage_withLineage]
      by_cases hkey : key = other
      · rw [if_pos hkey, hkey, Lineage.mem_parentsOf_addParents (h other)]
        rw [Write.adds_insert_iff, or_comm]
        exact or_congr ⟨fun h => ⟨rfl, h.1.symm, h.2⟩, fun h => ⟨h.2.1.symm, h.2.2⟩⟩
          (and_iff_left rfl).symm
      · rw [if_neg hkey]
        simp [Write.adds, Write.deletes, Ne.symm hkey]
  | erase other gone =>
      rw [apply_erase, h.hasEdge_written]
      by_cases hsame : key = other ∧ edge = gone
      · rw [if_pos hsame, hsame.1, hsame.2]
        simp [Write.adds, Write.deletes, Change.leavesEdge]
      · rw [if_neg hsame]
        simp [Write.adds, Write.deletes]
        intro _ hkey hgone
        exact hsame ⟨hkey.symm, hgone.symm⟩
  | forget other name =>
      rw [hasEdge_iff, hasEdge_iff, apply_forget, lineage_withLineage]
      by_cases hkey : key = other
      · rw [if_pos hkey, hkey, Lineage.mem_parentsOf_removeName (h other)]
        simp [Write.adds, Write.deletes]
      · rw [if_neg hkey]
        simp [Write.adds, Write.deletes, Ne.symm hkey]
  | file other permission => exact (by simp [Write.adds, Write.deletes]; rfl)
  | withdraw other => exact (by simp [Write.adds, Write.deletes]; rfl)

theorem names_eq_false {write : Write} {key : HierarchyKey} (h : write.hierarchy? ≠ some key)
    (name : Name) : write.names key name = false := by
  cases write with
  | insert other child parents =>
      have hkey : other ≠ key := fun hsame => h (congrArg some hsame)
      simp [Write.names, hkey]
  | _ => rfl

theorem forgets_eq_false {write : Write} {key : HierarchyKey} (h : write.hierarchy? ≠ some key)
    (name : Name) : write.forgets key name = false := by
  cases write with
  | forget other gone =>
      have hkey : other ≠ key := fun hsame => h (congrArg some hsame)
      simp [Write.forgets, hkey]
  | _ => rfl

theorem children_eraseEdge (store : Store) (key : HierarchyKey) (edge : Relationship) :
    (store.written key edge .remove).children key = store.children key := by
  unfold children
  rw [written_remove]
  split
  · unfold eraseEdge
    rw [lineage_withLineage, if_pos rfl, Lineage.keys_removeParent]
  · rfl

/-- A write puts a new child behind all others, or it at most takes a child away. -/
theorem children_apply (store : Store) (write : Write) (key : HierarchyKey) :
    (exists name, write.names key name = true ∧ name ∉ store.children key ∧
        (store.apply write).children key = store.children key ++ [name]) ∨
      (forall name, write.names key name = true -> name ∈ store.children key) ∧
        (store.apply write).children key =
          (store.children key).filter fun name => !write.forgets key name := by
  by_cases hkey : write.hierarchy? = some key
  · cases write with
    | insert other child parents =>
        cases hkey
        have hchildren : (store.apply (.insert key child parents)).children key =
            if child ∈ store.children key then store.children key
            else store.children key ++ [child] := by
          unfold children
          rw [apply_insert, lineage_withLineage, if_pos rfl]
          exact Table.keys_put child _ (store.lineage key)
        by_cases hchild : child ∈ store.children key
        · rw [hchildren, if_pos hchild]
          apply Or.inr
          constructor
          · intro name hname
            have hsame : child = name := by simpa [Write.names] using hname
            rw [← hsame]
            exact hchild
          · exact (List.filter_eq_self.mpr fun _ _ => rfl).symm
        · rw [hchildren, if_neg hchild]
          exact Or.inl ⟨child, by simp [Write.names], hchild, rfl⟩
    | erase other edge =>
        cases hkey
        rw [apply_erase, children_eraseEdge]
        apply Or.inr
        constructor
        · intro _ hname
          cases hname
        · exact (List.filter_eq_self.mpr fun _ _ => rfl).symm
    | forget other name =>
        cases hkey
        apply Or.inr
        constructor
        · intro _ hname
          cases hname
        · unfold children
          rw [apply_forget, lineage_withLineage, if_pos rfl, Lineage.keys_removeName]
          apply List.filter_congr
          intro child _
          simp [Write.forgets, eq_comm]
    | file other permission => cases hkey
    | withdraw other => cases hkey
  · apply Or.inr
    constructor
    · intro name hname
      rw [names_eq_false hkey] at hname
      cases hname
    · unfold children
      rw [lineage_apply hkey]
      apply Eq.symm
      apply List.filter_eq_self.mpr
      intro name _
      rw [forgets_eq_false hkey]
      rfl

theorem permissions_apply_of_hierarchy (store : Store) {write : Write} {key : HierarchyKey}
    (h : write.hierarchy? = some key) : (store.apply write).permissions = store.permissions := by
  cases write with
  | insert other child parents => rfl
  | erase other edge =>
      rw [apply_erase, written_remove]
      split
      · rfl
      · rfl
  | forget other name => rfl
  | file other permission => cases h
  | withdraw other => cases h

theorem permission_apply (store : Store) (write : Write) (key : PermissionKey)
    (permission : Permission) :
    (store.apply write).permissions.get? key = some permission ↔
      write.files key permission = true ∨
        store.permissions.get? key = some permission ∧ write.settles key = false := by
  cases write with
  | file other filed =>
      have hput := Table.get?_put other filed store.permissions key
      rw [show (store.apply (.file other filed)).permissions = store.permissions.put other filed
        from rfl, hput]
      by_cases hkey : key = other
      · simp [Write.files, Write.settles, hkey]
      · simp [Write.files, Write.settles, hkey, Ne.symm hkey]
  | withdraw other =>
      have herase := Table.get?_erase other store.permissions key
      rw [show (store.apply (.withdraw other)).permissions = store.permissions.erase other
        from rfl, herase]
      by_cases hkey : key = other
      · simp [Write.files, Write.settles, hkey]
      · simp [Write.files, Write.settles, hkey, Ne.symm hkey]
  | insert other child parents =>
      rw [permissions_apply_of_hierarchy store rfl]
      simp [Write.files, Write.settles]
  | erase other edge =>
      rw [permissions_apply_of_hierarchy store rfl]
      simp [Write.files, Write.settles]
  | forget other name =>
      rw [permissions_apply_of_hierarchy store rfl]
      simp [Write.files, Write.settles]

end Apply

/-!
# The invariant
-/

structure Follows (sentinel : String) (store : Store) (ledger : List Write) : Prop where
  sentinel_eq : store.sentinel = sentinel
  wellFormed : store.WellFormed
  hasEdge_iff : forall key edge, store.hasEdge key edge = true ↔ Holds key edge ledger
  mem_children_iff : forall key name, name ∈ store.children key ↔ Standing key name ledger
  ordered : forall key, (store.children key).Pairwise (Before key ledger)
  permission_iff : forall key permission,
    store.permissions.get? key = some permission ↔ Filed key permission ledger

theorem follows_empty (sentinel : String) : Follows sentinel (empty sentinel) [] where
  sentinel_eq := rfl
  wellFormed := wellFormed_empty sentinel
  hasEdge_iff := fun _ _ => iff_of_false Bool.false_ne_true not_lasts_nil
  mem_children_iff := fun _ _ => iff_of_false List.not_mem_nil not_lasts_nil
  ordered := fun _ => List.Pairwise.nil
  permission_iff := fun _ _ => iff_of_false (fun h => nomatch h) not_lasts_nil

section Follows

variable {sentinel : String} {store : Store} {ledger : List Write}

theorem Follows.mem_children_apply (h : Follows sentinel store ledger) (write : Write)
    (key : HierarchyKey) (name : Name) :
    name ∈ (store.apply write).children key ↔ Standing key name (ledger ++ [write]) := by
  unfold Standing
  rw [lasts_concat, ← Standing, ← h.mem_children_iff]
  rcases children_apply store write key with ⟨child, hchild, hnew, hchildren⟩ | ⟨hknown, hchildren⟩
  · rw [hchildren, List.mem_append, List.mem_singleton, Write.forgets_of_names hchild]
    cases write with
    | insert other given parents =>
        simp only [Write.names, Bool.and_eq_true, decide_eq_true_eq] at hchild ⊢
        rcases hchild with ⟨hkey, hgiven⟩
        rw [hkey, hgiven, or_comm]
        simp [eq_comm]
    | _ => cases hchild
  · rw [hchildren, List.mem_filter]
    constructor
    · intro hmember
      exact Or.inr ⟨hmember.1, Bool.not_eq_true' _ ▸ hmember.2⟩
    · intro hmember
      rcases hmember with hnames | ⟨hold, hkept⟩
      · exact ⟨hknown name hnames, by rw [Write.forgets_of_names hnames]; rfl⟩
      · exact ⟨hold, by rw [hkept]; rfl⟩

theorem Follows.ordered_apply (h : Follows sentinel store ledger) (write : Write)
    (key : HierarchyKey) :
    ((store.apply write).children key).Pairwise (Before key (ledger ++ [write])) := by
  rcases children_apply store write key with ⟨child, hchild, hnew, hchildren⟩ | ⟨_, hchildren⟩
  · rw [hchildren, List.pairwise_append]
    constructor
    · apply (h.ordered key).imp
      intro first second hbefore
      exact hbefore.concat (Write.forgets_of_names hchild) (Write.forgets_of_names hchild)
    constructor
    · exact List.pairwise_singleton _ _
    · intro first hfirst second hsecond
      rw [List.mem_singleton.mp hsecond]
      rw [h.mem_children_iff] at hfirst hnew
      exact before_new hfirst hchild hnew
  · rw [hchildren]
    apply ((h.ordered key).filter _).imp_of_mem
    intro first second hfirst hsecond hbefore
    exact hbefore.concat (by simpa using (List.mem_filter.mp hfirst).2)
      (by simpa using (List.mem_filter.mp hsecond).2)

theorem Follows.apply (h : Follows sentinel store ledger) (write : Write) :
    Follows sentinel (store.apply write) (ledger ++ [write]) where
  sentinel_eq := (sentinel_apply store write).trans h.sentinel_eq
  wellFormed := h.wellFormed.apply write
  hasEdge_iff := by
    intro key edge
    unfold Holds
    rw [h.wellFormed.hasEdge_apply, lasts_concat, h.hasEdge_iff]
    rfl
  mem_children_iff := h.mem_children_apply write
  ordered := h.ordered_apply write
  permission_iff := by
    intro key permission
    unfold Filed
    rw [permission_apply, lasts_concat, h.permission_iff]
    rfl

theorem Follows.foldl (h : Follows sentinel store ledger) (writes : List Write) :
    Follows sentinel (writes.foldl Store.apply store) (ledger ++ writes) := by
  induction writes generalizing store ledger with
  | nil =>
      rw [List.append_nil]
      exact h
  | cons write rest ih =>
      have hrest := ih (h.apply write)
      rw [List.append_assoc] at hrest
      exact hrest

end Follows

/-!
# What a call does
-/

/-- The stores hold the same, and are told apart at most by what was listed. -/
structure SameContents (before after : Store) : Prop where
  sentinel_eq : after.sentinel = before.sentinel
  edges_eq : after.edges = before.edges
  permissions_eq : after.permissions = before.permissions

theorem sameContents_of_eq {before after : Store} (h : after = before) :
    SameContents before after := by
  rw [h]
  exact ⟨rfl, rfl, rfl⟩

theorem SameContents.lineage_eq {before after : Store} (h : SameContents before after)
    (key : HierarchyKey) : after.lineage key = before.lineage key := by
  unfold Store.lineage
  rw [h.edges_eq]

theorem Follows.of_sameContents {sentinel : String} {before after : Store} {ledger : List Write}
    (h : Follows sentinel before ledger) (hsame : SameContents before after) :
    Follows sentinel after ledger where
  sentinel_eq := hsame.sentinel_eq.trans h.sentinel_eq
  wellFormed := by
    intro key
    rw [hsame.lineage_eq]
    exact h.wellFormed key
  hasEdge_iff := by
    intro key edge
    unfold hasEdge
    rw [hsame.lineage_eq]
    exact h.hasEdge_iff key edge
  mem_children_iff := by
    intro key name
    unfold children
    rw [hsame.lineage_eq]
    exact h.mem_children_iff key name
  ordered := by
    intro key
    unfold children
    rw [hsame.lineage_eq]
    exact h.ordered key
  permission_iff := by
    intro key permission
    rw [hsame.permissions_eq]
    exact h.permission_iff key permission

theorem effect_remove (kind : HierarchyKind) (edge : Relationship) (context : Option String)
    (store : Store) :
    (remove kind edge context).effect store =
      (.ok (store.hasEdge (store.key kind context) edge),
        store.apply (.erase (store.key kind context) edge)) := by
  rw [apply_erase, written_remove]
  unfold remove
  simp only [Action.effect_bind, Action.effect_read]
  cases store.hasEdge (store.key kind context) edge with
  | true => rfl
  | false => rfl

theorem effect_readPermission (request : PermissionRequest) (store : Store) :
    (readPermission request).effect store = (.ok (store.permission? request), store) := rfl

theorem effect_removePermission (permission : Permission) (store : Store) :
    (removePermission permission).effect store =
      (.ok (store.permission? permission.request).isSome,
        store.apply (.withdraw (store.permissionKey permission.request))) := rfl

theorem load_cons (kind context child parent : Option String)
    (rest : List (Option String × Option String)) :
    load kind ((child, parent) :: rest) context =
      (do
        let edge ← Action.ofResult (Relationship.parse child parent)
        add (← Action.ofResult (HierarchyKind.parse kind)) edge context) >>= fun _ =>
          load kind rest context := rfl

theorem state_load (kind : Option String) (edges : List (Option String × Option String))
    (context : Option String) (store : Store) :
    ((load kind edges context).effect store).2 =
      (loads store.sentinel kind context edges).foldl Store.apply store := by
  induction edges generalizing store with
  | nil => rfl
  | cons ends rest ih =>
      rcases ends with ⟨child, parent⟩
      rw [load_cons, Action.effect_bind, Action.effect_bind, Action.effect_ofResult]
      unfold loads
      cases Relationship.parse child parent with
      | error fault => rfl
      | ok edge =>
          dsimp only
          rw [Action.effect_bind, Action.effect_ofResult]
          cases HierarchyKind.parse kind with
          | error fault => rfl
          | ok parsed => exact ih _

theorem state_perform (call : Call) (store : Store) :
    SameContents ((call.writes store.sentinel).foldl Store.apply store)
      (call.perform.effect store).2 := by
  cases call with
  | add kind edge context => exact sameContents_of_eq rfl
  | remove kind edge context =>
      apply sameContents_of_eq
      unfold Call.perform
      rw [Action.effect_discard, effect_remove]
      rfl
  | load kind edges context => exact sameContents_of_eq (state_load kind edges context store)
  | addEntity entity =>
      apply sameContents_of_eq
      unfold Call.perform Call.writes addEntity
      dsimp only
      rw [Action.effect_bind, Action.effect_ofResult]
      cases Name.parse entity.name with
      | error defect => rfl
      | ok name => rfl
  | removeEntity entity =>
      apply sameContents_of_eq
      unfold Call.perform Call.writes removeEntity
      dsimp only
      rw [Action.effect_bind, Action.effect_ofResult]
      cases Name.parse entity.name with
      | error defect => rfl
      | ok name => rfl
  | addPermission permission => exact sameContents_of_eq rfl
  | removePermission permission => exact sameContents_of_eq rfl
  | list kind context => exact ⟨rfl, rfl, rfl⟩
  | readPermission request => exact sameContents_of_eq rfl

def afterCalls (calls : List Call) (store : Store) : Store :=
  calls.foldl (fun store call => (call.perform.run store).state) store

theorem Follows.afterCalls {sentinel : String} {store : Store} {ledger : List Write}
    (h : Follows sentinel store ledger) (calls : List Call) :
    Follows sentinel (store.afterCalls calls) (ledger ++ calls.flatMap (·.writes sentinel)) := by
  induction calls generalizing store ledger with
  | nil =>
      rw [List.flatMap_nil, List.append_nil]
      exact h
  | cons call rest ih =>
      have hwritten := h.foldl (call.writes sentinel)
      have hsame := state_perform call store
      rw [h.sentinel_eq] at hsame
      have hrest := ih (hwritten.of_sameContents hsame)
      rw [List.append_assoc] at hrest
      exact hrest

/-!
# What a reader learns
-/

/-- The rows are the children that have parents by the ledger, in the order of their places. -/
structure Describes (key : HierarchyKey) (ledger : List Write) (rows : List (Name × List Name)) :
    Prop where
  children_nodup : (rows.map Prod.fst).Nodup
  mem_children_iff : forall child, child ∈ rows.map Prod.fst ↔
    exists parent, Holds key ⟨child, parent⟩ ledger
  parents_nodup : forall child parents, (child, parents) ∈ rows -> parents.Nodup
  mem_parents_iff : forall child parents, (child, parents) ∈ rows -> forall parent,
    parent ∈ parents ↔ Holds key ⟨child, parent⟩ ledger
  entered : forall child, child ∈ rows.map Prod.fst -> exists place, Entered key child ledger place
  ordered : (rows.map Prod.fst).Pairwise fun first second => forall place other,
    Entered key first ledger place -> Entered key second ledger other -> place < other

section Reading

variable {sentinel : String} {store : Store} {ledger : List Write}

theorem Follows.key_eq (h : Follows sentinel store ledger) (kind : HierarchyKind)
    (context : Option String) : store.key kind context = .of sentinel kind context := by
  rw [← h.sentinel_eq]
  rfl

theorem Follows.permissionKey_eq (h : Follows sentinel store ledger)
    (request : PermissionRequest) : store.permissionKey request = filedUnder sentinel request := by
  rw [← h.sentinel_eq]
  rfl

theorem Follows.mem_parents_iff (h : Follows sentinel store ledger) {key : HierarchyKey}
    {child : Name} {parents : List Name} (hrow : (child, parents) ∈ store.lineage key)
    (parent : Name) : parent ∈ parents ↔ Holds key ⟨child, parent⟩ ledger := by
  have hparents := (Table.get?_eq_some_iff (h.wellFormed key).children_nodup).mpr hrow
  rw [← h.hasEdge_iff, Store.hasEdge_iff, Lineage.parentsOf, hparents, Option.getD_some]

theorem Follows.describes (h : Follows sentinel store ledger) (key : HierarchyKey) :
    Describes key ledger ((store.lineage key).filter fun row => !row.2.isEmpty) where
  children_nodup := by
    have hsublist := (List.filter_sublist (p := fun row => !row.2.isEmpty)
      (l := store.lineage key)).map Prod.fst
    exact (h.wellFormed key).children_nodup.sublist hsublist
  mem_children_iff := by
    intro child
    constructor
    · intro hchild
      rcases List.mem_map.mp hchild with ⟨⟨other, parents⟩, hrow, hsame⟩
      rcases List.mem_filter.mp hrow with ⟨hmember, hparents⟩
      cases hsame
      cases parents with
      | nil => cases hparents
      | cons parent rest =>
          exact ⟨parent, (h.mem_parents_iff hmember parent).mp List.mem_cons_self⟩
    · intro hholds
      rcases hholds with ⟨parent, hholds⟩
      rw [← h.hasEdge_iff, Store.hasEdge_iff, Lineage.mem_parentsOf_iff (h.wellFormed key)]
        at hholds
      rcases hholds with ⟨parents, hrow, hparent⟩
      apply List.mem_map.mpr
      exists (child, parents)
      constructor
      · apply List.mem_filter.mpr
        constructor
        · exact hrow
        · cases parents with
          | nil => cases hparent
          | cons first rest => rfl
      · rfl
  parents_nodup := by
    intro child parents hrow
    exact (h.wellFormed key).parents_nodup child parents (List.mem_filter.mp hrow).1
  mem_parents_iff := by
    intro child parents hrow
    exact h.mem_parents_iff (List.mem_filter.mp hrow).1
  entered := by
    intro child hchild
    rcases List.mem_map.mp hchild with ⟨row, hrow, hsame⟩
    apply exists_entered
    rw [← h.mem_children_iff, ← hsame]
    exact List.mem_map.mpr ⟨row, (List.mem_filter.mp hrow).1, rfl⟩
  ordered := by
    have hsublist := (List.filter_sublist (p := fun row => !row.2.isEmpty)
      (l := store.lineage key)).map Prod.fst
    apply ((h.ordered key).sublist hsublist).imp
    intro first second hbefore place other hplace hother
    rcases hbefore with ⟨place', other', hplace', hother', hlt⟩
    rw [hplace.unique hplace', hother.unique hother']
    exact hlt

theorem Follows.removed (h : Follows sentinel store ledger) (kind : HierarchyKind)
    (edge : Relationship) (context : Option String) :
    exists removed, ((remove kind edge context).run store).result = .ok removed ∧
      (removed = true ↔ Holds (.of sentinel kind context) edge ledger) := by
  rw [Action.result_eq_effect, effect_remove, h.key_eq]
  exact ⟨_, rfl, h.hasEdge_iff _ edge⟩

theorem Follows.permission?_iff (h : Follows sentinel store ledger) (request : PermissionRequest)
    (permission : Permission) :
    store.permission? request = some permission ↔
      Filed (filedUnder sentinel request) permission ledger := by
  unfold permission?
  rw [h.permissionKey_eq]
  exact h.permission_iff _ permission

theorem Follows.found (h : Follows sentinel store ledger) (request : PermissionRequest) :
    exists found, ((readPermission request).run store).result = .ok found ∧
      forall permission, found = some permission ↔
        Filed (filedUnder sentinel request) permission ledger := by
  rw [Action.result_eq_effect, effect_readPermission]
  exact ⟨_, rfl, h.permission?_iff request⟩

theorem Follows.withdrawn (h : Follows sentinel store ledger) (permission : Permission) :
    exists removed, ((removePermission permission).run store).result = .ok removed ∧
      (removed = true ↔
        exists filed, Filed (filedUnder sentinel permission.request) filed ledger) := by
  rw [Action.result_eq_effect, effect_removePermission]
  exists (store.permission? permission.request).isSome
  constructor
  · rfl
  · rw [Option.isSome_iff_exists]
    exact exists_congr fun filed => h.permission?_iff permission.request filed

theorem lineage_foldl {key : HierarchyKey} {writes : List Write}
    (hother : forall write, write ∈ writes -> write.hierarchy? ≠ some key) (store : Store) :
    (writes.foldl Store.apply store).lineage key = store.lineage key := by
  induction writes generalizing store with
  | nil => rfl
  | cons write rest ih =>
      rw [List.foldl_cons, ih fun later hlater => hother later (List.mem_cons_of_mem _ hlater)]
      exact lineage_apply (hother write List.mem_cons_self)

theorem permission_foldl {key : PermissionKey} {writes : List Write}
    (hother : forall write, write ∈ writes -> write.settles key = false) (store : Store) :
    (writes.foldl Store.apply store).permissions.get? key = store.permissions.get? key := by
  induction writes generalizing store with
  | nil => rfl
  | cons write rest ih =>
      rw [List.foldl_cons, ih fun later hlater => hother later (List.mem_cons_of_mem _ hlater)]
      have hkept := hother write List.mem_cons_self
      apply Option.ext
      intro permission
      rw [permission_apply, hkept]
      have hfiles : write.files key permission = false := by
        cases write with
        | file other filed =>
            simp only [Write.settles, decide_eq_false_iff_not] at hkept
            simp [Write.files, hkept]
        | _ => rfl
      rw [hfiles]
      simp

end Reading

/--
What can be read from a store is what its ledger says.  A listing gives every child that has parents
once, with just the parents that were written and have not been deleted since, in the order in which
the children have come to stand; a deletion tells whether the edge was there; and a permission is
the one that was last added under its key.  A call that writes nothing to a hierarchy does not
change its listing, and one that files nothing under a key does not change what is found there.
-/
theorem store_follows_ledger (sentinel : String) (calls : List Call) :
    let store := (empty sentinel).afterCalls calls
    let ledger := calls.flatMap (·.writes sentinel)
    (forall kind context, exists rows,
      ((list kind context).run store).result =
          .ok (rows.map fun row => Graph.rowOf row.1 row.2) ∧
        Describes (.of sentinel kind context) ledger rows) ∧
      (forall kind edge context, exists removed,
        ((remove kind edge context).run store).result = .ok removed ∧
          (removed = true ↔ Holds (.of sentinel kind context) edge ledger)) ∧
      (forall request, exists found,
        ((readPermission request).run store).result = .ok found ∧
          forall permission, found = some permission ↔
            Filed (filedUnder sentinel request) permission ledger) ∧
      (forall permission, exists removed,
        ((removePermission permission).run store).result = .ok removed ∧
          (removed = true ↔
            exists filed, Filed (filedUnder sentinel permission.request) filed ledger)) ∧
      forall call : Call,
        (forall kind context,
          (forall write, write ∈ call.writes sentinel ->
            write.hierarchy? ≠ some (.of sentinel kind context)) ->
              ((list kind context).run (call.perform.run store).state).result =
                ((list kind context).run store).result) ∧
          forall request,
            (forall write, write ∈ call.writes sentinel ->
              write.settles (filedUnder sentinel request) = false) ->
                ((readPermission request).run (call.perform.run store).state).result =
                  ((readPermission request).run store).result := by
  intro store ledger
  have hfollows : Follows sentinel store ledger := (follows_empty sentinel).afterCalls calls
  constructor
  · intro kind context
    rw [Action.result_eq_effect, effect_list, hfollows.key_eq]
    exact ⟨_, rfl, hfollows.describes _⟩
  constructor
  · exact hfollows.removed
  constructor
  · exact hfollows.found
  constructor
  · exact hfollows.withdrawn
  intro call
  have hsame := state_perform call store
  rw [hfollows.sentinel_eq] at hsame
  have hafter : ((call.perform.effect store).2).sentinel = store.sentinel :=
    hsame.sentinel_eq.trans
      ((hfollows.foldl (call.writes sentinel)).sentinel_eq.trans hfollows.sentinel_eq.symm)
  constructor
  · intro kind context hother
    have hlineage := (hsame.lineage_eq (.of sentinel kind context)).trans
      (lineage_foldl hother store)
    rw [Action.result_eq_effect, Action.result_eq_effect, Action.state_eq_effect, effect_list,
      effect_list, show (call.perform.effect store).2.key kind context = store.key kind context
        from congrArg (HierarchyKey.of · kind context) hafter, hfollows.key_eq, hlineage]
  · intro request hother
    rw [Action.result_eq_effect, Action.result_eq_effect, Action.state_eq_effect,
      effect_readPermission, effect_readPermission]
    have hfound := permission_foldl hother store
    rw [← hsame.permissions_eq, ← hfollows.permissionKey_eq] at hfound
    unfold permission? permissionKey
    rw [hafter]
    exact congrArg Except.ok hfound

/-- A child that has lost its only parent keeps its place, and its new parent is listed there. -/
theorem store_follows_ledger_of_an_emptied_child :
    let clerk : Name := .ofText "clerk" rfl
    let boss : Name := .ofText " Boss " rfl
    let chief : Name := .ofText "chief" rfl
    let calls : List Call :=
      [.add .role ⟨clerk, boss⟩ none, .add .role ⟨chief, boss⟩ (some " NULL "),
        .remove .role ⟨clerk, boss⟩ (some ""), .add .role ⟨clerk, chief⟩ none]
    let store := (empty "null").afterCalls calls
    let ledger := calls.flatMap (·.writes "null")
    (exists rows,
      ((list .role none).run store).result = .ok (rows.map fun row => Graph.rowOf row.1 row.2) ∧
        Describes ⟨.role, ""⟩ ledger rows ∧ rows.map (·.1.text) = ["CLERK", "CHIEF"]) ∧
      Holds ⟨.role, ""⟩ ⟨clerk, chief⟩ ledger ∧ ¬ Holds ⟨.role, ""⟩ ⟨clerk, boss⟩ ledger ∧
      ((list .role none).run ((Call.add .userUnit ⟨chief, clerk⟩ none).perform.run
        store).state).result = ((list .role none).run store).result := by
  intro clerk boss chief calls store ledger
  rcases store_follows_ledger "null" calls with ⟨hlist, hremove, _, _, hframe⟩
  have hkey : HierarchyKey.of "null" .role none = ⟨.role, ""⟩ := by decide +kernel
  have hremoved : forall edge removed,
      ((remove .role edge none).run store).result.toOption = some removed ->
        (removed = true ↔ Holds ⟨.role, ""⟩ edge ledger) := by
    intro edge removed hresult
    rcases hremove .role edge none with ⟨reply, hreply, hiff⟩
    rw [hreply] at hresult
    rw [← hkey, ← Option.some.inj hresult]
    exact hiff
  constructor
  · rcases hlist .role none with ⟨rows, hrows, hdescribes⟩
    have hnames : ((list .role none).run store).result.toOption.map (fun rows =>
        rows.map fun row => row.content.toOption.bind (·.1)) =
          some [some "CLERK", some "CHIEF"] := by decide +kernel
    rw [hrows] at hnames
    rw [hkey] at hdescribes
    have htexts : (rows.map (·.1.text)).map some = ["CLERK", "CHIEF"].map some := by
      rw [List.map_map]
      rw [Except.toOption, Option.map_some, List.map_map] at hnames
      exact Option.some.inj hnames
    exact ⟨rows, hrows, hdescribes,
      List.map_injective_iff.mpr (fun _ _ => Option.some.inj) htexts⟩
  constructor
  · exact (hremoved ⟨clerk, chief⟩ true (by decide +kernel)).mp rfl
  constructor
  · exact fun hholds => nomatch (hremoved ⟨clerk, boss⟩ false (by decide +kernel)).mpr hholds
  · apply (hframe _).1
    intro write hwrite
    cases List.mem_singleton.mp hwrite
    decide +kernel

end Store
end Entitlement
