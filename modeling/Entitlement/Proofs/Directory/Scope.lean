import Entitlement.Proofs.Directory.Memory
import Entitlement.Proofs.Name
import Entitlement.Proofs.TwoRuns

/-!
# What one tenant sees of the store

A scope is some kinds of hierarchies of one tenant together with the permissions of that tenant.
Two stores are alike in a scope if they hold the same there.  A call on the store that addresses
nothing in a scope cannot be seen in it; a call that addresses something in it answers the same from
stores that are alike.
-/

namespace Entitlement

/-- What a call reads or writes: a hierarchy, or the permissions of a tenant. -/
inductive Address where
  | hierarchy (key : HierarchyKey)
  | permissions (tenant : String)
  deriving DecidableEq

/-- Some kinds of hierarchies of one tenant, with the permissions of the tenant. -/
structure Scope where
  sentinel : String
  tenant : String
  kinds : HierarchyKind -> Prop

def Scope.Covers (scope : Scope) : Address -> Prop
  | .hierarchy key => key.context = scope.tenant ∧ scope.kinds key.kind
  | .permissions tenant => tenant = scope.tenant

def Scope.Sees (scope : Scope) (addresses : List Address) : Prop :=
  exists address, address ∈ addresses ∧ scope.Covers address

theorem Scope.sees_singleton (scope : Scope) (address : Address) :
    scope.Sees [address] ↔ scope.Covers address := by
  simp [Sees]

def Address.hierarchyOf (sentinel : String) (kind : HierarchyKind) (context : Option String) :
    Address :=
  .hierarchy (.of sentinel kind context)

def Address.permissionsOf (sentinel : String) (context : Option String) : Address :=
  .permissions (Context.normalize sentinel context)

namespace Store

structure Kept (sentinel : String) (store : Store) : Prop where
  sentinel_eq : store.sentinel = sentinel
  filed : forall key permission, store.permissions.get? key = some permission ->
    store.permissionKey permission.request = key

/-- The two stores hold the same edges and the same permissions in a scope. -/
structure Alike (scope : Scope) (left right : Store) : Prop where
  left_kept : left.Kept scope.sentinel
  right_kept : right.Kept scope.sentinel
  lineage_eq : forall key, scope.Covers (.hierarchy key) -> left.lineage key = right.lineage key
  permission_eq : forall key : PermissionKey, scope.Covers (.permissions key.context) ->
    left.permissions.get? key = right.permissions.get? key

variable {scope : Scope} {left right : Store}

instance : Std.Symm (Alike scope) where
  symm := fun _ _ h =>
    { left_kept := h.right_kept
      right_kept := h.left_kept
      lineage_eq := fun key hkey => (h.lineage_eq key hkey).symm
      permission_eq := fun key hkey => (h.permission_eq key hkey).symm }

theorem Kept.key_eq {sentinel : String} {store : Store} (h : store.Kept sentinel)
    (kind : HierarchyKind) (context : Option String) :
    store.key kind context = HierarchyKey.of sentinel kind context := by
  unfold Store.key
  rw [h.sentinel_eq]

theorem Kept.permissionKey_eq {sentinel : String} {store : Store} (h : store.Kept sentinel)
    (request : PermissionRequest) :
    store.permissionKey request = (empty sentinel).permissionKey request := by
  unfold permissionKey
  rw [h.sentinel_eq]
  rfl

/-!
# Writes of one hierarchy
-/

theorem Kept.withLineage {sentinel : String} {store : Store} (h : store.Kept sentinel)
    (key : HierarchyKey) (lineage : Lineage) : (store.withLineage key lineage).Kept sentinel where
  sentinel_eq := h.sentinel_eq
  filed := h.filed

theorem Alike.withLineage (h : Alike scope left right) (key : HierarchyKey) (lineage : Lineage) :
    Alike scope (left.withLineage key lineage) (right.withLineage key lineage) where
  left_kept := h.left_kept.withLineage key lineage
  right_kept := h.right_kept.withLineage key lineage
  lineage_eq := by
    intro other hother
    rw [lineage_withLineage, lineage_withLineage, h.lineage_eq other hother]
  permission_eq := h.permission_eq

theorem Alike.withLineage_left (h : Alike scope left right) {key : HierarchyKey}
    (hkey : ¬ scope.Covers (.hierarchy key)) (lineage : Lineage) :
    Alike scope (left.withLineage key lineage) right where
  left_kept := h.left_kept.withLineage key lineage
  right_kept := h.right_kept
  lineage_eq := by
    intro other hother
    have hdifferent : other ≠ key := fun hsame => hkey (hsame ▸ hother)
    rw [lineage_withLineage, if_neg hdifferent, h.lineage_eq other hother]
  permission_eq := h.permission_eq

def replaced (store : Store) (key : HierarchyKey) : Option Lineage -> Store
  | none => store
  | some lineage => store.withLineage key lineage

theorem confined_of_edit {α : Type} {x : Action Store α} {kind : HierarchyKind}
    {context : Option String} (answer : Lineage -> Except Fault α)
    (edit : Lineage -> Option Lineage)
    (hx : forall store, x.effect store =
      (answer (store.lineage (store.key kind context)),
        store.replaced (store.key kind context) (edit (store.lineage (store.key kind context))))) :
    x.Confined (Alike scope) (scope.Covers (.hierarchyOf scope.sentinel kind context)) where
  agrees := by
    intro hkey left right h
    rw [hx, hx, h.left_kept.key_eq, h.right_kept.key_eq, h.lineage_eq _ hkey]
    refine ⟨rfl, ?_⟩
    simp only
    cases edit (right.lineage (.of scope.sentinel kind context)) with
    | none => exact h
    | some lineage => exact h.withLineage _ lineage
  invisible := by
    intro hkey left right h
    rw [hx, h.left_kept.key_eq]
    simp only
    cases edit (left.lineage (.of scope.sentinel kind context)) with
    | none => exact h
    | some lineage => exact h.withLineage_left hkey lineage

section Edits

variable (kind : HierarchyKind) (edge : Relationship) (context : Option String) (entity : Entity)

theorem confined_add :
    (add kind edge context).Confined (Alike scope)
      (scope.Covers (.hierarchyOf scope.sentinel kind context)) :=
  confined_of_edit (fun _ => .ok ())
    (fun lineage => some (Lineage.addParents lineage edge.child [edge.parent])) fun _ => rfl

theorem confined_remove :
    (remove kind edge context).Confined (Alike scope)
      (scope.Covers (.hierarchyOf scope.sentinel kind context)) := by
  let stored (lineage : Lineage) : Bool := ((lineage.get? edge.child).getD []).contains edge.parent
  refine confined_of_edit (fun lineage => .ok (stored lineage))
    (fun lineage =>
      if stored lineage then some (Lineage.removeParent lineage edge.child edge.parent)
      else none) ?_
  intro store
  have hstored : store.hasEdge (store.key kind context) edge =
      stored (store.lineage (store.key kind context)) := rfl
  unfold remove
  simp only [Action.effect_bind, Action.effect_read, hstored]
  cases stored (store.lineage (store.key kind context)) with
  | true => rfl
  | false => rfl

theorem confined_addEntity :
    (addEntity entity).Confined (Alike scope)
      (scope.Covers (.hierarchyOf scope.sentinel entity.kind entity.context)) := by
  refine (Action.confined_ofResult _).bind fun name _ _ _ _ => ?_
  exact confined_of_edit (fun _ => .ok ())
    (fun lineage => some (Lineage.addParents lineage name entity.parents)) fun _ => rfl

theorem confined_removeEntity :
    (removeEntity entity).Confined (Alike scope)
      (scope.Covers (.hierarchyOf scope.sentinel entity.kind entity.context)) := by
  refine (Action.confined_ofResult _).bind fun name _ _ _ _ => ?_
  exact confined_of_edit (fun _ => .ok ())
    (fun lineage => some (Lineage.removeName lineage name)) fun _ => rfl

end Edits

theorem confined_load (label : Option String) (edges : List (Option String × Option String))
    (context : Option String) {inside : Prop}
    (hinside : forall kind, HierarchyKind.parse label = .ok kind ->
      (inside ↔ scope.Covers (.hierarchyOf scope.sentinel kind context))) :
    (load label edges context).Confined (Alike scope) inside := by
  refine Action.confined_forEach fun edge => ?_
  refine (Action.confined_ofResult _).bind fun edge _ _ _ _ => ?_
  refine (Action.confined_ofResult _).bind fun kind _ _ _ hkind => ?_
  exact (confined_add kind edge context).congr (hinside kind hkind)

theorem Kept.listed {sentinel : String} {store : Store} (h : store.Kept sentinel)
    (kind : HierarchyKind) (context : Option String) :
    ((list kind context).effect store).2.Kept sentinel where
  sentinel_eq := h.sentinel_eq
  filed := h.filed

/-- Nobody sees that listings are counted. -/
theorem confined_list (kind : HierarchyKind) (context : Option String) :
    (list kind context).Confined (Alike scope)
      (scope.Covers (.hierarchyOf scope.sentinel kind context)) where
  agrees := by
    intro hkey left right h
    constructor
    · rw [effect_list, effect_list, h.left_kept.key_eq, h.right_kept.key_eq, h.lineage_eq _ hkey]
    · exact ⟨h.left_kept.listed kind context, h.right_kept.listed kind context, h.lineage_eq,
        h.permission_eq⟩
  invisible := fun _ left right h =>
    ⟨h.left_kept.listed kind context, h.right_kept, h.lineage_eq, h.permission_eq⟩

/-!
# Permissions
-/

def filing (store : Store) (key : PermissionKey) : Option Permission -> Store
  | some permission => { store with permissions := store.permissions.put key permission }
  | none => { store with permissions := store.permissions.erase key }

theorem get?_filing (store : Store) (key : PermissionKey) (value : Option Permission)
    (other : PermissionKey) :
    (store.filing key value).permissions.get? other =
      if other = key then value else store.permissions.get? other := by
  cases value with
  | some permission => exact Table.get?_put key permission store.permissions other
  | none => exact Table.get?_erase key store.permissions other

theorem Kept.filing {sentinel : String} {store : Store} (h : store.Kept sentinel)
    (request : PermissionRequest) {value : Option Permission}
    (hvalue : forall permission, value = some permission -> permission.request = request) :
    (store.filing (store.permissionKey request) value).Kept sentinel where
  sentinel_eq := by
    cases value with
    | some permission => exact h.sentinel_eq
    | none => exact h.sentinel_eq
  filed := by
    intro key permission hfiled
    have hkeys : (store.filing (store.permissionKey request) value).permissionKey
        permission.request = store.permissionKey permission.request := by
      cases value with
      | some permission => rfl
      | none => rfl
    rw [get?_filing] at hfiled
    rw [hkeys]
    split at hfiled
    · rename_i hkey
      rw [hvalue permission hfiled, hkey]
    · exact h.filed key permission hfiled

theorem Alike.permissionKey_eq (h : Alike scope left right) (request : PermissionRequest) :
    left.permissionKey request = right.permissionKey request := by
  rw [h.left_kept.permissionKey_eq, h.right_kept.permissionKey_eq]

theorem Kept.context_permissionKey {sentinel : String} {store : Store} (h : store.Kept sentinel)
    (request : PermissionRequest) :
    (store.permissionKey request).context = Context.normalize sentinel request.context := by
  rw [h.permissionKey_eq]
  rfl

theorem lineage_filing (store : Store) (key : PermissionKey) (value : Option Permission)
    (other : HierarchyKey) : (store.filing key value).lineage other = store.lineage other := by
  cases value with
  | some permission => rfl
  | none => rfl

theorem Alike.permission?_eq (h : Alike scope left right) {request : PermissionRequest}
    (htenant : scope.Covers (.permissionsOf scope.sentinel request.context)) :
    left.permission? request = right.permission? request := by
  unfold permission?
  rw [← h.permissionKey_eq]
  exact h.permission_eq _ ((h.left_kept.context_permissionKey request).trans htenant)

theorem confined_of_filing {α : Type} {x : Action Store α} (request : PermissionRequest)
    (answer : Option Permission -> Except Fault α) (value : Option Permission)
    (hvalue : forall permission, value = some permission -> permission.request = request)
    (hx : forall store, x.effect store =
      (answer (store.permission? request), store.filing (store.permissionKey request) value)) :
    x.Confined (Alike scope)
      (scope.Covers (.permissionsOf scope.sentinel request.context)) where
  agrees := by
    intro htenant left right h
    rw [hx, hx, h.permission?_eq htenant]
    refine ⟨rfl, h.left_kept.filing request hvalue, h.right_kept.filing request hvalue, ?_, ?_⟩
    · intro key hkey
      rw [lineage_filing, lineage_filing, h.lineage_eq key hkey]
    · intro key hkey
      rw [get?_filing, get?_filing, h.permissionKey_eq, h.permission_eq key hkey]
  invisible := by
    intro htenant left right h
    rw [hx]
    refine ⟨h.left_kept.filing request hvalue, h.right_kept, ?_, ?_⟩
    · intro key hkey
      rw [lineage_filing, h.lineage_eq key hkey]
    · intro key hkey
      have hdifferent : key ≠ left.permissionKey request := by
        intro hsame
        rw [hsame, h.left_kept.context_permissionKey] at hkey
        exact htenant hkey
      rw [get?_filing, if_neg hdifferent, h.permission_eq key hkey]

section Requests

variable (permission : Permission) (request : PermissionRequest)

theorem confined_addPermission :
    (addPermission permission).Confined (Alike scope)
      (scope.Covers (.permissionsOf scope.sentinel permission.context)) := by
  refine confined_of_filing permission.request (fun _ => .ok ()) (some permission) ?_ fun _ => rfl
  intro other hother
  rw [Option.some.inj hother]

theorem confined_removePermission :
    (removePermission permission).Confined (Alike scope)
      (scope.Covers (.permissionsOf scope.sentinel permission.context)) := by
  refine confined_of_filing permission.request (fun stored => .ok stored.isSome) none ?_
    fun _ => rfl
  intro other hother
  cases hother

theorem confined_readPermission :
    (readPermission request).Confined (Alike scope)
      (scope.Covers (.permissionsOf scope.sentinel request.context)) where
  agrees := fun htenant _ _ h => ⟨congrArg Except.ok (h.permission?_eq htenant), h⟩
  invisible := fun _ => Action.invisible_of_state fun _ => rfl

end Requests

/-!
# Calls
-/

inductive Reply where
  | done
  | found (stored : Bool)
  | rows (rows : List Row)
  | permission (permission : Option Permission)

def Call.answer : Call -> Action Store Reply
  | .add kind edge context => do
      Store.add kind edge context
      return .done
  | .remove kind edge context => do
      return .found (← Store.remove kind edge context)
  | .load label edges context => do
      Store.load label edges context
      return .done
  | .addEntity entity => do
      Store.addEntity entity
      return .done
  | .removeEntity entity => do
      Store.removeEntity entity
      return .done
  | .addPermission permission => do
      Store.addPermission permission
      return .done
  | .removePermission permission => do
      return .found (← Store.removePermission permission)
  | .list kind context => do
      return .rows (← Store.list kind context)
  | .readPermission request => do
      return .permission (← Store.readPermission request)

/-- What a call addresses.  A kind that cannot be read leads nowhere. -/
def Call.addresses (sentinel : String) : Call -> List Address
  | .add kind _ context | .remove kind _ context | .list kind context =>
      [.hierarchyOf sentinel kind context]
  | .load label _ context =>
      (HierarchyKind.parse label).toOption.toList.map fun kind =>
        .hierarchyOf sentinel kind context
  | .addEntity entity | .removeEntity entity =>
      [.hierarchyOf sentinel entity.kind entity.context]
  | .addPermission permission | .removePermission permission =>
      [.permissionsOf sentinel permission.context]
  | .readPermission request => [.permissionsOf sentinel request.context]

theorem Call.confined_answer (call : Call) :
    call.answer.Confined (Alike scope) (scope.Sees (call.addresses scope.sentinel)) := by
  cases call with
  | add kind edge context =>
      exact ((confined_add kind edge context).map fun _ => Reply.done).congr
        (scope.sees_singleton _)
  | remove kind edge context =>
      exact ((confined_remove kind edge context).map Reply.found).congr (scope.sees_singleton _)
  | load label edges context =>
      refine (confined_load label edges context fun kind hkind => ?_).map fun _ => Reply.done
      simp only [addresses, hkind]
      exact scope.sees_singleton _
  | addEntity entity =>
      exact ((confined_addEntity entity).map fun _ => Reply.done).congr (scope.sees_singleton _)
  | removeEntity entity =>
      exact ((confined_removeEntity entity).map fun _ => Reply.done).congr
        (scope.sees_singleton _)
  | addPermission permission =>
      exact ((confined_addPermission permission).map fun _ => Reply.done).congr
        (scope.sees_singleton _)
  | removePermission permission =>
      exact ((confined_removePermission permission).map Reply.found).congr
        (scope.sees_singleton _)
  | list kind context =>
      exact ((confined_list kind context).map Reply.rows).congr (scope.sees_singleton _)
  | readPermission request =>
      exact ((confined_readPermission request).map Reply.permission).congr
        (scope.sees_singleton _)

theorem Call.state_answer (call : Call) (store : Store) :
    (call.answer.effect store).2 = (call.perform.effect store).2 := by
  cases call with
  | add kind edge context => rfl
  | remove kind edge context =>
      unfold answer perform
      rw [Action.effect_map, Action.effect_discard]
  | load label edges context =>
      unfold answer perform
      exact congrArg Prod.snd (Action.effect_map _ (fun _ => Reply.done) store)
  | addEntity entity =>
      unfold answer perform
      exact congrArg Prod.snd (Action.effect_map _ (fun _ => Reply.done) store)
  | removeEntity entity =>
      unfold answer perform
      exact congrArg Prod.snd (Action.effect_map _ (fun _ => Reply.done) store)
  | addPermission permission => rfl
  | removePermission permission =>
      unfold answer perform
      rw [Action.effect_map, Action.effect_discard]
  | list kind context => rfl
  | readPermission request => rfl

theorem alike_refl {store : Store} (h : store.Kept scope.sentinel) : Alike scope store store where
  left_kept := h
  right_kept := h
  lineage_eq := fun _ _ => rfl
  permission_eq := fun _ _ => rfl

theorem kept_empty (sentinel : String) : (empty sentinel).Kept sentinel where
  sentinel_eq := rfl
  filed := by
    intro key permission hfiled
    cases hfiled

theorem kept_of_reached {sentinel : String} {store : Store} (h : Reached sentinel store) :
    store.Kept sentinel := by
  induction h with
  | start => exact kept_empty sentinel
  | @call store call _ ih =>
      let scope : Scope := ⟨sentinel, Context.global, fun _ => True⟩
      have hscope : Alike scope store store := alike_refl ih
      have hconfined : call.answer.Confined (Alike scope) _ := call.confined_answer
      have hcalled := hconfined.preserves store store hscope
      rw [call.state_answer] at hcalled
      exact hcalled.left_kept

end Store
end Entitlement
