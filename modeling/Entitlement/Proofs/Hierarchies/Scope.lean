import Entitlement.Proofs.Directory.Scope
import Entitlement.Proofs.Hierarchies.Sound

/-!
# What one tenant sees of the live hierarchies

Live hierarchies are alike in a scope if their stores are alike and the same graphs of the scope are
loaded.  A call on one hierarchy builds, edits or drops the graph of that hierarchy only, and
besides the graph and the stored edges of that hierarchy it depends only on whether the cache is
closed.  So it is confined to its address.
-/

namespace Entitlement
namespace Cache

structure Alike (scope : Scope) (left right : Cache) : Prop where
  left_sentinel : left.sentinel = scope.sentinel
  right_sentinel : right.sentinel = scope.sentinel
  closed_eq : left.closed = right.closed
  graph?_eq : forall key, scope.Covers (.hierarchy key) -> left.graph? key = right.graph? key

/-- The change of a cache changes at most the graph of one hierarchy, and that by itself only. -/
structure Local (key : HierarchyKey) (f : Cache -> Cache) : Prop where
  sentinel_eq : forall cache, (f cache).sentinel = cache.sentinel
  closed_eq : forall cache, (f cache).closed = cache.closed
  other_eq : forall cache other, other ≠ key -> (f cache).graph? other = cache.graph? other
  own_eq : forall left right, left.graph? key = right.graph? key ->
    (f left).graph? key = (f right).graph? key

variable {scope : Scope} {left right : Cache} {key : HierarchyKey} {f : Cache -> Cache}

instance : Std.Symm (Alike scope) where
  symm := fun _ _ h =>
    { left_sentinel := h.right_sentinel
      right_sentinel := h.left_sentinel
      closed_eq := h.closed_eq.symm
      graph?_eq := fun key hkey => (h.graph?_eq key hkey).symm }

theorem Alike.both (h : Alike scope left right) (hf : Local key f) :
    Alike scope (f left) (f right) where
  left_sentinel := (hf.sentinel_eq left).trans h.left_sentinel
  right_sentinel := (hf.sentinel_eq right).trans h.right_sentinel
  closed_eq := by rw [hf.closed_eq, hf.closed_eq, h.closed_eq]
  graph?_eq := by
    intro other hother
    by_cases hkey : other = key
    · rw [hkey] at hother ⊢
      exact hf.own_eq left right (h.graph?_eq key hother)
    · rw [hf.other_eq left other hkey, hf.other_eq right other hkey, h.graph?_eq other hother]

theorem Alike.left_only (h : Alike scope left right) (hf : Local key f)
    (hkey : ¬ scope.Covers (.hierarchy key)) : Alike scope (f left) right where
  left_sentinel := (hf.sentinel_eq left).trans h.left_sentinel
  right_sentinel := h.right_sentinel
  closed_eq := (hf.closed_eq left).trans h.closed_eq
  graph?_eq := by
    intro other hother
    have hdifferent : other ≠ key := fun hsame => hkey (hsame ▸ hother)
    rw [hf.other_eq left other hdifferent, h.graph?_eq other hother]

theorem Alike.key_eq (h : Alike scope left right) (kind : HierarchyKind)
    (context : Option String) : left.key kind context = .of scope.sentinel kind context := by
  unfold Cache.key
  rw [h.left_sentinel]

/-!
# Changes of one graph
-/

theorem local_id : Local key fun cache => cache where
  sentinel_eq := fun _ => rfl
  closed_eq := fun _ => rfl
  other_eq := fun _ _ _ => rfl
  own_eq := fun _ _ h => h

theorem Local.count (hf : Local key f) (g : CacheCounts -> CacheCounts) :
    Local key fun cache => (f cache).count g where
  sentinel_eq := hf.sentinel_eq
  closed_eq := hf.closed_eq
  other_eq := hf.other_eq
  own_eq := hf.own_eq

theorem local_withEntry (key : HierarchyKey) : Local key (·.withEntry key) where
  sentinel_eq := fun cache => sentinel_withEntry cache key
  closed_eq := fun cache => closed_withEntry cache key
  other_eq := fun cache other _ => graph?_withEntry cache key other
  own_eq := fun left right h => by rw [graph?_withEntry, graph?_withEntry, h]

theorem local_publish (key : HierarchyKey) (graph : Graph) : Local key (·.publish key graph) where
  sentinel_eq := fun _ => rfl
  closed_eq := fun _ => rfl
  other_eq := fun cache other hother => by rw [graph?_publish, if_neg hother]
  own_eq := fun left right _ => by rw [graph?_publish, graph?_publish, if_pos rfl, if_pos rfl]

theorem local_publishChange (key : HierarchyKey) (graph : Graph) :
    Local key (·.publishChange key graph) where
  sentinel_eq := fun _ => rfl
  closed_eq := fun _ => rfl
  other_eq := fun cache other hother => by rw [graph?_publishChange, if_neg hother]
  own_eq := fun left right _ => by
    rw [graph?_publishChange, graph?_publishChange, if_pos rfl, if_pos rfl]

theorem local_drop (key : HierarchyKey) : Local key (·.drop key) where
  sentinel_eq := fun cache => sentinel_drop cache key
  closed_eq := fun cache => closed_drop cache key
  other_eq := fun cache other hother => by rw [graph?_drop, if_neg hother]
  own_eq := fun left right _ => by rw [graph?_drop, graph?_drop, if_pos rfl, if_pos rfl]

/-!
# Changes of all graphs
-/

theorem Alike.dropAll (h : Alike scope left right) :
    Alike scope left.dropAll right.dropAll where
  left_sentinel := h.left_sentinel
  right_sentinel := h.right_sentinel
  closed_eq := h.closed_eq
  graph?_eq := fun key _ => by rw [graph?_dropAll, graph?_dropAll]

theorem Alike.close (h : Alike scope left right) : Alike scope left.close right.close where
  left_sentinel := h.left_sentinel
  right_sentinel := h.right_sentinel
  closed_eq := rfl
  graph?_eq := fun _ _ => rfl

theorem Alike.count (h : Alike scope left right) (g g' : CacheCounts -> CacheCounts) :
    Alike scope (left.count g) (right.count g') where
  left_sentinel := h.left_sentinel
  right_sentinel := h.right_sentinel
  closed_eq := h.closed_eq
  graph?_eq := h.graph?_eq

end Cache

namespace Hierarchies

/-- The two live hierarchies have the same graphs and stored edges in a scope. -/
structure Alike (scope : Scope) (left right : Hierarchies Store) : Prop where
  caches : left.cache.Alike scope right.cache
  stores : left.directory.Alike scope right.directory

variable {scope : Scope} {left right : Hierarchies Store}

instance : Std.Symm (Alike scope) where
  symm := fun _ _ h => ⟨Std.Symm.symm _ _ h.caches, Std.Symm.symm _ _ h.stores⟩

theorem Alike.right_key_eq (h : Alike scope left right) (kind : HierarchyKind)
    (context : Option String) : right.cache.key kind context = .of scope.sentinel kind context :=
  (Std.Symm.symm _ _ h.caches : right.cache.Alike scope left.cache).key_eq kind context

section Locally

variable {key : HierarchyKey} {f : Cache -> Cache} (h : Alike scope left right)
  (hf : Cache.Local key f)

include h hf

theorem Alike.both :
    Alike scope { left with cache := f left.cache } { right with cache := f right.cache } :=
  ⟨h.caches.both hf, h.stores⟩

theorem Alike.left_only (hkey : ¬ scope.Covers (.hierarchy key)) :
    Alike scope { left with cache := f left.cache } right :=
  ⟨h.caches.left_only hf hkey, h.stores⟩

end Locally

theorem confined_onDirectory {α : Type} {x : Action Store α} {inside : Prop}
    (hx : x.Confined (Store.Alike scope) inside) : (onDirectory x).Confined (Alike scope) inside :=
  hx.within (fun _ _ h => h.stores) (fun _ _ _ _ h hstores => ⟨h.caches, hstores⟩) fun _ => rfl

theorem confined_updateCache {key : HierarchyKey} {f : Cache -> Cache}
    (hf : Cache.Local key f) :
    (updateCache f).Confined (Alike scope) (scope.Covers (.hierarchy key)) where
  agrees := fun _ _ _ h => ⟨rfl, h.both hf⟩
  invisible := fun hkey _ _ h => h.left_only hf hkey

/-!
# Builds and questions
-/

section Actions

variable (scope) (kind : HierarchyKind) (context : Option String)

theorem confined_failBuild {α : Type} {key : HierarchyKey} (fault : Fault) :
    (failBuild fault : Action (Hierarchies Store) α).Confined (Alike scope)
      (scope.Covers (.hierarchy key)) := by
  refine (confined_updateCache (Cache.local_id.count _)).bind fun _ _ _ _ _ => ?_
  exact Action.confined_of_const (Action.effect_fail fault)

theorem confined_reportRefusal {key : HierarchyKey} (listed : HierarchyKey) (cause : Fault) :
    (reportRefusal listed cause : Action (Hierarchies Store) Unit).Confined (Alike scope)
      (scope.Covers (.hierarchy key)) :=
  Action.confined_of_const (effect_reportRefusal listed cause)

theorem confined_countBuild {key : HierarchyKey} (built : HierarchyKey) (graph : Graph) :
    (countBuild built graph : Action (Hierarchies Store) Unit).Confined (Alike scope)
      (scope.Covers (.hierarchy key)) :=
  (confined_updateCache (Cache.local_id.count _)).bind fun _ _ _ _ _ =>
    Action.confined_report _ _ _

theorem confined_fetch :
    (fetch Store.directory (.of scope.sentinel kind context)).Confined (Alike scope)
      (scope.Covers (.hierarchyOf scope.sentinel kind context)) := by
  let key := HierarchyKey.of scope.sentinel kind context
  have hlist : (Store.list kind (some key.context)).Confined (Store.Alike scope) _ :=
    Store.confined_list kind (some key.context)
  unfold Address.hierarchyOf at hlist ⊢
  rw [show HierarchyKey.of scope.sentinel kind _ = .of scope.sentinel kind context from
    HierarchyKey.of_of scope.sentinel kind context] at hlist
  refine (Action.confined_report _ _ _).bind fun _ _ _ _ _ => ?_
  refine (confined_onDirectory hlist).attempt.bind fun listed _ _ _ _ => ?_
  cases listed with
  | error cause => exact Action.confined_pure _
  | ok rows =>
      refine (Action.confined_of_const (Graph.effect_ofRows rows)).attempt.bind
        fun built _ _ _ _ => ?_
      cases built with
      | error cause =>
          exact (confined_reportRefusal scope _ cause).bind fun _ _ _ _ _ => Action.confined_pure _
      | ok graph => exact Action.confined_pure _

theorem confined_build :
    (build Store.directory (.of scope.sentinel kind context)).Confined (Alike scope)
      (scope.Covers (.hierarchyOf scope.sentinel kind context)) := by
  refine (confined_fetch scope kind context).bind fun listed _ _ _ _ => ?_
  cases listed with
  | error fault => exact confined_failBuild scope fault
  | ok graph =>
      refine (confined_updateCache (Cache.local_publish _ graph)).bind fun _ _ _ _ _ => ?_
      exact (confined_countBuild scope _ graph).bind fun _ _ _ _ _ => Action.confined_pure graph

/--
An action that asks for the graph of a hierarchy is confined to it.  Such an action fails if the
cache is closed; it answers the graph that is loaded, or else it builds one.
-/
theorem confined_of_access {x : Action (Hierarchies Store) Graph} {hit miss : Cache -> Cache}
    (hhit : Cache.Local (.of scope.sentinel kind context) hit)
    (hmiss : Cache.Local (.of scope.sentinel kind context) miss)
    (hx : forall h : Hierarchies Store,
      h.cache.key kind context = .of scope.sentinel kind context ->
      x.effect h =
        if h.cache.closed then (.error .cacheClosed, h)
        else
          match h.cache.graph? (.of scope.sentinel kind context) with
          | some graph => (.ok graph, { h with cache := hit h.cache })
          | none =>
              (build Store.directory (.of scope.sentinel kind context)).effect
                { h with cache := miss h.cache }) :
    x.Confined (Alike scope) (scope.Covers (.hierarchyOf scope.sentinel kind context)) where
  agrees := by
    intro hkey left right h
    rw [hx left (h.caches.key_eq kind context), hx right (h.right_key_eq kind context),
      h.caches.closed_eq, h.caches.graph?_eq _ hkey]
    cases right.cache.closed with
    | true => exact ⟨rfl, h⟩
    | false =>
        cases right.cache.graph? (.of scope.sentinel kind context) with
        | some graph => exact ⟨rfl, h.both hhit⟩
        | none => exact (confined_build scope kind context).agrees hkey _ _ (h.both hmiss)
  invisible := by
    intro hkey left right h
    rw [hx left (h.caches.key_eq kind context)]
    cases left.cache.closed with
    | true => exact h
    | false =>
        cases left.cache.graph? (.of scope.sentinel kind context) with
        | some graph => exact h.left_only hhit hkey
        | none =>
            exact (confined_build scope kind context).invisible hkey _ _ (h.left_only hmiss hkey)

theorem confined_graph :
    (graph Store.directory kind context).Confined (Alike scope)
      (scope.Covers (.hierarchyOf scope.sentinel kind context)) := by
  have hentry := Cache.local_withEntry (.of scope.sentinel kind context)
  have hhit := hentry.count fun counts => { counts with hits := counts.hits + 1 }
  have hmiss := hentry.count fun counts => { counts with misses := counts.misses + 1 }
  refine confined_of_access scope kind context hhit hmiss fun h hkey => ?_
  have heffect := effect_graph Store.directory kind context h
  rw [hkey] at heffect
  exact heffect

theorem confined_ask {α : Type} (query : Graph -> α) :
    (ask Store.directory kind context query).Confined (Alike scope)
      (scope.Covers (.hierarchyOf scope.sentinel kind context)) :=
  (confined_graph scope kind context).map query

/-!
# Changes
-/

theorem confined_prepare :
    (prepare Store.directory kind context).Confined (Alike scope)
      (scope.Covers (.hierarchyOf scope.sentinel kind context)) := by
  refine confined_of_access scope kind context (Cache.local_withEntry _)
    (Cache.local_withEntry _) fun h hkey => ?_
  have heffect := effect_prepare Store.directory kind context h
  rw [effect_graphToChange, Cache.graph?_withEntry, hkey] at heffect
  exact heffect

theorem local_afterChange (key : HierarchyKey) (graph : Graph) (changed : Bool) :
    Cache.Local key fun cache =>
      (if changed then cache.publishChange key graph else cache).count fun counts =>
        { counts with mutations := counts.mutations + 1 } := by
  cases changed with
  | true => exact (Cache.local_publishChange key graph).count _
  | false => exact Cache.local_id.count _

theorem confined_change (edge : Relationship) (label : Option String) :
    (change Store.directory kind context edge label).Confined (Alike scope)
      (scope.Covers (.hierarchyOf scope.sentinel kind context)) where
  agrees := by
    intro hkey left right h
    have hprepared := (confined_prepare scope kind context).agrees hkey left right h
    rw [effect_change, effect_change, h.caches.key_eq, h.right_key_eq]
    generalize (prepare Store.directory kind context).effect left = prepared at hprepared ⊢
    generalize (prepare Store.directory kind context).effect right = prepared' at hprepared ⊢
    rcases prepared with ⟨answer, ready⟩
    rcases prepared' with ⟨answer', ready'⟩
    rcases hprepared with ⟨hanswer, hready⟩
    simp only at hanswer hready
    rw [hanswer]
    cases answer' with
    | error fault => exact ⟨rfl, hready⟩
    | ok current =>
        simp only
        cases Change.parse label with
        | error fault => exact ⟨rfl, hready⟩
        | ok change =>
            simp only
            rcases (Graph.apply edge change).effect current with ⟨edited, updated⟩
            cases edited with
            | error fault => exact ⟨rfl, hready⟩
            | ok changed =>
                have hafter := hready.both
                  (local_afterChange (.of scope.sentinel kind context) updated changed)
                exact ⟨rfl, hafter⟩
  invisible := by
    intro hkey left right h
    have hprepared := (confined_prepare scope kind context).invisible hkey left right h
    rw [effect_change, h.caches.key_eq]
    generalize (prepare Store.directory kind context).effect left = prepared at hprepared ⊢
    rcases prepared with ⟨answer, ready⟩
    cases answer with
    | error fault => exact hprepared
    | ok current =>
        simp only
        cases Change.parse label with
        | error fault => exact hprepared
        | ok change =>
            simp only
            rcases (Graph.apply edge change).effect current with ⟨edited, updated⟩
            cases edited with
            | error fault => exact hprepared
            | ok changed =>
                have hafter := hprepared.left_only
                  (local_afterChange (.of scope.sentinel kind context) updated changed) hkey
                exact hafter

theorem confined_update (edge : Relationship) (label : Option String) :
    (update Store.directory kind context edge label).Confined (Alike scope)
      (scope.Covers (.hierarchyOf scope.sentinel kind context)) where
  agrees := by
    intro hkey left right h
    rw [effect_update, effect_update]
    exact (confined_change scope kind context edge label).agrees hkey left right h
  invisible := by
    intro hkey left right h
    rw [effect_update]
    exact (confined_change scope kind context edge label).invisible hkey left right h

/-!
# Dropped graphs
-/

theorem local_invalidated (key : HierarchyKey) :
    Cache.Local key fun cache =>
      (cache.drop key).count fun counts =>
        { counts with invalidations := counts.invalidations + 1 } :=
  (Cache.local_drop key).count _

theorem confined_invalidate :
    (invalidate kind context : Action (Hierarchies Store) Bool).Confined (Alike scope)
      (scope.Covers (.hierarchyOf scope.sentinel kind context)) where
  agrees := by
    intro hkey left right h
    have hdropped := h.both (local_invalidated (.of scope.sentinel kind context))
    rw [effect_invalidate, effect_invalidate, h.caches.key_eq, h.right_key_eq]
    unfold Cache.isLoaded
    rw [h.caches.graph?_eq _ hkey]
    cases (right.cache.graph? (.of scope.sentinel kind context)).isSome with
    | true => exact ⟨rfl, hdropped⟩
    | false => exact ⟨rfl, h⟩
  invisible := by
    intro hkey left right h
    have hdropped := h.left_only (local_invalidated (.of scope.sentinel kind context)) hkey
    rw [effect_invalidate, h.caches.key_eq]
    cases left.cache.isLoaded (.of scope.sentinel kind context) with
    | true => exact hdropped
    | false => exact h

theorem agrees_clear : (clear : Action (Hierarchies Store) Unit).Agrees (Alike scope) := by
  intro left right h
  rw [effect_clear, effect_clear]
  refine ⟨rfl, ?_, h.stores⟩
  dsimp only
  exact h.caches.dropAll.count _ _

theorem agrees_close : (close : Action (Hierarchies Store) Unit).Agrees (Alike scope) := by
  intro left right h
  rw [effect_close, effect_close]
  refine ⟨rfl, ?_, h.stores⟩
  dsimp only
  exact (h.caches.dropAll.count _ _).close

/-!
# Questions
-/

theorem confined_inherited (roles : List (Option String)) :
    (inherited Store.directory kind roles context).Confined (Alike scope)
      (scope.Covers (.hierarchyOf scope.sentinel kind context)) := by
  unfold inherited
  dsimp only
  split
  · exact Action.confined_pure []
  · exact confined_ask scope kind context _

end Actions

end Hierarchies
end Entitlement
