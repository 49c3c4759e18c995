import Entitlement.Cache
import Entitlement.Proofs.Table

/-!
# The graphs of a cache

What each change of a cache does to the graph and to the version under every key, to the keys that
have an entry, and to the number of graphs.
-/

namespace Entitlement

namespace Cache

variable (cache : Cache) (key other : HierarchyKey)

@[simp] theorem graph?_empty (sentinel : String) : (empty sentinel).graph? key = none := rfl

@[simp] theorem graph?_count (f : CacheCounts -> CacheCounts) :
    (cache.count f).graph? key = cache.graph? key := rfl

@[simp] theorem graph?_withEntry : (cache.withEntry key).graph? other = cache.graph? other := by
  unfold withEntry
  cases hentry : cache.entries.get? key with
  | some entry => rfl
  | none =>
      unfold graph?
      simp only
      rw [Table.get?_put]
      by_cases hsame : other = key
      · rw [if_pos hsame, hsame, hentry]
        rfl
      · rw [if_neg hsame]

@[simp] theorem graph?_publish (graph : Graph) :
    (cache.publish key graph).graph? other =
      if other = key then some graph else cache.graph? other := by
  unfold publish graph?
  rw [Table.get?_put]
  split <;> rfl

@[simp] theorem graph?_publishChange (graph : Graph) :
    (cache.publishChange key graph).graph? other =
      if other = key then some graph else cache.graph? other := by
  unfold publishChange graph?
  rw [Table.get?_put]
  split <;> rfl

@[simp] theorem graph?_drop :
    (cache.drop key).graph? other = if other = key then none else cache.graph? other := by
  unfold drop graph?
  cases hentry : cache.entries.get? key with
  | none =>
      by_cases hsame : other = key
      · rw [if_pos hsame, hsame, hentry]
        rfl
      · rw [if_neg hsame]
  | some entry =>
      simp only
      rw [Table.get?_put]
      split <;> rfl

@[simp] theorem graph?_dropAll : cache.dropAll.graph? key = none := by
  unfold dropAll graph?
  simp only
  rw [Table.get?_mapRows fun _ (entry : CacheEntry) => { entry with graph := none }]
  cases cache.entries.get? key with
  | none => rfl
  | some entry => rfl

@[simp] theorem graph?_close : cache.close.graph? key = none := rfl

/-!
The sentinel never changes, so that a context means the same hierarchy throughout.
-/

@[simp] theorem sentinel_count (f : CacheCounts -> CacheCounts) :
    (cache.count f).sentinel = cache.sentinel := rfl

@[simp] theorem sentinel_withEntry : (cache.withEntry key).sentinel = cache.sentinel := by
  unfold withEntry
  split <;> rfl

@[simp] theorem sentinel_publish (graph : Graph) :
    (cache.publish key graph).sentinel = cache.sentinel := rfl

@[simp] theorem sentinel_publishChange (graph : Graph) :
    (cache.publishChange key graph).sentinel = cache.sentinel := rfl

@[simp] theorem sentinel_drop : (cache.drop key).sentinel = cache.sentinel := by
  unfold drop
  split <;> rfl

@[simp] theorem sentinel_dropAll : cache.dropAll.sentinel = cache.sentinel := rfl

@[simp] theorem sentinel_close : cache.close.sentinel = cache.sentinel := rfl

/-!
An entry alone is not counted.
-/

@[simp] theorem counts_withEntry : (cache.withEntry key).counts = cache.counts := by
  unfold withEntry
  split <;> rfl

/-!
A cache is closed by nothing but closing it.
-/

@[simp] theorem closed_withEntry : (cache.withEntry key).closed = cache.closed := by
  unfold withEntry
  split <;> rfl

@[simp] theorem closed_drop : (cache.drop key).closed = cache.closed := by
  unfold drop
  split <;> rfl

/-!
The version of a hierarchy is counted up by a published change and by nothing else.
-/

theorem version_of_get?_eq_none {key : HierarchyKey} (h : cache.entries.get? key = none) :
    cache.version key = 0 := by
  unfold version
  rw [h]

@[simp] theorem version_empty (sentinel : String) : (empty sentinel).version key = 0 := rfl

@[simp] theorem version_count (f : CacheCounts -> CacheCounts) :
    (cache.count f).version key = cache.version key := rfl

theorem version_put (entry : CacheEntry) :
    ({ cache with entries := cache.entries.put key entry } : Cache).version other =
      if other = key then entry.version else cache.version other := by
  unfold version
  simp only
  rw [Table.get?_put]
  by_cases hsame : other = key
  · rw [if_pos hsame, if_pos hsame]
  · rw [if_neg hsame, if_neg hsame]

@[simp] theorem version_withEntry :
    (cache.withEntry key).version other = cache.version other := by
  unfold withEntry
  cases hentry : cache.entries.get? key with
  | some entry => rfl
  | none =>
      simp only
      rw [version_put]
      by_cases hsame : other = key
      · rw [if_pos hsame, hsame, version_of_get?_eq_none cache hentry]
      · rw [if_neg hsame]

@[simp] theorem version_publish (graph : Graph) :
    (cache.publish key graph).version other = cache.version other := by
  unfold publish
  rw [version_put]
  by_cases hsame : other = key
  · rw [if_pos hsame, hsame]
  · rw [if_neg hsame]

@[simp] theorem version_publishChange (graph : Graph) :
    (cache.publishChange key graph).version other =
      if other = key then cache.version key + 1 else cache.version other :=
  version_put cache key other _

@[simp] theorem version_drop : (cache.drop key).version other = cache.version other := by
  unfold drop
  cases hentry : cache.entries.get? key with
  | none => rfl
  | some entry =>
      simp only
      rw [version_put]
      by_cases hsame : other = key
      · rw [if_pos hsame, hsame]
        unfold version
        rw [hentry]
      · rw [if_neg hsame]

@[simp] theorem version_dropAll : cache.dropAll.version key = cache.version key := by
  unfold dropAll version
  simp only
  rw [Table.get?_mapRows fun _ (entry : CacheEntry) => { entry with graph := none }]
  cases cache.entries.get? key with
  | none => rfl
  | some entry => rfl

@[simp] theorem version_close : cache.close.version key = 0 := rfl

/-!
The loaded graphs are counted.  A graph that is published is one more unless it takes the place of
another, and one that is dropped is one less.
-/

theorem isLoaded_eq :
    cache.isLoaded key = (cache.entries.get? key).any fun entry => entry.graph.isSome := by
  unfold isLoaded graph?
  cases cache.entries.get? key with
  | none => rfl
  | some entry => rfl

theorem loaded_put (entry : CacheEntry) :
    ({ cache with entries := cache.entries.put key entry } : Cache).loaded +
        (cache.isLoaded key).toNat = cache.loaded + entry.graph.isSome.toNat := by
  rw [isLoaded_eq]
  exact Table.countP_put (fun entry => entry.graph.isSome) key entry cache.entries

theorem isLoaded_eq_false {key : HierarchyKey} (h : cache.graph? key = none) :
    cache.isLoaded key = false := by
  unfold isLoaded
  rw [h]
  rfl

theorem isLoaded_eq_true {key : HierarchyKey} {graph : Graph} (h : cache.graph? key = some graph) :
    cache.isLoaded key = true := by
  unfold isLoaded
  rw [h]
  rfl

@[simp] theorem loaded_count (f : CacheCounts -> CacheCounts) :
    (cache.count f).loaded = cache.loaded := rfl

@[simp] theorem loaded_withEntry : (cache.withEntry key).loaded = cache.loaded := by
  unfold withEntry
  cases hentry : cache.entries.get? key with
  | some entry => rfl
  | none =>
      have hput := cache.loaded_put key ⟨none, 0⟩
      rw [isLoaded_eq, hentry] at hput
      exact hput

theorem loaded_publish (graph : Graph) :
    (cache.publish key graph).loaded + (cache.isLoaded key).toNat = cache.loaded + 1 :=
  cache.loaded_put key ⟨some graph, cache.version key⟩

theorem loaded_publishChange (graph : Graph) :
    (cache.publishChange key graph).loaded + (cache.isLoaded key).toNat = cache.loaded + 1 :=
  cache.loaded_put key ⟨some graph, cache.version key + 1⟩

theorem loaded_drop : (cache.drop key).loaded + (cache.isLoaded key).toNat = cache.loaded := by
  unfold drop
  cases hentry : cache.entries.get? key with
  | some entry => exact cache.loaded_put key { entry with graph := none }
  | none =>
      rw [isLoaded_eq, hentry]
      rfl

@[simp] theorem loaded_dropAll : cache.dropAll.loaded = 0 := by
  unfold dropAll loaded
  rw [List.countP_map]
  exact List.countP_false ▸ rfl

@[simp] theorem loaded_close : cache.close.loaded = 0 := rfl

theorem loaded_le_size : cache.loaded ≤ cache.size :=
  List.countP_le_length

/-!
Entries are added and never removed, until the cache is closed.
-/

def keys (cache : Cache) : List HierarchyKey :=
  cache.entries.map Prod.fst

theorem length_keys : cache.keys.length = cache.size :=
  List.length_map _

theorem mem_keys_withEntry :
    other ∈ (cache.withEntry key).keys ↔ other = key ∨ other ∈ cache.keys := by
  unfold withEntry
  cases hentry : cache.entries.get? key with
  | none => exact Table.mem_keys_put key other _ cache.entries
  | some entry =>
      apply Iff.intro Or.inr
      intro hmember
      rcases hmember with hsame | hold
      · rw [hsame]
        exact Table.mem_keys_of_get? hentry
      · exact hold

theorem nodup_keys_withEntry (h : cache.keys.Nodup) : (cache.withEntry key).keys.Nodup := by
  unfold withEntry
  cases cache.entries.get? key with
  | none => exact Table.nodup_keys_put key _ h
  | some entry => exact h

theorem mem_keys_drop : other ∈ (cache.drop key).keys ↔ other ∈ cache.keys := by
  unfold drop
  cases hentry : cache.entries.get? key with
  | none => exact Iff.rfl
  | some entry =>
      apply (Table.mem_keys_put key other _ cache.entries).trans
      apply Iff.intro _ Or.inr
      intro hmember
      rcases hmember with hsame | hold
      · rw [hsame]
        exact Table.mem_keys_of_get? hentry
      · exact hold

theorem nodup_keys_drop (h : cache.keys.Nodup) : (cache.drop key).keys.Nodup := by
  unfold drop
  cases cache.entries.get? key with
  | none => exact h
  | some entry => exact Table.nodup_keys_put key _ h

theorem keys_dropAll : cache.dropAll.keys = cache.keys := by
  unfold keys dropAll
  rw [List.map_map]
  rfl

end Cache

end Entitlement
