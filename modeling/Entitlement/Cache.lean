import Entitlement.Decimal
import Entitlement.Graph.Basic
import Entitlement.Table

/-!
# The hierarchy cache

The cache holds at most one graph for each hierarchy, counts what happens to it, and can be closed
for good. A graph that is dropped leaves its entry behind, so that the version of an entry counts
the effective changes since the entry was made.
-/

namespace Entitlement

structure CacheEntry where
  graph : Option Graph
  version : Nat

structure CacheCounts where
  hits : Nat
  misses : Nat
  builds : Nat
  failedBuilds : Nat
  mutations : Nat
  invalidations : Nat
  deriving DecidableEq, Repr

structure Cache where
  sentinel : String
  entries : Table HierarchyKey CacheEntry
  counts : CacheCounts
  closed : Bool

namespace Cache

def empty (sentinel : String) : Cache :=
  ⟨sentinel, [], ⟨0, 0, 0, 0, 0, 0⟩, false⟩

def key (cache : Cache) (kind : HierarchyKind) (context : Option String) : HierarchyKey :=
  HierarchyKey.of cache.sentinel kind context

def graph? (cache : Cache) (key : HierarchyKey) : Option Graph :=
  (cache.entries.get? key).bind (·.graph)

/-- The number of effective changes of a hierarchy since its entry was made. -/
def version (cache : Cache) (key : HierarchyKey) : Nat :=
  match cache.entries.get? key with
  | some entry => entry.version
  | none => 0

def isLoaded (cache : Cache) (key : HierarchyKey) : Bool :=
  (cache.graph? key).isSome

def size (cache : Cache) : Nat :=
  cache.entries.length

def loaded (cache : Cache) : Nat :=
  cache.entries.countP fun row => row.2.graph.isSome

def hitRate (cache : Cache) : String :=
  let total := cache.counts.hits + cache.counts.misses
  if total = 0 then Decimal.ofRatio 6 0 1 else Decimal.ofRatio 6 cache.counts.hits total

def summary (cache : Cache) : String :=
  s!"HierarchyCache(keys={cache.size}, closed={Text.shownBool cache.closed})"

/-!
# Changes of a cache
-/

def withEntry (cache : Cache) (key : HierarchyKey) : Cache :=
  match cache.entries.get? key with
  | some _ => cache
  | none => { cache with entries := cache.entries.put key ⟨none, 0⟩ }

/-- The cache with a freshly built graph, whose entry keeps its version. -/
def publish (cache : Cache) (key : HierarchyKey) (graph : Graph) : Cache :=
  { cache with entries := cache.entries.put key ⟨some graph, cache.version key⟩ }

def publishChange (cache : Cache) (key : HierarchyKey) (graph : Graph) : Cache :=
  { cache with entries := cache.entries.put key ⟨some graph, cache.version key + 1⟩ }

def drop (cache : Cache) (key : HierarchyKey) : Cache :=
  match cache.entries.get? key with
  | some entry => { cache with entries := cache.entries.put key { entry with graph := none } }
  | none => cache

def dropAll (cache : Cache) : Cache :=
  { cache with entries := cache.entries.map fun row => (row.1, { row.2 with graph := none }) }

def close (cache : Cache) : Cache :=
  { cache with entries := [], closed := true }

def count (cache : Cache) (f : CacheCounts -> CacheCounts) : Cache :=
  { cache with counts := f cache.counts }

end Cache

end Entitlement
