import Entitlement.Cache
import Entitlement.Directory

/-!
# Live hierarchies

The live hierarchies are a cache in front of a directory. A graph is built from the rows of the
directory when it is first needed; after that it changes only by the changes that are announced to
it, until it is dropped.

## Failures

A build publishes a complete graph or nothing. A fault of the engine's own families passes through
a build; any other is wrapped in a fault that names the hierarchy. A change that fails leaves the
published graph as it is.
-/

namespace Entitlement

structure Hierarchies (σ : Type) where
  cache : Cache
  directory : σ

namespace Hierarchies

variable {σ : Type}

def onDirectory {α : Type} (x : Action σ α) : Action (Hierarchies σ) α :=
  x.within (·.directory) fun hierarchies directory => { hierarchies with directory }

def readCache : Action (Hierarchies σ) Cache := do
  return (← Action.read).cache

def updateCache (f : Cache -> Cache) : Action (Hierarchies σ) Unit :=
  Action.update fun hierarchies => { hierarchies with cache := f hierarchies.cache }

def enter (key : HierarchyKey) : Action (Hierarchies σ) Unit := do
  if (← readCache).closed then
    Action.fail .cacheClosed
  else
    updateCache (·.withEntry key)

def failBuild {α : Type} (fault : Fault) : Action (Hierarchies σ) α := do
  updateCache (·.count fun counts => { counts with failedBuilds := counts.failedBuilds + 1 })
  Action.fail fault

def unreadable (key : HierarchyKey) (cause : Fault) : Fault :=
  if cause.isOwn then cause else .unreadableHierarchy key cause

def refused (key : HierarchyKey) (cause : Fault) : Fault :=
  if cause.isOwn then cause else .malformedHierarchy key cause

def reportRefusal (key : HierarchyKey) (cause : Fault) : Action (Hierarchies σ) Unit := do
  if cause.isCycle then
    Action.report .cache .error
      s!"Directory store hierarchy [{key.label}] is cyclic: {cause.message}"
  else if cause.isOwn then
    return ()
  else
    Action.report .cache .error
      s!"Directory store hierarchy [{key.label}] is malformed: {cause.message}"

/-- Ask the directory for a hierarchy and build its graph, without publishing it. -/
def fetch (directory : Directory σ) (key : HierarchyKey) :
    Action (Hierarchies σ) (Except Fault Graph) := do
  Action.report .cache .info s!"Building hierarchy [{key.label}] from directory store"
  match ← (onDirectory (directory.list key.kind key.context)).attempt with
  | .error cause => return .error (unreadable key cause)
  | .ok rows =>
      match ← (Graph.ofRows rows).attempt with
      | .error cause =>
          reportRefusal key cause
          return .error (refused key cause)
      | .ok graph => return .ok graph

def countBuild (key : HierarchyKey) (graph : Graph) : Action (Hierarchies σ) Unit := do
  updateCache (·.count fun counts => { counts with builds := counts.builds + 1 })
  Action.report .cache .info
    s!"Built hierarchy [{key.label}]: {graph.size} vertices, {graph.edgeCount} edges"

def build (directory : Directory σ) (key : HierarchyKey) : Action (Hierarchies σ) Graph := do
  match ← fetch directory key with
  | .error fault => failBuild fault
  | .ok graph =>
      updateCache (·.publish key graph)
      countBuild key graph
      return graph

def graph (directory : Directory σ) (kind : HierarchyKind) (context : Option String) :
    Action (Hierarchies σ) Graph := do
  let key := (← readCache).key kind context
  enter key
  match (← readCache).graph? key with
  | some graph =>
      updateCache (·.count fun counts => { counts with hits := counts.hits + 1 })
      return graph
  | none =>
      updateCache (·.count fun counts => { counts with misses := counts.misses + 1 })
      build directory key

/-- The graph that a change starts from. It is built if need be, without counting a miss. -/
def graphToChange (directory : Directory σ) (key : HierarchyKey) :
    Action (Hierarchies σ) Graph := do
  match (← readCache).graph? key with
  | some graph => return graph
  | none => build directory key

/--
Apply a change to the graph of a hierarchy and answer whether it changed the set of edges. The
label of the change is read only when the graph is at hand.
-/
def change (directory : Directory σ) (kind : HierarchyKind) (context : Option String)
    (edge : Relationship) (label : Option String) : Action (Hierarchies σ) Bool := do
  let key := (← readCache).key kind context
  enter key
  let current ← graphToChange directory key
  let change ← Action.ofResult (Change.parse label)
  match ← (Graph.onCopy current (Graph.apply edge change)).attempt with
  | .error fault =>
      if fault.isCycle then
        Action.report .cache .warning
          s!"Rejected {change.label} of [{edge.label}] on hierarchy [{key.label}]"
      Action.fail fault
  | .ok (updated, changed) =>
      if changed then
        updateCache (·.publishChange key updated)
      updateCache (·.count fun counts => { counts with mutations := counts.mutations + 1 })
      Action.report .cache .debug
        (s!"Hierarchy [{key.label}] {change.label} [{edge.label}] "
          ++ s!"changed={Text.shownBool changed}")
      return changed

def invalidate (kind : HierarchyKind) (context : Option String) :
    Action (Hierarchies σ) Bool := do
  let key := (← readCache).key kind context
  if (← readCache).isLoaded key then
    updateCache fun cache =>
      (cache.drop key).count fun counts => { counts with invalidations := counts.invalidations + 1 }
    Action.report .cache .info s!"Invalidated hierarchy [{key.label}]"
    return true
  else
    return false

def clear : Action (Hierarchies σ) Unit := do
  let cache ← readCache
  updateCache fun cache =>
    cache.dropAll.count fun counts =>
      { counts with invalidations := counts.invalidations + cache.loaded }
  Action.report .cache .info s!"Cleared {cache.size} hierarchy cache entries"

def close : Action (Hierarchies σ) Unit := do
  clear
  updateCache (·.close)
  Action.report .cache .info "Hierarchy cache closed"

end Hierarchies

end Entitlement
