import Entitlement.Proofs.Hierarchies.Refines
import Entitlement.Proofs.Hierarchies.View
import Mathlib.Logic.Function.Basic

/-!
# Callers that race for a graph

Several callers ask for the graph of one hierarchy at the same time.  Each looks for a published
graph first, and takes the lock of the hierarchy only if there is none; then it looks again, and
builds the graph if there is still none.  A caller moves in small steps, between which the others
may move.

The steps of a caller are those of a question, taken apart: they enter, look, count, fetch, publish
and fail by the same actions.  `Stage.effect_walk_arriving` puts them together again: a caller whom
nobody interrupts answers what `Hierarchies.graph` answers, and leaves the same behind.
-/

namespace Entitlement
namespace Hierarchies

variable {σ : Type}

/-!
# Stages of one caller
-/

inductive Stage where
  | arriving
  | looking
  /-- A graph was published when the caller first looked. -/
  | hitting (graph : Graph)
  | waiting
  | checking
  /-- A graph was published when the caller looked again. -/
  | confirming (graph : Graph)
  | handing (graph : Graph)
  | missing
  | fetching
  /-- The caller has asked the directory and knows what comes of its answer. -/
  | settling (answer : Except Fault Graph)
  | counting (graph : Graph)
  | leaving (result : Except Fault Graph)
  | served (graph : Graph)
  | ended (result : Except Fault Graph)

namespace Stage

/-- The next step of a caller. Only the lock can keep it from being taken. -/
def move (directory : Directory σ) (key : HierarchyKey) : Stage -> Action (Hierarchies σ) Stage
  | .arriving => do
      match ← (enter key).attempt with
      | .error fault => return .ended (.error fault)
      | .ok _ => return .looking
  | .looking => do
      match (← readCache).graph? key with
      | some graph => return .hitting graph
      | none => return .waiting
  | .hitting graph => do
      updateCache (·.count fun counts => { counts with hits := counts.hits + 1 })
      return .served graph
  | .waiting => return .checking
  | .checking => do
      match (← readCache).graph? key with
      | some graph => return .confirming graph
      | none => return .missing
  | .confirming graph => do
      updateCache (·.count fun counts => { counts with hits := counts.hits + 1 })
      return .handing graph
  | .handing graph => return .served graph
  | .missing => do
      updateCache (·.count fun counts => { counts with misses := counts.misses + 1 })
      return .fetching
  | .fetching => do
      return .settling (← fetch directory key)
  | .settling (.error fault) => do
      return .leaving (← (failBuild fault).attempt)
  | .settling (.ok graph) => do
      updateCache (·.publish key graph)
      return .counting graph
  | .counting graph => do
      countBuild key graph
      return .leaving (.ok graph)
  | .leaving result => return .ended result
  | .served graph => return .served graph
  | .ended result => return .ended result

def locked : Stage -> Bool
  | .checking | .confirming _ | .handing _ | .missing | .fetching | .settling _ | .counting _
  | .leaving _ => true
  | _ => false

def result? : Stage -> Option (Except Fault Graph)
  | .served graph => some (.ok graph)
  | .ended result => some result
  | _ => none

def left : Stage -> Nat
  | .arriving => 9
  | .looking => 8
  | .waiting => 7
  | .checking => 6
  | .missing => 5
  | .fetching => 4
  | .settling _ => 3
  | .counting _ | .confirming _ => 2
  | .leaving _ | .handing _ | .hitting _ => 1
  | .served _ | .ended _ => 0

end Stage

/-!
# What a step does
-/

def afterCount (h : Hierarchies σ) (f : CacheCounts -> CacheCounts) : Hierarchies σ :=
  { h with cache := h.cache.count f }

def afterPublish (h : Hierarchies σ) (key : HierarchyKey) (graph : Graph) : Hierarchies σ :=
  { h with cache := h.cache.publish key graph }

namespace Stage

variable (directory : Directory σ) (key : HierarchyKey) {h : Hierarchies σ}

theorem effect_move_arriving (hopen : h.cache.closed = false) :
    (Stage.arriving.move directory key).effect h = (.ok .looking, h.afterEntry key) := by
  unfold move enter
  simp only [Action.effect_bind, Action.effect_attempt, effect_readCache]
  rw [if_neg (Bool.eq_false_iff.mp hopen)]
  rfl

theorem effect_move_arriving_of_closed (hclosed : h.cache.closed = true) :
    (Stage.arriving.move directory key).effect h = (.ok (.ended (.error .cacheClosed)), h) := by
  unfold move enter
  simp only [Action.effect_bind, Action.effect_attempt, effect_readCache]
  rw [if_pos hclosed]
  rfl

theorem effect_move_looking :
    (Stage.looking.move directory key).effect h =
      (.ok (match h.cache.graph? key with | some graph => .hitting graph | none => .waiting),
        h) := by
  unfold move
  rw [Action.effect_bind, effect_readCache]
  dsimp only
  cases h.cache.graph? key with
  | some graph => rfl
  | none => rfl

theorem effect_move_hitting (graph : Graph) :
    ((Stage.hitting graph).move directory key).effect h =
      (.ok (.served graph),
        h.afterCount fun counts => { counts with hits := counts.hits + 1 }) := rfl

theorem effect_move_waiting :
    (Stage.waiting.move directory key).effect h = (.ok .checking, h) := rfl

theorem effect_move_checking :
    (Stage.checking.move directory key).effect h =
      (.ok (match h.cache.graph? key with | some graph => .confirming graph | none => .missing),
        h) := by
  unfold move
  rw [Action.effect_bind, effect_readCache]
  dsimp only
  cases h.cache.graph? key with
  | some graph => rfl
  | none => rfl

theorem effect_move_confirming (graph : Graph) :
    ((Stage.confirming graph).move directory key).effect h =
      (.ok (.handing graph),
        h.afterCount fun counts => { counts with hits := counts.hits + 1 }) := rfl

theorem effect_move_handing (graph : Graph) :
    ((Stage.handing graph).move directory key).effect h = (.ok (.served graph), h) := rfl

theorem effect_move_missing :
    (Stage.missing.move directory key).effect h =
      (.ok .fetching,
        h.afterCount fun counts => { counts with misses := counts.misses + 1 }) := rfl

theorem effect_move_fetching :
    (Stage.fetching.move directory key).effect h =
      (.ok (.settling (listedGraph directory key h.directory)), h.afterFetch directory key) := by
  unfold move
  rw [Action.effect_map, effect_fetch]
  rfl

theorem effect_move_settling_error (fault : Fault) :
    ((Stage.settling (.error fault)).move directory key).effect h =
      (.ok (.leaving (.error fault)),
        h.afterCount fun counts => { counts with failedBuilds := counts.failedBuilds + 1 }) := rfl

theorem effect_move_settling_ok (graph : Graph) :
    ((Stage.settling (.ok graph)).move directory key).effect h =
      (.ok (.counting graph), h.afterPublish key graph) := rfl

theorem effect_move_counting (graph : Graph) :
    ((Stage.counting graph).move directory key).effect h =
      (.ok (.leaving (.ok graph)),
        h.afterCount fun counts => { counts with builds := counts.builds + 1 }) := rfl

theorem effect_move_leaving (result : Except Fault Graph) :
    ((Stage.leaving result).move directory key).effect h = (.ok (.ended result), h) := rfl

theorem exists_move (stage : Stage) (h : Hierarchies σ) :
    exists next later, (stage.move directory key).effect h = (.ok next, later) ∧
      (stage.result? = none -> next.left < stage.left) := by
  cases stage with
  | arriving =>
      cases hclosed : h.cache.closed with
      | true =>
          exact ⟨_, _, effect_move_arriving_of_closed directory key hclosed,
            fun _ => by simp [left]⟩
      | false => exact ⟨_, _, effect_move_arriving directory key hclosed, fun _ => by simp [left]⟩
  | looking =>
      refine ⟨_, _, effect_move_looking directory key, fun _ => ?_⟩
      cases h.cache.graph? key <;> simp [left]
  | checking =>
      refine ⟨_, _, effect_move_checking directory key, fun _ => ?_⟩
      cases h.cache.graph? key <;> simp [left]
  | hitting graph => exact ⟨_, _, effect_move_hitting directory key graph, fun _ => by simp [left]⟩
  | waiting => exact ⟨_, _, effect_move_waiting directory key, fun _ => by simp [left]⟩
  | confirming graph =>
      exact ⟨_, _, effect_move_confirming directory key graph, fun _ => by simp [left]⟩
  | handing graph => exact ⟨_, _, effect_move_handing directory key graph, fun _ => by simp [left]⟩
  | missing => exact ⟨_, _, effect_move_missing directory key, fun _ => by simp [left]⟩
  | fetching => exact ⟨_, _, effect_move_fetching directory key, fun _ => by simp [left]⟩
  | settling answer =>
      cases answer with
      | error fault =>
          exact ⟨_, _, effect_move_settling_error directory key fault, fun _ => by simp [left]⟩
      | ok graph =>
          exact ⟨_, _, effect_move_settling_ok directory key graph, fun _ => by simp [left]⟩
  | counting graph =>
      exact ⟨_, _, effect_move_counting directory key graph, fun _ => by simp [left]⟩
  | leaving result =>
      exact ⟨_, _, effect_move_leaving directory key result, fun _ => by simp [left]⟩
  | served graph => exact ⟨_, _, rfl, nofun⟩
  | ended result => exact ⟨_, _, rfl, nofun⟩

/-!
# A caller alone
-/

def walk (directory : Directory σ) (key : HierarchyKey) :
    Nat -> Stage -> Action (Hierarchies σ) Stage
  | 0, stage => return stage
  | steps + 1, stage => do walk directory key steps (← stage.move directory key)

theorem effect_walk_of_move {stage next : Stage} {after : Hierarchies σ} (steps : Nat)
    (hmove : (stage.move directory key).effect h = (.ok next, after)) :
    (walk directory key (steps + 1) stage).effect h =
      (walk directory key steps next).effect after :=
  Action.effect_bind_of_ok _ hmove

/-- A caller whom nobody interrupts does what a question does. -/
theorem effect_walk_arriving (kind : HierarchyKind) (context : Option String)
    (h : Hierarchies σ) :
    let key := h.cache.key kind context
    let answer := (graph directory kind context).effect h
    exists stage, (walk directory key 9 .arriving).effect h = (.ok stage, answer.2) ∧
      stage.result? = some answer.1 := by
  intro key answer
  cases hclosed : h.cache.closed with
  | true =>
      have hanswer : answer = (.error .cacheClosed, h) :=
        effect_graph_of_closed directory kind context hclosed
      rw [hanswer, effect_walk_of_move directory key 8
        (effect_move_arriving_of_closed directory key hclosed)]
      exact ⟨_, rfl, rfl⟩
  | false =>
      rw [effect_walk_of_move directory key 8 (effect_move_arriving directory key hclosed),
        effect_walk_of_move directory key 7 (effect_move_looking directory key)]
      cases hgraph : h.cache.graph? key with
      | some loaded =>
          have hanswer : answer = (.ok loaded, h.afterHit key) :=
            effect_graph_of_loaded directory hclosed hgraph
          have hentered : (h.afterEntry key).cache.graph? key = some loaded :=
            (Cache.graph?_withEntry _ _ _).trans hgraph
          rw [hanswer, hentered]
          exact ⟨_, rfl, rfl⟩
      | none =>
          have hanswer : answer = (build directory key).effect (h.afterMiss key) :=
            effect_graph_of_unloaded directory hclosed hgraph
          have hentered : (h.afterEntry key).cache.graph? key = none :=
            (Cache.graph?_withEntry _ _ _).trans hgraph
          have hmissing : (Stage.missing.move directory key).effect (h.afterEntry key) =
              (.ok .fetching, h.afterMiss key) := rfl
          rw [hanswer, effect_build_listed, hentered]
          dsimp only
          rw [effect_walk_of_move directory key 6 (effect_move_waiting directory key),
            effect_walk_of_move directory key 5 (effect_move_checking directory key), hentered]
          dsimp only
          rw [effect_walk_of_move directory key 4 hmissing,
            effect_walk_of_move directory key 3 (effect_move_fetching directory key)]
          cases listedGraph directory key (h.afterMiss key).directory with
          | error fault => exact ⟨_, rfl, rfl⟩
          | ok built => exact ⟨_, rfl, rfl⟩

end Stage

/-!
# Several callers
-/

/-- Callers at their stages, the holder of the lock, and who has asked the directory, in order. -/
structure Race (n : Nat) (σ : Type) where
  hierarchies : Hierarchies σ
  holder : Option (Fin n)
  stage : Fin n -> Stage
  askers : List (Fin n)

namespace Race

variable {n : Nat}

def start (h : Hierarchies σ) : Race n σ :=
  ⟨h, none, fun _ => .arriving, []⟩

def MayMove (race : Race n σ) (i : Fin n) : Prop :=
  match race.stage i with
  | .waiting => race.holder = none
  | .served _ => False
  | .ended _ => False
  | _ => True

/-- The race after a step of one caller, who holds the lock while its stage says so. -/
def after (race : Race n σ) (i : Fin n) (next : Stage) (h : Hierarchies σ) : Race n σ where
  hierarchies := h
  holder :=
    if next.locked then some i else if (race.stage i).locked then none else race.holder
  stage := Function.update race.stage i next
  askers :=
    match race.stage i with
    | .fetching => race.askers ++ [i]
    | _ => race.askers

inductive Step (directory : Directory σ) (kind : HierarchyKind)
    (contexts : Fin n -> Option String) :
    Race n σ -> Fin n -> Race n σ -> Prop where
  | move {race : Race n σ} {i : Fin n} {next : Stage} {h : Hierarchies σ} :
      race.MayMove i ->
      ((race.stage i).move directory (race.hierarchies.cache.key kind (contexts i))).effect
        race.hierarchies = (.ok next, h) ->
      Step directory kind contexts race i (race.after i next h)

inductive Plays (directory : Directory σ) (kind : HierarchyKind) (contexts : Fin n -> Option String)
    (h : Hierarchies σ) : List (Fin n) -> Race n σ -> Prop where
  | start : Plays directory kind contexts h [] (.start h)
  | step {schedule : List (Fin n)} {race next : Race n σ} {i : Fin n} :
      Plays directory kind contexts h schedule race -> Step directory kind contexts race i next ->
      Plays directory kind contexts h (schedule ++ [i]) next

def result? (race : Race n σ) (i : Fin n) : Option (Except Fault Graph) :=
  (race.stage i).result?

def Finished (race : Race n σ) : Prop :=
  forall i, (race.result? i).isSome = true

end Race
end Hierarchies
end Entitlement
