import Entitlement.Directory.Scripted
import Entitlement.Proofs.Graph.FirstFailure
import Entitlement.Proofs.Hierarchies.Later

/-!
# All or nothing

A build publishes the graph of all rows that it was given, or nothing.  Which of the two it does is
settled by the listing and by the first step that fails, if there is one.  A failed build is counted
and otherwise forgotten: the next question asks the directory anew, and everything that follows goes
as if the failed question had not been asked.
-/

namespace Entitlement
namespace Hierarchies

variable {σ : Type} {key : HierarchyKey} {before after : Hierarchies σ} {state : σ}

/-!
# Specification
-/

/-- How the fault that has ended a build is raised: the engine's own faults, and so refusals for a
cycle, as they are, and all others wrapped. -/
inductive Raises (key : HierarchyKey) (cause : Fault) : Fault -> Prop where
  | own : cause.isOwn = true -> Raises key cause cause
  | foreign {raised : Fault} : cause.isOwn = false -> raised.family = .directory ->
      raised.cause? = some cause ->
      raised.details =
        ([("kind", key.kind.label), ("context_id", key.context)] : List (String × Value)) ->
      Raises key cause raised

/-- What a build comes to, given what the directory has answered. -/
inductive Foretold (key : HierarchyKey) :
    Except Fault (List Row) -> Except Fault Graph -> Prop where
  | unreadable {cause raised : Fault} :
      Raises key cause raised -> Foretold key (.error cause) (.error raised)
  | stopped {rows : List Row} {cause raised : Fault} :
      Graph.Decided [] (rows.flatMap Row.steps) (.error cause) -> Raises key cause raised ->
      Foretold key (.ok rows) (.error raised)
  | complete {rows : List Row} {graph : Graph} :
      Graph.Decided [] (rows.flatMap Row.steps) (.ok graph) -> Foretold key (.ok rows) (.ok graph)

/-- Only the entry of one hierarchy is another one afterwards, but it keeps its version. -/
structure Elsewhere (key : HierarchyKey) (before after : Hierarchies σ) : Prop where
  closed_eq : after.cache.closed = before.cache.closed
  other_eq : forall other, other ≠ key ->
    after.cache.entries.get? other = before.cache.entries.get? other
  version_eq : forall other, after.cache.version other = before.cache.version other

structure Published (key : HierarchyKey) (graph : Graph) (before after : Hierarchies σ) : Prop
    extends Elsewhere key before after where
  graph?_eq : after.cache.graph? key = some graph
  counts_eq : after.cache.counts =
    { before.cache.counts with
      misses := before.cache.counts.misses + 1
      builds := before.cache.counts.builds + 1 }

structure Unpublished (directory : Directory σ) (kind : HierarchyKind) (context : Option String)
    (before after : Hierarchies σ) : Prop
    extends Elsewhere (before.cache.key kind context) before after where
  graph?_eq : after.cache.graph? (before.cache.key kind context) = none
  counts_eq : after.cache.counts =
    { before.cache.counts with
      misses := before.cache.counts.misses + 1
      failedBuilds := before.cache.counts.failedBuilds + 1 }
  asked_eq : asked directory (.graph kind context) after =
    [listing directory (before.cache.key kind context) after.directory]
  replies_eq : forall turns, replies directory turns after =
    replies directory turns { before with directory := after.directory }

/-!
# What is raised
-/

theorem raises_unreadable (key : HierarchyKey) (cause : Fault) :
    Raises key cause (unreadable key cause) := by
  unfold unreadable
  cases hown : cause.isOwn with
  | true => exact Raises.own hown
  | false => exact Raises.foreign hown rfl rfl rfl

theorem raises_refused (key : HierarchyKey) (cause : Fault) :
    Raises key cause (refused key cause) := by
  unfold refused
  cases hown : cause.isOwn with
  | true => exact Raises.own hown
  | false => exact Raises.foreign hown rfl rfl rfl

/-!
# Builds
-/

theorem elsewhere_afterMiss (h : Hierarchies σ) (key : HierarchyKey) :
    Elsewhere key h (h.afterMiss key) where
  closed_eq := h.cache.closed_withEntry key
  other_eq := by
    intro other hother
    show (h.cache.withEntry key).entries.get? other = _
    unfold Cache.withEntry
    split
    · rfl
    · rw [Table.get?_put, if_neg hother]
  version_eq := h.cache.version_withEntry key

theorem Elsewhere.afterFailure (h : Elsewhere key before after) (state : σ) :
    Elsewhere key before (after.afterFailure state) :=
  ⟨h.closed_eq, h.other_eq, h.version_eq⟩

theorem Elsewhere.afterBuild (h : Elsewhere key before after) (graph : Graph) (state : σ) :
    Elsewhere key before (after.afterBuild key graph state) where
  closed_eq := h.closed_eq
  other_eq := by
    intro other hother
    rw [← h.other_eq other hother]
    exact (Table.get?_put _ _ _ _).trans (if_neg hother)
  version_eq := by
    intro other
    rw [← h.version_eq other]
    exact Cache.version_publish _ _ _ _

theorem foretold_build (directory : Directory σ) (key : HierarchyKey) (h : Hierarchies σ) :
    exists result, Foretold key ((directory.list key.kind (some key.context)).effect h.directory).1
        result ∧
      (build directory key).effect h =
        let state := ((directory.list key.kind (some key.context)).effect h.directory).2
        match result with
        | .ok graph => (.ok graph, h.afterBuild key graph state)
        | .error raised => (.error raised, h.afterFailure state) := by
  rw [effect_build]
  rcases (directory.list key.kind (some key.context)).effect h.directory with ⟨answer, state⟩
  cases answer with
  | error cause => exact ⟨_, Foretold.unreadable (raises_unreadable key cause), rfl⟩
  | ok rows =>
      have hdecided := Graph.decided_edited rows
      dsimp only
      cases hedited : Graph.empty.edited (Graph.addRows rows) with
      | error cause =>
          rw [hedited] at hdecided
          exact ⟨_, Foretold.stopped hdecided (raises_refused key cause), rfl⟩
      | ok graph =>
          rw [hedited] at hdecided
          exact ⟨_, Foretold.complete hdecided, rfl⟩

section Questions

variable {directory : Directory σ} {kind : HierarchyKind} {context : Option String}
  {h : Hierarchies σ}

theorem unpublished_afterFailure (hopen : h.cache.closed = false)
    (hnone : h.cache.graph? (h.cache.key kind context) = none) (state : σ) :
    Unpublished directory kind context h
      ((h.afterMiss (h.cache.key kind context)).afterFailure state) := by
  have hsame : SameCache h ((h.afterMiss (h.cache.key kind context)).afterFailure state) :=
    (sameCache_afterMiss h _).trans (sameCache_afterFailure _ state)
  have helsewhere := (elsewhere_afterMiss h (h.cache.key kind context)).afterFailure state
  refine ⟨helsewhere, (hsame.graph?_eq _).trans hnone, ?_, ?_, ?_⟩
  · simp only [afterMiss, afterFailure, Cache.count, Cache.counts_withEntry]
  · rw [asked_eq, Call.listings, hsame.key_eq]
    exact listings_of_unloaded directory (hsame.closed_eq.trans hopen)
      ((hsame.graph?_eq _).trans hnone)
  · intro turns
    have htwins : Twins { h with directory := state }
        ((h.afterMiss (h.cache.key kind context)).afterFailure state) :=
      ⟨⟨hsame.sentinel_eq, hsame.closed_eq, hsame.graph?_eq, hsame.version_eq⟩, rfl⟩
    exact htwins.replies_eq directory turns

theorem published_afterBuild (h : Hierarchies σ) (key : HierarchyKey) (graph : Graph) (state : σ) :
    Published key graph h ((h.afterMiss key).afterBuild key graph state) := by
  refine ⟨(elsewhere_afterMiss h key).afterBuild graph state, ?_, ?_⟩
  · rw [graph?_afterBuild, if_pos rfl]
  · simp only [afterMiss, Hierarchies.afterBuild, Cache.count, Cache.publish,
      Cache.counts_withEntry]

end Questions

end Hierarchies

/--
A question that finds nothing loaded asks the directory once.  If no step of the listing fails, the
graph of all rows is answered and published.  Otherwise the first failure settles what is raised,
nothing is published, and all that follows is as if the question had not been asked.
-/
theorem build_all_or_nothing {σ : Type} (directory : Directory σ) (kind : HierarchyKind)
    (context : Option String) {h : Hierarchies σ} (hopen : h.cache.closed = false)
    (hunloaded : h.cache.isLoaded (h.cache.key kind context) = false) :
    let key := h.cache.key kind context
    let listed := (directory.list key.kind (some key.context)).effect h.directory
    let outcome := (Hierarchies.graph directory kind context).effect h
    Hierarchies.Foretold key listed.1 outcome.1 ∧ outcome.2.directory = listed.2 ∧
      (forall graph, outcome.1 = .ok graph -> Hierarchies.Published key graph h outcome.2) ∧
      forall raised, outcome.1 = .error raised ->
        Hierarchies.Unpublished directory kind context h outcome.2 := by
  intro key listed outcome
  have hnone : h.cache.graph? key = none :=
    Option.not_isSome_iff_eq_none.mp (Bool.eq_false_iff.mp hunloaded)
  have houtcome : outcome = (Hierarchies.build directory key).effect (h.afterMiss key) :=
    Hierarchies.effect_graph_of_unloaded directory hopen hnone
  rcases Hierarchies.foretold_build directory key (h.afterMiss key) with
    ⟨result, hforetold, hbuild⟩
  rw [houtcome, hbuild]
  cases result with
  | ok graph =>
      refine ⟨hforetold, rfl, ?_, ?_⟩
      · intro published hpublished
        cases hpublished
        exact Hierarchies.published_afterBuild h key graph listed.2
      · intro raised hraised
        cases hraised
  | error raised =>
      refine ⟨hforetold, rfl, ?_, ?_⟩
      · intro graph hgraph
        cases hgraph
      · intro _ _
        exact Hierarchies.unpublished_afterFailure hopen hnone listed.2

/--
A row without parents, whose name is not looked at, and two edges, the second of which closes a
cycle before the last row has its turn.
-/
theorem build_all_or_nothing_of_a_closing_edge :
    let rows : List Row := [.pair none none, .pair (some "clerk") (some [some "boss"]),
      .pair (some " Boss ") (some [some "CLERK", none]), .shapeless]
    let h : Hierarchies ScriptedDirectory :=
      ⟨Cache.empty "null", ⟨Store.empty "null", [.ok rows, .ok []], [], []⟩⟩
    let outcome := (Hierarchies.graph ScriptedDirectory.directory .role (some "NULL")).effect h
    exists raised, outcome.1 = .error raised ∧ raised.isCycle = true ∧
      Hierarchies.Foretold ⟨.role, ""⟩ (.ok rows) (.error raised) ∧
      outcome.2.cache.counts.failedBuilds = 1 ∧
      outcome.2.cache.graph? ⟨.role, ""⟩ = none ∧
      Hierarchies.replies ScriptedDirectory.directory [.call (.graph .role none)] outcome.2 =
        Hierarchies.replies ScriptedDirectory.directory [.call (.graph .role none)]
          { h with directory := outcome.2.directory } := by
  intro rows h outcome
  have hkey : h.cache.key .role (some "NULL") = ⟨.role, ""⟩ := by
    show HierarchyKey.of "null" .role (some "NULL") = ⟨.role, ""⟩
    decide +kernel
  have hcyclic : Action.failsWith (·.isCycle) outcome.1 = true := by decide +kernel
  rcases Action.exists_of_failsWith hcyclic with ⟨raised, hraised, hcycle⟩
  rcases build_all_or_nothing ScriptedDirectory.directory .role (some "NULL") (h := h) rfl rfl with
    ⟨hforetold, _, _, hfailed⟩
  have hleft := hfailed raised hraised
  have hfailedBuilds : outcome.2.cache.counts.failedBuilds = 1 := by
    rw [hleft.counts_eq]
    rfl
  have hnone := hleft.graph?_eq
  rw [hkey] at hforetold hnone
  rw [hraised] at hforetold
  exact ⟨raised, hraised, hcycle, hforetold, hfailedBuilds, hnone, hleft.replies_eq _⟩

end Entitlement
