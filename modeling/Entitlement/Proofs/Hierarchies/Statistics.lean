import Entitlement.Proofs.Hierarchies.Refines
import Mathlib.Data.Finset.Option

/-!
# Conservation laws of the statistics

A cache counts hits, misses, builds, failed builds, changes and dropped graphs, each in its own
place.  What a call adds to the counts can be told from the call and from the cache that it found,
and every step of a call that adds a build also adds a loaded graph.  The counts of a cache are
therefore those of its calls.
-/

namespace Entitlement
namespace Hierarchies

variable {σ : Type}

/-!
# Calls and what they found
-/

/-- A call together with the live hierarchies that it found. -/
structure Visit (σ : Type) where
  call : Call
  found : Hierarchies σ

/-- The live hierarchies that calls lead to, together with all calls since the start. -/
inductive Visited (directory : Directory σ) (sentinel : String) :
    Hierarchies σ -> List (Visit σ) -> Prop where
  | start (state : σ) : Visited directory sentinel ⟨Cache.empty sentinel, state⟩ []
  | call {h : Hierarchies σ} {visits : List (Visit σ)} (call : Call) :
      Visited directory sentinel h visits ->
      Visited directory sentinel ((call.answer directory).effect h).2 (visits ++ [⟨call, h⟩])
  | outside {h : Hierarchies σ} {visits : List (Visit σ)} (state : σ) :
      Visited directory sentinel h visits ->
      Visited directory sentinel { h with directory := state } visits

def lacks (h : Hierarchies σ) (key : HierarchyKey) : Bool :=
  !(h.cache.closed || h.cache.isLoaded key)

namespace Call

def key? (sentinel : String) : Call -> Option HierarchyKey
  | .graph kind context => some (HierarchyKey.of sentinel kind context)
  | .prepare kind context => some (HierarchyKey.of sentinel kind context)
  | .change kind context _ _ => some (HierarchyKey.of sentinel kind context)
  | .invalidate _ _ => none
  | .clear => none
  | .close => none

def isClose : Call -> Bool
  | .graph _ _ => false
  | .prepare _ _ => false
  | .change _ _ _ _ => false
  | .invalidate _ _ => false
  | .clear => false
  | .close => true

end Call

namespace Visit

def result (directory : Directory σ) (visit : Visit σ) : Except Fault Reply :=
  ((visit.call.answer directory).effect visit.found).1

def asksOpen (visit : Visit σ) : Bool :=
  match visit.call with
  | .graph _ _ => !visit.found.cache.closed
  | _ => false

def changesUnloaded (visit : Visit σ) : Bool :=
  match visit.call with
  | .prepare kind context => visit.found.lacks (visit.found.cache.key kind context)
  | .change kind context _ _ => visit.found.lacks (visit.found.cache.key kind context)
  | _ => false

def hasChanged (directory : Directory σ) (visit : Visit σ) : Bool :=
  match visit.call with
  | .change _ _ _ _ => (visit.result directory).isOk
  | _ => false

def alters (directory : Directory σ) (sentinel : String) (key : HierarchyKey)
    (visit : Visit σ) : Bool :=
  (Event.finished visit.call (visit.result directory)).counts sentinel key

def listings (directory : Directory σ) (visit : Visit σ) : List Event :=
  asked directory visit.call visit.found

end Visit

/-!
# What is added to the counts
-/

/-- Numbers of questions, misses, listings and changes by which the counts have grown. -/
structure Gains (asks misses listings changes : Nat) (before after : Cache) : Prop where
  asks_eq : after.counts.hits + after.counts.misses =
    before.counts.hits + before.counts.misses + asks
  misses_eq : after.counts.misses = before.counts.misses + misses
  listings_eq : after.counts.builds + after.counts.failedBuilds =
    before.counts.builds + before.counts.failedBuilds + listings
  changes_eq : after.counts.mutations = before.counts.mutations + changes
  /-- Each further build is a graph that is loaded or has been dropped. -/
  builds_eq : after.counts.builds + (before.loaded + before.counts.invalidations) =
    before.counts.builds + (after.loaded + after.counts.invalidations)

theorem gains_of_counts_eq {before after : Cache} (hcounts : after.counts = before.counts)
    (hloaded : after.loaded = before.loaded) : Gains 0 0 0 0 before after where
  asks_eq := by rw [hcounts]; rfl
  misses_eq := by rw [hcounts]; rfl
  listings_eq := by rw [hcounts]; rfl
  changes_eq := by rw [hcounts]; rfl
  builds_eq := by rw [hcounts, hloaded]

theorem gains_refl (cache : Cache) : Gains 0 0 0 0 cache cache :=
  gains_of_counts_eq rfl rfl

theorem Gains.trans {asks misses listings changes asks' misses' listings' changes' : Nat}
    {before middle after : Cache} (hfirst : Gains asks misses listings changes before middle)
    (hsecond : Gains asks' misses' listings' changes' middle after) :
    Gains (asks + asks') (misses + misses') (listings + listings') (changes + changes') before
      after where
  asks_eq := by rw [hsecond.asks_eq, hfirst.asks_eq, Nat.add_assoc]
  misses_eq := by rw [hsecond.misses_eq, hfirst.misses_eq, Nat.add_assoc]
  listings_eq := by rw [hsecond.listings_eq, hfirst.listings_eq, Nat.add_assoc]
  changes_eq := by rw [hsecond.changes_eq, hfirst.changes_eq, Nat.add_assoc]
  builds_eq := by
    have h := hfirst.builds_eq
    have h' := hsecond.builds_eq
    omega

section Steps

variable (h : Hierarchies σ) {key : HierarchyKey}

theorem gains_afterEntry (key : HierarchyKey) : Gains 0 0 0 0 h.cache (h.afterEntry key).cache := by
  apply gains_of_counts_eq
  · unfold afterEntry Cache.withEntry
    dsimp only
    split
    · rfl
    · rfl
  · exact Cache.loaded_withEntry _ key

theorem gains_afterHit (key : HierarchyKey) : Gains 1 0 0 0 h.cache (h.afterHit key).cache := by
  have hentry := gains_afterEntry h key
  have hcount : Gains 1 0 0 0 (h.afterEntry key).cache (h.afterHit key).cache :=
    ⟨Nat.add_right_comm _ _ _, rfl, rfl, rfl, rfl⟩
  exact hentry.trans hcount

theorem gains_afterMiss (key : HierarchyKey) : Gains 1 1 0 0 h.cache (h.afterMiss key).cache := by
  have hentry := gains_afterEntry h key
  have hcount : Gains 1 1 0 0 (h.afterEntry key).cache (h.afterMiss key).cache :=
    ⟨rfl, rfl, rfl, rfl, rfl⟩
  exact hentry.trans hcount

theorem gains_build (directory : Directory σ) {h : Hierarchies σ}
    (hnone : h.cache.graph? key = none) :
    Gains 0 0 1 0 h.cache ((build directory key).effect h).2.cache := by
  rcases build_cases directory key h with ⟨fault, hfail⟩ | ⟨graph, _, hbuild⟩
  · rw [hfail]
    exact ⟨rfl, rfl, rfl, rfl, rfl⟩
  · have hgrown : (h.afterBuild key graph
        ((directory.list key.kind (some key.context)).effect h.directory).2).cache.loaded =
          h.cache.loaded + 1 := by
      have hpublished := h.cache.loaded_publish key graph
      rw [h.cache.isLoaded_eq_false hnone] at hpublished
      exact hpublished
    rw [hbuild]
    constructor
    · rfl
    · rfl
    · exact Nat.add_right_comm _ _ _
    · rfl
    · rw [hgrown]
      dsimp only [afterBuild, Cache.count, Cache.publish]
      omega

theorem gains_afterChange {current : Graph} (hloaded : h.cache.graph? key = some current)
    (updated : Graph) (changed : Bool) :
    Gains 0 0 0 1 h.cache (h.afterChange key updated changed).cache := by
  have hsame : (h.afterChange key updated changed).cache.loaded = h.cache.loaded := by
    cases changed with
    | false => rfl
    | true =>
        have hpublished := h.cache.loaded_publishChange key updated
        rw [h.cache.isLoaded_eq_true hloaded] at hpublished
        exact Nat.add_right_cancel hpublished
  have hcounts : (h.afterChange key updated changed).cache.counts =
      { h.cache.counts with mutations := h.cache.counts.mutations + 1 } := by
    cases changed with
    | false => rfl
    | true => rfl
  constructor
  · rw [hcounts]
    rfl
  · rw [hcounts]
    rfl
  · rw [hcounts]
    rfl
  · rw [hcounts]
  · rw [hcounts, hsame]

end Steps

/-!
# What a call adds
-/

section Calls

variable (directory : Directory σ) (kind : HierarchyKind) (context : Option String)
  (h : Hierarchies σ)

theorem lacks_of_closed (key : HierarchyKey) (hclosed : h.cache.closed = true) :
    h.lacks key = false := by
  unfold lacks
  rw [hclosed]
  rfl

theorem lacks_of_loaded {key : HierarchyKey} {loaded : Graph}
    (hloaded : h.cache.graph? key = some loaded) : h.lacks key = false := by
  unfold lacks
  rw [h.cache.isLoaded_eq_true hloaded, Bool.or_true]
  rfl

theorem lacks_of_unloaded {key : HierarchyKey} (hopen : h.cache.closed = false)
    (hnone : h.cache.graph? key = none) : h.lacks key = true := by
  unfold lacks
  rw [hopen, h.cache.isLoaded_eq_false hnone]
  rfl

theorem length_listings (key : HierarchyKey) :
    (listings directory key h).length = (h.lacks key).toNat := by
  unfold listings lacks
  cases h.cache.closed || h.cache.isLoaded key with
  | true => rfl
  | false => rfl

theorem gains_graph :
    Gains (!h.cache.closed).toNat (h.lacks (h.cache.key kind context)).toNat
      (h.lacks (h.cache.key kind context)).toNat 0 h.cache
      ((graph directory kind context).effect h).2.cache := by
  cases hclosed : h.cache.closed with
  | true =>
      rw [effect_graph_of_closed directory kind context hclosed, lacks_of_closed h _ hclosed]
      exact gains_refl h.cache
  | false =>
      cases hloaded : h.cache.graph? (h.cache.key kind context) with
      | some loaded =>
          rw [effect_graph_of_loaded directory hclosed hloaded, lacks_of_loaded h hloaded]
          exact gains_afterHit h _
      | none =>
          have hmiss : (h.afterMiss (h.cache.key kind context)).cache.graph?
              (h.cache.key kind context) = none :=
            ((sameCache_afterMiss h _).graph?_eq _).trans hloaded
          rw [effect_graph_of_unloaded directory hclosed hloaded,
            lacks_of_unloaded h hclosed hloaded]
          exact (gains_afterMiss h _).trans (gains_build directory hmiss)

theorem gains_prepare :
    Gains 0 0 (h.lacks (h.cache.key kind context)).toNat 0 h.cache
      ((prepare directory kind context).effect h).2.cache := by
  cases hclosed : h.cache.closed with
  | true =>
      rw [effect_prepare_of_closed directory kind context hclosed, lacks_of_closed h _ hclosed]
      exact gains_refl h.cache
  | false =>
      have hentry := gains_afterEntry h (h.cache.key kind context)
      cases hloaded : h.cache.graph? (h.cache.key kind context) with
      | some loaded =>
          rw [effect_prepare_of_loaded directory hclosed hloaded, lacks_of_loaded h hloaded]
          exact hentry
      | none =>
          have hnone : (h.afterEntry (h.cache.key kind context)).cache.graph?
              (h.cache.key kind context) = none :=
            ((sameCache_afterEntry h _).graph?_eq _).trans hloaded
          rw [effect_prepare_of_unloaded directory hclosed hloaded,
            lacks_of_unloaded h hclosed hloaded]
          exact hentry.trans (gains_build directory hnone)

theorem gains_change (edge : Relationship) (label : Option String) :
    Gains 0 0 (h.lacks (h.cache.key kind context)).toNat
      ((change directory kind context edge label).effect h).1.isOk.toNat h.cache
      ((change directory kind context edge label).effect h).2.cache := by
  have hprepared := gains_prepare directory kind context h
  rcases change_outcomes directory kind context edge label h with ⟨fault, hfail⟩ |
    ⟨state, current, change, changed, updated, hprepare, _, _, hchange⟩
  · rw [hfail]
    exact hprepared
  · rw [hprepare] at hprepared
    rw [hchange]
    exact hprepared.trans (gains_afterChange state (graph?_of_prepare hprepare) updated changed)

theorem gains_invalidate :
    Gains 0 0 0 0 h.cache
      ((invalidate kind context : Action (Hierarchies σ) Bool).effect h).2.cache := by
  have hdropped := h.cache.loaded_drop (h.cache.key kind context)
  rw [effect_invalidate]
  cases hloaded : h.cache.isLoaded (h.cache.key kind context) with
  | false => exact gains_refl h.cache
  | true =>
      have hcounts : (h.cache.drop (h.cache.key kind context)).counts = h.cache.counts := by
        unfold Cache.drop
        split
        · rfl
        · rfl
      rw [hloaded] at hdropped
      rw [if_pos rfl]
      constructor
      · dsimp only [Cache.count]
        rw [hcounts]
        rfl
      · dsimp only [Cache.count]
        rw [hcounts]
        rfl
      · dsimp only [Cache.count]
        rw [hcounts]
        rfl
      · dsimp only [Cache.count]
        rw [hcounts]
        rfl
      · rw [Cache.loaded_count, ← hdropped]
        dsimp only [Cache.count]
        rw [hcounts, Nat.add_assoc, Nat.add_comm _ 1]
        rfl

theorem gains_clear :
    Gains 0 0 0 0 h.cache ((clear : Action (Hierarchies σ) Unit).effect h).2.cache := by
  rw [effect_clear]
  constructor
  · rfl
  · rfl
  · rfl
  · rfl
  · rw [Cache.loaded_count, Cache.loaded_dropAll, Nat.zero_add, Nat.add_comm h.cache.loaded]
    rfl

theorem gains_close :
    Gains 0 0 0 0 h.cache ((close : Action (Hierarchies σ) Unit).effect h).2.cache := by
  have hcleared := gains_clear h
  rw [effect_clear] at hcleared
  have hclosed : forall cache : Cache, cache.loaded = 0 -> Gains 0 0 0 0 cache cache.close := by
    intro cache hloaded
    exact gains_of_counts_eq rfl hloaded.symm
  exact hcleared.trans (hclosed _ (Cache.loaded_dropAll _))

/-- What a visit adds.  A miss and a change of a hierarchy that is not loaded take one listing. -/
theorem Visit.gains (visit : Visit σ) :
    exists misses, (visit.listings directory).length = misses + visit.changesUnloaded.toNat ∧
      Gains visit.asksOpen.toNat misses (visit.listings directory).length
        (visit.hasChanged directory).toNat visit.found.cache
        ((visit.call.answer directory).effect visit.found).2.cache := by
  rcases visit with ⟨call, h⟩
  unfold Visit.listings Visit.asksOpen Visit.changesUnloaded Visit.hasChanged Visit.result
  rw [asked_eq]
  cases call with
  | graph kind context =>
      simp only [Call.listings, Call.answer, Action.effect_map, length_listings]
      exact ⟨_, rfl, gains_graph directory kind context h⟩
  | prepare kind context =>
      simp only [Call.listings, Call.answer, Action.effect_map, length_listings]
      exact ⟨0, (Nat.zero_add _).symm, gains_prepare directory kind context h⟩
  | change kind context edge label =>
      simp only [Call.listings, Call.answer, Action.effect_map, length_listings,
        Action.isOk_map]
      exact ⟨0, (Nat.zero_add _).symm, gains_change directory kind context h edge label⟩
  | invalidate kind context =>
      simp only [Call.listings, Call.answer, Action.effect_map]
      exact ⟨0, rfl, gains_invalidate kind context h⟩
  | clear => exact ⟨0, rfl, gains_clear h⟩
  | close => exact ⟨0, rfl, gains_close h⟩

end Calls

/-!
# What a call enters
-/

/-- The entries of a cache after a call that names a hierarchy, or none. -/
structure Enters (key? : Option HierarchyKey) (before after : Cache) : Prop where
  nodup : before.keys.Nodup -> after.keys.Nodup
  mem_iff : forall key, key ∈ after.keys ↔ key ∈ before.keys ∨ key? = some key

section Entries

variable (directory : Directory σ) (kind : HierarchyKind) (context : Option String)
  (h : Hierarchies σ) {key : HierarchyKey}

theorem enters_none {before after : Cache} (hkeys : after.keys = before.keys) :
    Enters none before after where
  nodup := by
    rw [hkeys]
    exact id
  mem_iff := by
    intro key
    rw [hkeys]
    exact (or_iff_left (Option.some_ne_none key).symm).symm

theorem enters_afterEntry (key : HierarchyKey) :
    Enters (some key) h.cache (h.afterEntry key).cache where
  nodup := h.cache.nodup_keys_withEntry key
  mem_iff := by
    intro other
    rw [Option.some.injEq, eq_comm, or_comm]
    exact h.cache.mem_keys_withEntry key other

theorem Enters.put {before middle after : Cache} (hentered : Enters (some key) before middle)
    {entry : CacheEntry} (hput : after.entries = middle.entries.put key entry) :
    Enters (some key) before after where
  nodup := by
    intro hbefore
    unfold Cache.keys
    rw [hput]
    exact Table.nodup_keys_put key entry (hentered.nodup hbefore)
  mem_iff := by
    intro other
    unfold Cache.keys
    rw [hput, Table.mem_keys_put]
    constructor
    · intro hmember
      rcases hmember with hsame | hold
      · exact Or.inr (congrArg some hsame.symm)
      · exact (hentered.mem_iff other).mp hold
    · intro hmember
      exact Or.inr ((hentered.mem_iff other).mpr hmember)

theorem Enters.build {before : Cache} (hentered : Enters (some key) before h.cache) :
    Enters (some key) before ((build directory key).effect h).2.cache := by
  rcases build_cases directory key h with ⟨fault, hfail⟩ | ⟨graph, _, hbuild⟩
  · rw [hfail]
    exact ⟨hentered.nodup, hentered.mem_iff⟩
  · rw [hbuild]
    exact hentered.put rfl

theorem enters_graph (hopen : h.cache.closed = false) :
    Enters (some (h.cache.key kind context)) h.cache
      ((graph directory kind context).effect h).2.cache := by
  have hentry := enters_afterEntry h (h.cache.key kind context)
  cases hloaded : h.cache.graph? (h.cache.key kind context) with
  | some loaded =>
      rw [effect_graph_of_loaded directory hopen hloaded]
      exact ⟨hentry.nodup, hentry.mem_iff⟩
  | none =>
      rw [effect_graph_of_unloaded directory hopen hloaded]
      exact Enters.build directory _ ⟨hentry.nodup, hentry.mem_iff⟩

theorem enters_prepare (hopen : h.cache.closed = false) :
    Enters (some (h.cache.key kind context)) h.cache
      ((prepare directory kind context).effect h).2.cache := by
  have hentry := enters_afterEntry h (h.cache.key kind context)
  cases hloaded : h.cache.graph? (h.cache.key kind context) with
  | some loaded =>
      rw [effect_prepare_of_loaded directory hopen hloaded]
      exact hentry
  | none =>
      rw [effect_prepare_of_unloaded directory hopen hloaded]
      exact hentry.build directory _

theorem enters_change (edge : Relationship) (label : Option String)
    (hopen : h.cache.closed = false) :
    Enters (some (h.cache.key kind context)) h.cache
      ((change directory kind context edge label).effect h).2.cache := by
  have hprepared := enters_prepare directory kind context h hopen
  rcases change_outcomes directory kind context edge label h with ⟨fault, hfail⟩ |
    ⟨state, current, change, changed, updated, hprepare, _, _, hchange⟩
  · rw [hfail]
    exact hprepared
  · rw [hprepare] at hprepared
    rw [hchange]
    cases changed with
    | false => exact ⟨hprepared.nodup, hprepared.mem_iff⟩
    | true => exact hprepared.put rfl

theorem enters_invalidate :
    Enters none h.cache
      ((invalidate kind context : Action (Hierarchies σ) Bool).effect h).2.cache := by
  rw [effect_invalidate]
  split
  · constructor
    · exact h.cache.nodup_keys_drop _
    · intro other
      rw [or_iff_left (Option.some_ne_none other).symm]
      exact h.cache.mem_keys_drop _ other
  · exact enters_none rfl

/-- Unless it closes the cache, a call to an open cache enters the hierarchy that it names. -/
theorem enters_answer (call : Call) (hopen : h.cache.closed = false)
    (hclose : call.isClose = false) :
    Enters (call.key? h.cache.sentinel) h.cache ((call.answer directory).effect h).2.cache := by
  cases call with
  | graph kind context =>
      rw [Call.answer, Action.effect_map]
      exact enters_graph directory kind context h hopen
  | prepare kind context =>
      rw [Call.answer, Action.effect_map]
      exact enters_prepare directory kind context h hopen
  | change kind context edge label =>
      rw [Call.answer, Action.effect_map]
      exact enters_change directory kind context h edge label hopen
  | invalidate kind context =>
      rw [Call.answer, Action.effect_map]
      exact enters_invalidate kind context h
  | clear => exact enters_none h.cache.keys_dropAll
  | close => cases hclose

theorem closed_answer (call : Call) :
    ((call.answer directory).effect h).2.cache.closed = (h.cache.closed || call.isClose) := by
  have hlist : forall kind context, (directory.list kind context).Moves Unrelated :=
    fun _ _ _ => trivial
  cases call with
  | graph kind context =>
      rw [Call.answer, Action.effect_map, Call.isClose, Bool.or_false]
      exact (moves_graph hlist kind context h).closed_eq
  | prepare kind context =>
      rw [Call.answer, Action.effect_map, Call.isClose, Bool.or_false]
      exact (moves_prepare hlist kind context h).closed_eq
  | change kind context edge label =>
      rw [Call.answer, Action.effect_map, Call.isClose, Bool.or_false]
      rcases change_cases Unrelated hlist kind context edge label h with
        ⟨fault, state, hstate, hfail⟩ | ⟨state, _, _, _, _, hstate, _, _, _, hchange⟩
      · rw [hfail]
        exact hstate.closed_eq
      · rw [hchange]
        exact (closed_afterChange state _ _ _).trans hstate.closed_eq
  | invalidate kind context =>
      rw [Call.answer, Action.effect_map, Call.isClose, Bool.or_false, effect_invalidate]
      split
      · exact h.cache.closed_drop _
      · rfl
  | clear => exact (Bool.or_false _).symm
  | close => exact (Bool.or_true _).symm

end Entries

/-!
# Runs
-/

section Runs

variable {directory : Directory σ} {sentinel : String} {h : Hierarchies σ}
  {visits : List (Visit σ)}

theorem countP_concat {α : Type} (p : α -> Bool) (xs : List α) (x : α) :
    (xs ++ [x]).countP p = xs.countP p + (p x).toNat := by
  rw [List.countP_append, List.countP_singleton]
  cases p x with
  | true => rfl
  | false => rfl

theorem gains_of_visited (hvisited : Visited directory sentinel h visits) :
    exists misses, (visits.flatMap (·.listings directory)).length =
        misses + visits.countP Visit.changesUnloaded ∧
      Gains (visits.countP Visit.asksOpen) misses
        (visits.flatMap (·.listings directory)).length
        (visits.countP (·.hasChanged directory)) (Cache.empty sentinel) h.cache := by
  induction hvisited with
  | start state => exact ⟨0, rfl, gains_refl _⟩
  | @call h visits call _ ih =>
      rcases ih with ⟨misses, hlistings, hgains⟩
      rcases Visit.gains directory ⟨call, h⟩ with ⟨more, hmore, hvisit⟩
      rw [List.flatMap_append, List.flatMap_singleton, List.length_append, countP_concat,
        countP_concat, countP_concat]
      exists misses + more
      constructor
      · rw [hlistings, hmore]
        exact Nat.add_add_add_comm _ _ _ _
      · exact hgains.trans hvisit
  | outside state _ ih => exact ih

def Visit.events (directory : Directory σ) (visit : Visit σ) : List Event :=
  visit.listings directory ++ [.finished visit.call (visit.result directory)]

theorem observed_of_visited (hvisited : Visited directory sentinel h visits) :
    Observed directory sentinel h (visits.flatMap (·.events directory)) := by
  induction hvisited with
  | start state => exact .start state
  | @call h visits call _ ih =>
      rw [List.flatMap_append, List.flatMap_singleton]
      unfold Visit.events
      rw [← List.append_assoc]
      exact .call call ih
  | outside state _ ih => exact .outside state ih

theorem closed_of_visited (hvisited : Visited directory sentinel h visits) :
    h.cache.closed = visits.any (·.call.isClose) := by
  induction hvisited with
  | start state => rfl
  | @call h visits call _ ih =>
      rw [closed_answer, ih, List.any_append, List.any_cons, List.any_nil, Bool.or_false]
  | outside state _ ih => exact ih

/-- An open cache has one entry for each hierarchy that was asked for or changed. -/
theorem keys_of_visited (hvisited : Visited directory sentinel h visits)
    (hopen : h.cache.closed = false) :
    h.cache.keys.Nodup ∧
      forall key, key ∈ h.cache.keys ↔ key ∈ visits.filterMap (·.call.key? sentinel) := by
  induction hvisited with
  | start state => exact ⟨List.nodup_nil, fun key => Iff.rfl⟩
  | @call h visits call hvisited ih =>
      have hsentinel := (tracks_of_observed (observed_of_visited hvisited)).sentinel_eq
      rw [closed_answer, Bool.or_eq_false_iff] at hopen
      rcases ih hopen.1 with ⟨hnodup, hkeys⟩
      have hentered := enters_answer directory h call hopen.1 hopen.2
      rw [hsentinel] at hentered
      constructor
      · exact hentered.nodup hnodup
      · intro key
        rw [hentered.mem_iff, hkeys, List.filterMap_append, List.mem_append]
        exact or_congr_right (by simp)
  | outside state _ ih => exact ih hopen

theorem countP_listings (directory : Directory σ) (sentinel : String) (key : HierarchyKey)
    (visit : Visit σ) : (visit.listings directory).countP (Event.counts sentinel key) = 0 := by
  have hlistings : forall key' : HierarchyKey,
      (listings directory key' visit.found).countP (Event.counts sentinel key) = 0 := by
    intro key'
    unfold Hierarchies.listings
    split
    · rfl
    · rfl
  unfold Visit.listings
  rw [asked_eq]
  cases visit.call with
  | graph kind context => exact hlistings _
  | prepare kind context => exact hlistings _
  | change kind context edge label => exact hlistings _
  | invalidate kind context => rfl
  | clear => rfl
  | close => rfl

theorem countP_events (directory : Directory σ) (sentinel : String) (key : HierarchyKey)
    (visits : List (Visit σ)) :
    (visits.flatMap (·.events directory)).countP (Event.counts sentinel key) =
      visits.countP (·.alters directory sentinel key) := by
  induction visits with
  | nil => rfl
  | cons visit rest ih =>
      rw [List.flatMap_cons, List.countP_append, ih]
      unfold Visit.events
      rw [countP_concat, countP_listings, Nat.zero_add, List.countP_cons, Nat.add_comm]
      unfold Visit.alters
      cases (Event.finished visit.call (visit.result directory)).counts sentinel key with
      | true => rfl
      | false => rfl

end Runs

end Hierarchies

/--
The statistics of a cache obey conservation laws, whatever calls were made to it and however they
ended.  Every build is a graph that is still loaded or was dropped; every listing that the directory
was asked for is a build or a failed build, and is due to a miss or to a change of a hierarchy that
was not loaded; every question to the open cache was a hit or a miss.  Until the cache is closed it
has one entry for each hierarchy that was asked for or changed, and the version of a hierarchy is
the number of its changes that returned true.
-/
theorem statistics_conserved {σ : Type} {directory : Directory σ} {sentinel : String}
    {h : Hierarchies σ} {visits : List (Hierarchies.Visit σ)}
    (hvisited : Hierarchies.Visited directory sentinel h visits) :
    let counts := h.cache.counts
    let listings := visits.flatMap (·.listings directory)
    counts.builds = h.cache.loaded + counts.invalidations ∧
      counts.builds + counts.failedBuilds = listings.length ∧
      listings.length = counts.misses + visits.countP Hierarchies.Visit.changesUnloaded ∧
      counts.hits + counts.misses = visits.countP Hierarchies.Visit.asksOpen ∧
      counts.mutations = visits.countP (·.hasChanged directory) ∧
      h.cache.loaded ≤ h.cache.size ∧
      h.cache.closed = visits.any (·.call.isClose) ∧
      (h.cache.closed = false ->
        h.cache.size = (visits.filterMap (·.call.key? sentinel)).toFinset.card ∧
          forall key, h.cache.version key = visits.countP (·.alters directory sentinel key)) := by
  intro counts listings
  rcases Hierarchies.gains_of_visited hvisited with ⟨misses, hlistings, hgains⟩
  have hmisses : counts.misses = misses := hgains.misses_eq.trans (Nat.zero_add _)
  constructor
  · have hbuilds := hgains.builds_eq
    have hempty : (Cache.empty sentinel).loaded + (Cache.empty sentinel).counts.invalidations = 0 :=
      rfl
    rw [hempty, Nat.add_zero] at hbuilds
    exact hbuilds.trans (Nat.zero_add _)
  constructor
  · exact hgains.listings_eq.trans (Nat.zero_add _)
  constructor
  · rw [hmisses]
    exact hlistings
  constructor
  · exact hgains.asks_eq.trans (Nat.zero_add _)
  constructor
  · exact hgains.changes_eq.trans (Nat.zero_add _)
  constructor
  · exact h.cache.loaded_le_size
  constructor
  · exact Hierarchies.closed_of_visited hvisited
  intro hopen
  constructor
  · rcases Hierarchies.keys_of_visited hvisited hopen with ⟨hnodup, hkeys⟩
    rw [← Cache.length_keys, ← List.toFinset_card_of_nodup hnodup]
    congr 1
    ext key
    rw [List.mem_toFinset, List.mem_toFinset, hkeys key]
  · intro key
    have htracks := Hierarchies.tracks_of_observed (Hierarchies.observed_of_visited hvisited)
    rw [htracks.version_eq key, hopen, Hierarchies.countP_events]
    rfl

/-- A refused change, two changes of one hierarchy, and a rebuild after an invalidation. -/
theorem statistics_conserved_after_a_rebuild :
    exists (h : Hierarchies Store) (visits : List (Hierarchies.Visit Store)),
      Hierarchies.Visited Store.directory "null" h visits ∧
        h.cache.counts.builds = 2 ∧
        (visits.flatMap (·.listings Store.directory)).length = 2 ∧
        visits.countP Hierarchies.Visit.changesUnloaded = 1 ∧
        visits.countP Hierarchies.Visit.asksOpen = 1 ∧
        visits.countP (·.hasChanged Store.directory) = 1 ∧
        (visits.filterMap (·.call.key? "null")).toFinset.card = 1 ∧
        visits.countP (·.alters Store.directory "null" ⟨.role, ""⟩) = 1 := by
  let edge : Relationship := ⟨.ofText "clerk" rfl, .ofText " Boss " rfl⟩
  let converse : Relationship := ⟨.ofText "boss" rfl, .ofText "clerk" rfl⟩
  let start : Hierarchies Store := ⟨Cache.empty "null", Store.empty "null"⟩
  let add : Hierarchies.Call := .change .role none edge (some "add")
  let refused : Hierarchies.Call := .change .role (some " NULL ") converse (some "add")
  let drop : Hierarchies.Call := .invalidate .role none
  let ask : Hierarchies.Call := .graph .role (some "null")
  have hstart : Hierarchies.Visited Store.directory "null" start [] := .start (Store.empty "null")
  have hvisited := (((hstart.call add).call refused).call drop).call ask
  rcases statistics_conserved hvisited with
    ⟨_, hlistings, hdue, hasks, hchanges, _, _, huntil⟩
  rcases huntil (by decide +kernel) with ⟨hkeys, hversion⟩
  exact ⟨_, _, hvisited, by decide +kernel, hlistings.symm.trans (by decide +kernel),
    by decide +kernel, hasks.symm.trans (by decide +kernel),
    hchanges.symm.trans (by decide +kernel), hkeys.symm.trans (by decide +kernel),
    (hversion _).symm.trans (by decide +kernel)⟩

end Entitlement
