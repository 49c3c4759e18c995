import Entitlement.Proofs.Hierarchies.Race
import Mathlib.Algebra.BigOperators.Fin
import Mathlib.Algebra.Order.BigOperators.Group.Finset

/-!
# What every step of a race keeps

The invariant says of each stage what the cache and the record of askers look like while a caller is
there.  Only three kinds of steps matter to it: a fetch, a publication, and all the quiet ones.  A
step also brings its caller closer to the end, and somebody can always take one until all have
finished.
-/

namespace Entitlement
namespace Hierarchies

variable {σ : Type}

/-- What comes of the listing of a hierarchy when it has been listed some times before. -/
def nthAnswer (directory : Directory σ) (key : HierarchyKey) (h : Hierarchies σ) (k : Nat) :
    Except Fault Graph :=
  listedGraph directory key (afterListings directory (List.replicate k key) h.directory)

namespace Stage

def seen? : Stage -> Option Graph
  | .hitting graph | .confirming graph | .handing graph | .served graph | .counting graph =>
      some graph
  | .leaving (.ok graph) | .ended (.ok graph) => some graph
  | _ => none

def answer? : Stage -> Option (Except Fault Graph)
  | .settling answer | .leaving answer | .ended answer => some answer
  | .counting graph => some (.ok graph)
  | _ => none

/-- The stages of a builder before it publishes. -/
def vacant : Stage -> Bool
  | .missing | .fetching | .settling _ => true
  | _ => false

def tally : Stage -> CacheCounts
  | .handing _ | .served _ => ⟨1, 0, 0, 0, 0, 0⟩
  | .fetching | .settling _ | .counting _ => ⟨0, 1, 0, 0, 0, 0⟩
  | .leaving (.error _) | .ended (.error _) => ⟨0, 1, 0, 1, 0, 0⟩
  | .leaving (.ok _) | .ended (.ok _) => ⟨0, 1, 1, 0, 0, 0⟩
  | _ => ⟨0, 0, 0, 0, 0, 0⟩

end Stage

def countParts : List (CacheCounts -> Nat) :=
  [(·.hits), (·.misses), (·.builds), (·.failedBuilds), (·.mutations), (·.invalidations)]

namespace Race

variable {n : Nat} {directory : Directory σ} {key : HierarchyKey} {start : Hierarchies σ}
  {race : Race n σ} {i : Fin n} {next : Stage} {later : Hierarchies σ}

/-!
# The invariant
-/

structure Inv (directory : Directory σ) (key : HierarchyKey) (start : Hierarchies σ)
    (race : Race n σ) : Prop where
  sentinel_eq : race.hierarchies.cache.sentinel = start.cache.sentinel
  closed_eq : race.hierarchies.cache.closed = start.cache.closed
  directory_eq : race.hierarchies.directory =
    afterListings directory (List.replicate race.askers.length key) start.directory
  askers_nodup : race.askers.Nodup
  locked_iff : forall i, (race.stage i).locked = true ↔ race.holder = some i
  seen : forall i graph, (race.stage i).seen? = some graph ->
    race.hierarchies.cache.graph? key = some graph
  vacant : forall i, (race.stage i).vacant = true -> race.hierarchies.cache.graph? key = none
  asked_iff : forall i result, (race.stage i).answer? = some result ↔
    exists k, race.askers[k]? = some i ∧ result = nthAnswer directory key start k
  published : forall graph, race.hierarchies.cache.graph? key = some graph ->
    exists k, k + 1 = race.askers.length ∧ nthAnswer directory key start k = .ok graph
  earlier : forall k, k + 1 < race.askers.length ->
    exists fault, nthAnswer directory key start k = .error fault
  latest : forall k graph, k + 1 = race.askers.length ->
    nthAnswer directory key start k = .ok graph ->
      race.hierarchies.cache.graph? key = some graph ∨
        exists i, race.stage i = .settling (.ok graph)
  counted : forall part, part ∈ countParts ->
    part race.hierarchies.cache.counts =
      part start.cache.counts + ∑ i, part (race.stage i).tally

theorem inv_start (hunloaded : start.cache.graph? key = none) :
    (Race.start start : Race n σ).Inv directory key start where
  sentinel_eq := rfl
  closed_eq := rfl
  directory_eq := rfl
  askers_nodup := List.nodup_nil
  locked_iff := fun i => iff_of_false Bool.false_ne_true fun h => nomatch h
  seen := fun i graph hseen => nomatch hseen
  vacant := fun i hvacant => nomatch hvacant
  asked_iff := by
    intro i result
    refine iff_of_false (fun h => nomatch h) ?_
    rintro ⟨k, hk, _⟩
    cases hk
  published := by
    intro graph hgraph
    rw [show (Race.start start : Race n σ).hierarchies = start from rfl, hunloaded] at hgraph
    cases hgraph
  earlier := fun k hk => absurd hk (Nat.not_lt_zero _)
  latest := fun k graph hk => absurd hk (Nat.succ_ne_zero k)
  counted := by
    intro part hpart
    have hnothing : part (Stage.tally .arriving) = 0 := by
      revert part
      decide
    show part start.cache.counts = part start.cache.counts + ∑ _, part (Stage.tally .arriving)
    rw [hnothing, Finset.sum_const_zero, Nat.add_zero]

/-!
# What a step of one caller leaves alone
-/

theorem stage_after_self : (race.after i next later).stage i = next := by
  unfold after
  exact Function.update_self _ _ _

theorem stage_after_of_ne {j : Fin n} (hother : j ≠ i) :
    (race.after i next later).stage j = race.stage j := by
  unfold after
  exact Function.update_of_ne hother _ _

theorem stage_after (j : Fin n) :
    (race.after i next later).stage j = if j = i then next else race.stage j := by
  split_ifs with hsame
  · rw [hsame, stage_after_self]
  · exact stage_after_of_ne hsame

theorem askers_after_of_ne (hunasked : race.stage i ≠ .fetching) :
    (race.after i next later).askers = race.askers := by
  unfold after
  cases hstage : race.stage i <;> first | rfl | exact absurd hstage hunasked

theorem locked_iff_after (hlocked : forall j, (race.stage j).locked = true ↔ race.holder = some j)
    (hfree : next.locked = true -> forall j, j ≠ i -> race.holder ≠ some j) (j : Fin n) :
    ((race.after i next later).stage j).locked = true ↔
      (race.after i next later).holder = some j := by
  have hholder : (race.after i next later).holder =
      if next.locked then some i else if (race.stage i).locked then none else race.holder := rfl
  rw [hholder]
  by_cases hsame : j = i
  · rw [hsame, stage_after_self]
    split_ifs with hnext hbefore
    · exact iff_of_true hnext rfl
    · exact iff_of_false hnext fun h => nomatch h
    · rw [← hlocked i]
      exact iff_of_false hnext hbefore
  · rw [stage_after_of_ne hsame, hlocked j]
    split_ifs with hnext hbefore
    · exact iff_of_false (hfree hnext j hsame) fun h => hsame (Option.some.inj h).symm
    · rw [(hlocked i).mp hbefore]
      exact iff_of_false (fun h => hsame (Option.some.inj h).symm) fun h => nomatch h
    · exact Iff.rfl

theorem sum_after (race : Race n σ) (i : Fin n) (next : Stage) (later : Hierarchies σ)
    (f : Stage -> Nat) :
    (∑ j, f ((race.after i next later).stage j)) + f (race.stage i) =
      (∑ j, f (race.stage j)) + f next := by
  have hupdated : (fun j => f ((race.after i next later).stage j)) =
      Function.update (fun j => f (race.stage j)) i (f next) := by
    funext j
    by_cases hsame : j = i
    · rw [hsame, stage_after_self, Function.update_self]
    · rw [stage_after_of_ne hsame, Function.update_of_ne hsame]
  rw [hupdated, Finset.sum_update_of_mem (Finset.mem_univ i),
    ← Finset.add_sum_erase Finset.univ (fun j => f (race.stage j)) (Finset.mem_univ i),
    Finset.sdiff_singleton_eq_erase]
  omega

theorem counted_after
    (hcounted : forall part, part ∈ countParts -> part race.hierarchies.cache.counts =
      part start.cache.counts + ∑ j, part (race.stage j).tally)
    (hcounts : forall part, part ∈ countParts ->
      part later.cache.counts + part (race.stage i).tally =
        part race.hierarchies.cache.counts + part next.tally)
    (part : CacheCounts -> Nat) (hpart : part ∈ countParts) :
    part (race.after i next later).hierarchies.cache.counts =
      part start.cache.counts + ∑ j, part ((race.after i next later).stage j).tally := by
  have hsum := sum_after race i next later fun stage => part stage.tally
  have hbefore := hcounted part hpart
  have hafter := hcounts part hpart
  show part later.cache.counts = _
  omega

/-- Nobody else holds the lock of a caller at a locked stage. -/
theorem Inv.alone (hinv : race.Inv directory key start) (hlocked : (race.stage i).locked = true) :
    forall j, j ≠ i -> race.holder ≠ some j := by
  intro j hother hholder
  rw [(hinv.locked_iff i).mp hlocked] at hholder
  exact hother (Option.some.inj hholder).symm

theorem locked_of_vacant {stage : Stage} (hvacant : stage.vacant = true) :
    stage.locked = true := by
  cases stage <;> first | rfl | cases hvacant

theorem Inv.eq_of_locked (hinv : race.Inv directory key start) {j : Fin n}
    (hi : (race.stage i).locked = true) (hj : (race.stage j).locked = true) : j = i := by
  rw [hinv.locked_iff] at hi hj
  rw [hi] at hj
  exact (Option.some.inj hj).symm

/-!
# Quiet steps
-/

/-- The step neither asks the directory nor publishes, and counts what it says. -/
structure Quiet (key : HierarchyKey) (stage next : Stage) (h later : Hierarchies σ) : Prop where
  sameCache : SameCache h later
  directory_eq : later.directory = h.directory
  answer?_eq : next.answer? = stage.answer?
  seen : forall graph, next.seen? = some graph -> h.cache.graph? key = some graph
  vacant : next.vacant = true -> h.cache.graph? key = none
  counts : forall part, part ∈ countParts ->
    part later.cache.counts + part stage.tally = part h.cache.counts + part next.tally

theorem Inv.quiet {stage : Stage} (hinv : race.Inv directory key start)
    (hstage : race.stage i = stage) (hquiet : Quiet key stage next race.hierarchies later)
    (hfree : next.locked = true -> forall j, j ≠ i -> race.holder ≠ some j)
    (hunasked : stage ≠ .fetching) (hunsettled : forall graph, stage ≠ .settling (.ok graph)) :
    (race.after i next later).Inv directory key start := by
  subst hstage
  have haskers : (race.after i next later).askers = race.askers := askers_after_of_ne hunasked
  exact
    { sentinel_eq := hquiet.sameCache.sentinel_eq.trans hinv.sentinel_eq
      closed_eq := hquiet.sameCache.closed_eq.trans hinv.closed_eq
      directory_eq := by
        rw [haskers]
        exact hquiet.directory_eq.trans hinv.directory_eq
      askers_nodup := by
        rw [haskers]
        exact hinv.askers_nodup
      locked_iff := locked_iff_after hinv.locked_iff hfree
      seen := by
        intro j graph hseen
        refine (hquiet.sameCache.graph?_eq key).trans ?_
        rw [stage_after] at hseen
        split_ifs at hseen with hsame
        · exact hquiet.seen graph hseen
        · exact hinv.seen j graph hseen
      vacant := by
        intro j hvacant
        refine (hquiet.sameCache.graph?_eq key).trans ?_
        rw [stage_after] at hvacant
        split_ifs at hvacant with hsame
        · exact hquiet.vacant hvacant
        · exact hinv.vacant j hvacant
      asked_iff := by
        intro j result
        rw [haskers, ← hinv.asked_iff, stage_after]
        split_ifs with hsame
        · rw [hsame, hquiet.answer?_eq]
        · exact Iff.rfl
      published := by
        intro graph hgraph
        rw [haskers]
        exact hinv.published graph ((hquiet.sameCache.graph?_eq key).symm.trans hgraph)
      earlier := by
        rw [haskers]
        exact hinv.earlier
      latest := by
        intro k graph hk hanswer
        rw [haskers] at hk
        rcases hinv.latest k graph hk hanswer with hgraph | ⟨j, hsettling⟩
        · exact Or.inl ((hquiet.sameCache.graph?_eq key).trans hgraph)
        · have hother : j ≠ i := by
            intro hsame
            rw [hsame] at hsettling
            exact hunsettled graph hsettling
          exact Or.inr ⟨j, (stage_after_of_ne hother).trans hsettling⟩
      counted := counted_after hinv.counted hquiet.counts }

/-!
# Fetches and publications
-/

theorem getElem?_concat_eq_some_iff {α : Type} {xs : List α} {x y : α} {k : Nat} :
    (xs ++ [x])[k]? = some y ↔ xs[k]? = some y ∨ (k = xs.length ∧ x = y) := by
  rw [List.getElem?_append]
  split_ifs with hk
  · refine (or_iff_left ?_).symm
    rintro ⟨hlast, _⟩
    omega
  · rw [List.getElem?_eq_none (Nat.le_of_not_lt hk), List.getElem?_singleton]
    have hlast : k - xs.length = 0 ↔ k = xs.length := by omega
    simp [hlast]

theorem Inv.fetch (hinv : race.Inv directory key start) (hstage : race.stage i = .fetching) :
    (race.after i (.settling (listedGraph directory key race.hierarchies.directory))
      (race.hierarchies.afterFetch directory key)).Inv directory key start := by
  have hlocked : (race.stage i).locked = true := by rw [hstage]; rfl
  have hnone : race.hierarchies.cache.graph? key = none :=
    hinv.vacant i (by rw [hstage]; rfl)
  have hanswer : listedGraph directory key race.hierarchies.directory =
      nthAnswer directory key start race.askers.length := by
    unfold nthAnswer
    rw [hinv.directory_eq]
  have hfailed : forall k, k + 1 = race.askers.length ->
      exists fault, nthAnswer directory key start k = .error fault := by
    intro k hk
    cases hlast : nthAnswer directory key start k with
    | error fault => exact ⟨fault, rfl⟩
    | ok graph =>
        rcases hinv.latest k graph hk hlast with hgraph | ⟨j, hsettling⟩
        · rw [hnone] at hgraph
          cases hgraph
        · have hsame : j = i := hinv.eq_of_locked hlocked (by rw [hsettling]; rfl)
          rw [hsame, hstage] at hsettling
          cases hsettling
  have hnew : i ∉ race.askers := by
    intro hasker
    rcases List.mem_iff_getElem?.mp hasker with ⟨k, hk⟩
    have hanswered := (hinv.asked_iff i _).mpr ⟨k, hk, rfl⟩
    rw [hstage] at hanswered
    cases hanswered
  have haskers : forall next later, (race.after i next later).askers = race.askers ++ [i] := by
    intro next later
    unfold after
    rw [hstage]
  exact
    { sentinel_eq := hinv.sentinel_eq
      closed_eq := hinv.closed_eq
      directory_eq := by
        rw [haskers, List.length_append, List.length_singleton, List.replicate_succ',
          afterListings_append, ← hinv.directory_eq]
        rfl
      askers_nodup := by
        rw [haskers]
        exact List.concat_eq_append ▸ hinv.askers_nodup.concat hnew
      locked_iff := locked_iff_after hinv.locked_iff fun _ => hinv.alone hlocked
      seen := by
        intro j graph hseen
        rw [stage_after] at hseen
        split_ifs at hseen with hsame
        · cases hseen
        · exact hinv.seen j graph hseen
      vacant := fun _ _ => hnone
      asked_iff := by
        intro j result
        rw [haskers, stage_after]
        split_ifs with hsame
        · rw [hsame, hanswer]
          constructor
          · intro hresult
            cases hresult
            exact ⟨_, getElem?_concat_eq_some_iff.mpr (Or.inr ⟨rfl, rfl⟩), rfl⟩
          · rintro ⟨k, hk, hresult⟩
            rcases getElem?_concat_eq_some_iff.mp hk with hold | ⟨hlast, _⟩
            · exact absurd (List.mem_of_getElem? hold) hnew
            · rw [hresult, hlast]
              rfl
        · rw [hinv.asked_iff]
          refine exists_congr fun k => and_congr_left fun _ => ?_
          rw [getElem?_concat_eq_some_iff]
          exact (or_iff_left fun hlast => hsame hlast.2.symm).symm
      published := by
        intro graph hgraph
        exact absurd (hnone.symm.trans hgraph) (by simp)
      earlier := by
        intro k hk
        rw [haskers, List.length_append, List.length_singleton] at hk
        rcases Nat.lt_or_ge (k + 1) race.askers.length with hbefore | hlast
        · exact hinv.earlier k hbefore
        · exact hfailed k (by omega)
      latest := by
        intro k graph hk hlatest
        rw [haskers, List.length_append, List.length_singleton] at hk
        refine Or.inr ⟨i, ?_⟩
        rw [stage_after_self, hanswer, ← hlatest, Nat.succ.inj hk]
      counted := counted_after hinv.counted (by
        intro part hpart
        rw [hstage]
        rfl) }

/-- The builder publishes, and all who look from now on find the graph. -/
theorem Inv.publish (hinv : race.Inv directory key start) {graph : Graph}
    (hstage : race.stage i = .settling (.ok graph)) :
    (race.after i (.counting graph) (race.hierarchies.afterPublish key graph)).Inv directory key
      start := by
  have hlocked : (race.stage i).locked = true := by rw [hstage]; rfl
  have hnone : race.hierarchies.cache.graph? key = none :=
    hinv.vacant i (by rw [hstage]; rfl)
  have hpublished : forall other, (race.hierarchies.afterPublish key graph).cache.graph? other =
      if other = key then some graph else race.hierarchies.cache.graph? other := by
    intro other
    exact Cache.graph?_publish _ _ _ _
  -- The one who publishes is the last who has asked, because earlier answers came to nothing.
  have hlast : exists k, k + 1 = race.askers.length ∧
      nthAnswer directory key start k = .ok graph := by
    rcases (hinv.asked_iff i (.ok graph)).mp (by rw [hstage]; rfl) with ⟨k, hk, hanswer⟩
    have hbound := (List.getElem?_eq_some_iff.mp hk).1
    refine ⟨k, ?_, hanswer.symm⟩
    by_contra hearlier
    rcases hinv.earlier k (by omega) with ⟨fault, hfault⟩
    rw [← hanswer] at hfault
    cases hfault
  have haskers : forall next later, (race.after i next later).askers = race.askers := by
    intro next later
    apply askers_after_of_ne
    rw [hstage]
    nofun
  exact
    { sentinel_eq := hinv.sentinel_eq
      closed_eq := hinv.closed_eq
      directory_eq := by
        rw [haskers]
        exact hinv.directory_eq
      askers_nodup := by
        rw [haskers]
        exact hinv.askers_nodup
      locked_iff := locked_iff_after hinv.locked_iff fun _ => hinv.alone hlocked
      seen := by
        intro j other hseen
        rw [stage_after] at hseen
        split_ifs at hseen with hsame
        · cases hseen
          exact (hpublished key).trans (if_pos rfl)
        · exact absurd (hnone.symm.trans (hinv.seen j other hseen)) (by simp)
      vacant := by
        intro j hvacant
        rw [stage_after] at hvacant
        split_ifs at hvacant with hsame
        · cases hvacant
        · exact absurd (hinv.eq_of_locked hlocked (locked_of_vacant hvacant)) hsame
      asked_iff := by
        intro j result
        rw [haskers, ← hinv.asked_iff, stage_after]
        split_ifs with hsame
        · rw [hsame, hstage]
          rfl
        · exact Iff.rfl
      published := by
        intro other hother
        have hsame : some graph = some other :=
          ((hpublished key).trans (if_pos rfl)).symm.trans hother
        cases hsame
        rw [haskers]
        exact hlast
      earlier := by
        rw [haskers]
        exact hinv.earlier
      latest := by
        intro k other hk hanswer
        rw [haskers] at hk
        rcases hlast with ⟨m, hm, hok⟩
        rw [Nat.succ.inj (hk.trans hm.symm), hok] at hanswer
        cases hanswer
        exact Or.inl ((hpublished key).trans (if_pos rfl))
      counted := counted_after hinv.counted (by
        intro part hpart
        rw [hstage]
        rfl) }

/-!
# Every step keeps the invariant
-/

theorem quiet_of_count {stage next : Stage} {h : Hierarchies σ}
    {f : CacheCounts -> CacheCounts} (hanswer : next.answer? = stage.answer?)
    (hseen : forall graph, next.seen? = some graph -> h.cache.graph? key = some graph)
    (hvacant : next.vacant = true -> h.cache.graph? key = none)
    (hcounts : forall part, part ∈ countParts ->
      part (f h.cache.counts) + part stage.tally = part h.cache.counts + part next.tally) :
    Quiet key stage next h (h.afterCount f) where
  sameCache := ⟨rfl, rfl, fun _ => rfl, fun _ => rfl⟩
  directory_eq := rfl
  answer?_eq := hanswer
  seen := hseen
  vacant := hvacant
  counts := hcounts

theorem quiet_of_same {stage next : Stage} {h later : Hierarchies σ} (hsame : SameCache h later)
    (hdirectory : later.directory = h.directory)
    (hcounts : later.cache.counts = h.cache.counts) (hanswer : next.answer? = stage.answer?)
    (hseen : forall graph, next.seen? = some graph -> h.cache.graph? key = some graph)
    (hvacant : next.vacant = true -> h.cache.graph? key = none)
    (htally : next.tally = stage.tally) : Quiet key stage next h later where
  sameCache := hsame
  directory_eq := hdirectory
  answer?_eq := hanswer
  seen := hseen
  vacant := hvacant
  counts := by
    intro part _
    rw [hcounts, htally]

theorem sameCache_refl (h : Hierarchies σ) : SameCache h h :=
  ⟨rfl, rfl, fun _ => rfl, fun _ => rfl⟩

theorem Inv.step {kind : HierarchyKind} {contexts : Fin n -> Option String} {after : Race n σ}
    (hopen : start.cache.closed = false)
    (hkey : forall i, start.cache.key kind (contexts i) = key)
    (hinv : race.Inv directory key start) (hstep : Step directory kind contexts race i after) :
    after.Inv directory key start := by
  rcases hstep with ⟨hmay, hmove⟩
  rename_i next later
  have hsame : race.hierarchies.cache.key kind (contexts i) = key := by
    rw [← hkey i]
    unfold Cache.key
    rw [hinv.sentinel_eq]
  rw [hsame] at hmove
  have hseen : forall stage, race.stage i = stage -> forall graph, stage.seen? = some graph ->
      race.hierarchies.cache.graph? key = some graph := by
    rintro stage rfl
    exact hinv.seen i
  have hvacant : forall stage, race.stage i = stage -> stage.vacant = true ->
      race.hierarchies.cache.graph? key = none := by
    rintro stage rfl
    exact hinv.vacant i
  have halone : forall stage, race.stage i = stage -> stage.locked = true ->
      forall j, j ≠ i -> race.holder ≠ some j := by
    rintro stage rfl
    exact hinv.alone
  cases hstage : race.stage i with
  | arriving =>
      rw [hstage, Stage.effect_move_arriving directory key (hinv.closed_eq.trans hopen)] at hmove
      cases hmove
      refine hinv.quiet hstage ?_ nofun nofun nofun
      exact quiet_of_same (sameCache_afterEntry _ key) rfl (Cache.counts_withEntry _ _) rfl nofun
        nofun rfl
  | looking =>
      rw [hstage, Stage.effect_move_looking] at hmove
      cases hgraph : race.hierarchies.cache.graph? key with
      | some graph =>
          rw [hgraph] at hmove
          cases hmove
          refine hinv.quiet hstage ?_ nofun nofun nofun
          refine quiet_of_same (sameCache_refl _) rfl rfl rfl ?_ nofun rfl
          rintro _ ⟨⟩
          exact hgraph
      | none =>
          rw [hgraph] at hmove
          cases hmove
          refine hinv.quiet hstage ?_ nofun nofun nofun
          exact quiet_of_same (sameCache_refl _) rfl rfl rfl nofun nofun rfl
  | hitting graph =>
      rw [hstage, Stage.effect_move_hitting] at hmove
      cases hmove
      refine hinv.quiet hstage ?_ nofun nofun nofun
      exact quiet_of_count rfl (hseen (.hitting graph) hstage) nofun
        (by simp [countParts, Stage.tally])
  | waiting =>
      rw [hstage, Stage.effect_move_waiting] at hmove
      cases hmove
      have hfree : race.holder = none := by
        unfold MayMove at hmay
        rw [hstage] at hmay
        exact hmay
      refine hinv.quiet hstage ?_ (fun _ j _ => by rw [hfree]; nofun) nofun nofun
      exact quiet_of_same (sameCache_refl _) rfl rfl rfl nofun nofun rfl
  | checking =>
      rw [hstage, Stage.effect_move_checking] at hmove
      have hheld := halone .checking hstage rfl
      cases hgraph : race.hierarchies.cache.graph? key with
      | some graph =>
          rw [hgraph] at hmove
          cases hmove
          refine hinv.quiet hstage ?_ (fun _ => hheld) nofun nofun
          refine quiet_of_same (sameCache_refl _) rfl rfl rfl ?_ nofun rfl
          rintro _ ⟨⟩
          exact hgraph
      | none =>
          rw [hgraph] at hmove
          cases hmove
          refine hinv.quiet hstage ?_ (fun _ => hheld) nofun nofun
          exact quiet_of_same (sameCache_refl _) rfl rfl rfl nofun (fun _ => hgraph) rfl
  | confirming graph =>
      rw [hstage, Stage.effect_move_confirming] at hmove
      cases hmove
      refine hinv.quiet hstage ?_ (fun _ => halone (.confirming graph) hstage rfl) nofun nofun
      exact quiet_of_count rfl (hseen (.confirming graph) hstage) nofun
        (by simp [countParts, Stage.tally])
  | handing graph =>
      rw [hstage, Stage.effect_move_handing] at hmove
      cases hmove
      refine hinv.quiet hstage ?_ nofun nofun nofun
      exact quiet_of_same (sameCache_refl _) rfl rfl rfl (hseen (.handing graph) hstage) nofun rfl
  | missing =>
      rw [hstage, Stage.effect_move_missing] at hmove
      cases hmove
      refine hinv.quiet hstage ?_ (fun _ => halone .missing hstage rfl) nofun nofun
      exact quiet_of_count rfl nofun (fun _ => hvacant .missing hstage rfl)
        (by simp [countParts, Stage.tally])
  | fetching =>
      rw [hstage, Stage.effect_move_fetching] at hmove
      cases hmove
      exact hinv.fetch hstage
  | settling answer =>
      cases answer with
      | error fault =>
          rw [hstage, Stage.effect_move_settling_error] at hmove
          cases hmove
          have hheld := halone (.settling (.error fault)) hstage rfl
          refine hinv.quiet hstage ?_ (fun _ => hheld) nofun nofun
          exact quiet_of_count rfl nofun nofun (by simp [countParts, Stage.tally])
      | ok graph =>
          rw [hstage, Stage.effect_move_settling_ok] at hmove
          cases hmove
          exact hinv.publish hstage
  | counting graph =>
      rw [hstage, Stage.effect_move_counting] at hmove
      cases hmove
      refine hinv.quiet hstage ?_ (fun _ => halone (.counting graph) hstage rfl) nofun nofun
      exact quiet_of_count rfl (hseen (.counting graph) hstage) nofun
        (by simp [countParts, Stage.tally])
  | leaving result =>
      rw [hstage, Stage.effect_move_leaving] at hmove
      cases hmove
      refine hinv.quiet hstage ?_ nofun nofun nofun
      refine quiet_of_same (sameCache_refl _) rfl rfl rfl ?_ nofun ?_
      · cases result with
        | error fault => nofun
        | ok graph => exact hseen (.leaving (.ok graph)) hstage
      · cases result with
        | error fault => rfl
        | ok graph => rfl
  | served graph =>
      unfold MayMove at hmay
      rw [hstage] at hmay
      exact hmay.elim
  | ended result =>
      unfold MayMove at hmay
      rw [hstage] at hmay
      exact hmay.elim

theorem inv_of_plays {kind : HierarchyKind} {contexts : Fin n -> Option String}
    {schedule : List (Fin n)} (hopen : start.cache.closed = false)
    (hunloaded : start.cache.graph? key = none)
    (hkey : forall i, start.cache.key kind (contexts i) = key)
    (hplays : Plays directory kind contexts start schedule race) :
    race.Inv directory key start := by
  induction hplays with
  | start => exact inv_start hunloaded
  | step _ hstep ih => exact ih.step hopen hkey hstep

/-!
# Races come to an end
-/

section Schedules

variable {kind : HierarchyKind} {contexts : Fin n -> Option String} {schedule : List (Fin n)}

theorem Step.left_lt {after : Race n σ} (hstep : Step directory kind contexts race i after) :
    (∑ j, (after.stage j).left) < ∑ j, (race.stage j).left := by
  rcases hstep with ⟨hmay, hmove⟩
  rename_i next later
  have hgoing : (race.stage i).result? = none := by
    unfold MayMove at hmay
    cases hstage : race.stage i <;> first | rfl | (rw [hstage] at hmay; exact hmay.elim)
  rcases Stage.exists_move directory (race.hierarchies.cache.key kind (contexts i)) (race.stage i)
    race.hierarchies with ⟨_, _, hmoved, hless⟩
  rw [hmove] at hmoved
  cases hmoved
  have hsum := sum_after race i next later Stage.left
  have hcloser := hless hgoing
  omega

theorem Plays.length_add_left_le (hplays : Plays directory kind contexts start schedule race) :
    schedule.length + ∑ j, (race.stage j).left ≤ 9 * n := by
  induction hplays with
  | start =>
      show 0 + ∑ _ : Fin n, Stage.left .arriving ≤ 9 * n
      simp [Stage.left, Nat.mul_comm]
  | step _ hstep ih =>
      have hless := hstep.left_lt
      rw [List.length_append, List.length_singleton]
      omega

theorem exists_step_of_mayMove (hmay : race.MayMove i) :
    exists after, Step directory kind contexts race i after := by
  rcases Stage.exists_move directory (race.hierarchies.cache.key kind (contexts i)) (race.stage i)
    race.hierarchies with ⟨next, later, hmove, _⟩
  exact ⟨_, .move hmay hmove⟩

theorem mayMove_of_locked (hlocked : (race.stage i).locked = true) : race.MayMove i := by
  unfold MayMove
  cases hstage : race.stage i <;> first | trivial | (rw [hstage] at hlocked; cases hlocked)

/-- While somebody has not finished, somebody can take a step. -/
theorem Inv.exists_step (hinv : race.Inv directory key start) (hgoing : ¬ race.Finished) :
    exists i after, Step directory kind contexts race i after := by
  unfold Finished at hgoing
  rw [not_forall] at hgoing
  rcases hgoing with ⟨i, hunfinished⟩
  suffices hmay : exists j, race.MayMove j by
    rcases hmay with ⟨j, hmay⟩
    exact ⟨j, exists_step_of_mayMove hmay⟩
  unfold result? at hunfinished
  cases hstage : race.stage i with
  | waiting =>
      cases hholder : race.holder with
      | none =>
          refine ⟨i, ?_⟩
          unfold MayMove
          rw [hstage]
          exact hholder
      | some j => exact ⟨j, mayMove_of_locked ((hinv.locked_iff j).mpr hholder)⟩
  | served graph =>
      rw [hstage] at hunfinished
      exact absurd rfl hunfinished
  | ended result =>
      rw [hstage] at hunfinished
      exact absurd rfl hunfinished
  | _ =>
      refine ⟨i, ?_⟩
      unfold MayMove
      rw [hstage]
      trivial

theorem Plays.exists_finished (hopen : start.cache.closed = false)
    (hunloaded : start.cache.graph? key = none)
    (hkey : forall i, start.cache.key kind (contexts i) = key)
    (hplays : Plays directory kind contexts start schedule race) :
    exists rest last, Plays directory kind contexts start (schedule ++ rest) last ∧
      last.Finished := by
  -- The induction is on the number of steps that are left at most.
  induction hleft : ∑ j, (race.stage j).left using Nat.strong_induction_on
    generalizing schedule race with
  | _ left ih =>
      by_cases hfinished : race.Finished
      · exact ⟨[], race, by rwa [List.append_nil], hfinished⟩
      · have hinv := inv_of_plays hopen hunloaded hkey hplays
        have hgoing : exists i after, Step directory kind contexts race i after :=
          hinv.exists_step hfinished
        rcases hgoing with ⟨i, after, hstep⟩
        have hless := hstep.left_lt
        rw [hleft] at hless
        rcases ih _ hless (hplays.step hstep) rfl with ⟨rest, last, hlast, hend⟩
        rw [List.append_assoc] at hlast
        exact ⟨_, last, hlast, hend⟩

end Schedules

end Race
end Hierarchies
end Entitlement
