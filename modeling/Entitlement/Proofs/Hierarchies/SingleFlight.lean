import Entitlement.Directory.Scripted
import Entitlement.Proofs.Hierarchies.Interleaving
import Mathlib.Data.ENat.Lattice

/-!
# Single flight

However the steps of racing callers are interleaved, the directory is asked by one caller after the
other until an answer can be built, and not again after that.  A caller who has asked returns or
raises what came of its own answer; all others return the graph that was published.

This is said of callers who move as `Stage.move` lets them.  That they are callers of
`Hierarchies.graph` is `Stage.effect_walk_arriving`: one who is left alone does what that does.
-/

namespace Entitlement
namespace Hierarchies

variable {σ : Type}

/-- The position of the first answer that can be built, counted from one. -/
inductive FirstSuccess (answers : Nat -> Except Fault Graph) : ℕ∞ -> Prop where
  | success {m : Nat} {graph : Graph} :
      (forall k, k < m -> exists fault, answers k = .error fault) -> answers m = .ok graph ->
      FirstSuccess answers ((m + 1 : Nat) : ℕ∞)
  | never : (forall k, exists fault, answers k = .error fault) -> FirstSuccess answers ⊤

section FirstSuccess

variable {answers : Nat -> Except Fault Graph}

theorem exists_firstSuccess (answers : Nat -> Except Fault Graph) :
    exists j, FirstSuccess answers j := by
  by_cases hsome : exists m graph, answers m = .ok graph
  · classical
    rcases Nat.find_spec hsome with ⟨graph, hgraph⟩
    refine ⟨_, .success (fun k hk => ?_) hgraph⟩
    cases hanswer : answers k with
    | error fault => exact ⟨fault, rfl⟩
    | ok other => exact absurd ⟨other, hanswer⟩ (Nat.find_min hsome hk)
  · refine ⟨⊤, .never fun k => ?_⟩
    cases hanswer : answers k with
    | error fault => exact ⟨fault, rfl⟩
    | ok graph => exact absurd ⟨k, graph, hanswer⟩ hsome

theorem FirstSuccess.eq_of_ok {j : ℕ∞} (hfirst : FirstSuccess answers j) {m : Nat} {graph : Graph}
    (hgraph : answers m = .ok graph)
    (hearlier : forall k, k < m -> exists fault, answers k = .error fault) :
    j = ((m + 1 : Nat) : ℕ∞) := by
  have hnone : forall {k : Nat} {found : Graph}, answers k = .ok found ->
      ¬ exists fault, answers k = .error fault := by
    rintro k found hfound ⟨fault, hfault⟩
    rw [hfound] at hfault
    cases hfault
  cases hfirst with
  | @success m' graph' hbefore hgraph' =>
      rcases Nat.lt_trichotomy m m' with hless | hsame | hmore
      · exact absurd (hbefore m hless) (hnone hgraph)
      · rw [hsame]
      · exact absurd (hearlier m' hmore) (hnone hgraph')
  | never hfailed => exact absurd (hfailed m) (hnone hgraph)

theorem FirstSuccess.lt_of_error {j : ℕ∞} (hfirst : FirstSuccess answers j) {n : Nat}
    (hfailed : forall k, k < n -> exists fault, answers k = .error fault) : (n : ℕ∞) < j := by
  cases hfirst with
  | @success m graph _ hgraph =>
      have hlate : n ≤ m := by
        by_contra hearly
        rcases hfailed m (by omega) with ⟨fault, hfault⟩
        rw [hgraph] at hfault
        cases hfault
      exact_mod_cast Nat.lt_succ_of_le hlate
  | never _ => exact ENat.natCast_lt_top n

end FirstSuccess

namespace Race

variable {n : Nat} {directory : Directory σ} {key : HierarchyKey} {start : Hierarchies σ}
  {race : Race n σ} {i : Fin n}

/-!
# Races that have come to an end
-/

def raises (race : Race n σ) (i : Fin n) : Bool :=
  match race.result? i with
  | some (.error _) => true
  | _ => false

/-- What has come of a race, if the first answer that can be built has this position. -/
structure SingleFlight (directory : Directory σ) (key : HierarchyKey) (start : Hierarchies σ)
    (race : Race n σ) (j : ℕ∞) : Prop where
  asked : (race.askers.length : ℕ∞) = min (n : ℕ∞) j
  askers_nodup : race.askers.Nodup
  directory_eq : race.hierarchies.directory =
    afterListings directory (List.replicate race.askers.length key) start.directory
  raisers : ((Finset.univ.filter fun i => race.raises i = true).card : ℕ∞) = min (n : ℕ∞) (j - 1)
  /-- Who raises has asked the directory and raises what came of the answer. -/
  raised : forall i fault, race.result? i = some (.error fault) ->
    exists k, race.askers[k]? = some i ∧ nthAnswer directory key start k = .error fault
  returned : forall i graph, race.result? i = some (.ok graph) ->
    exists m : Nat, j = ((m + 1 : Nat) : ℕ∞) ∧ nthAnswer directory key start m = .ok graph
  misses_eq : (race.hierarchies.cache.counts.misses : ℕ∞) =
    start.cache.counts.misses + min (n : ℕ∞) j
  hits_eq : (race.hierarchies.cache.counts.hits : ℕ∞) = start.cache.counts.hits + ((n : ℕ∞) - j)
  failedBuilds_eq : (race.hierarchies.cache.counts.failedBuilds : ℕ∞) =
    start.cache.counts.failedBuilds + min (n : ℕ∞) (j - 1)
  builds_eq : race.hierarchies.cache.counts.builds =
    start.cache.counts.builds + if j ≤ (n : ℕ∞) then 1 else 0
  mutations_eq : race.hierarchies.cache.counts.mutations = start.cache.counts.mutations
  invalidations_eq : race.hierarchies.cache.counts.invalidations =
    start.cache.counts.invalidations

theorem stage_of_finished (hfinished : race.Finished) (i : Fin n) :
    (exists graph, race.stage i = .served graph) ∨ exists result, race.stage i = .ended result := by
  have hresult := hfinished i
  unfold result? at hresult
  cases hstage : race.stage i with
  | served graph => exact Or.inl ⟨graph, rfl⟩
  | ended result => exact Or.inr ⟨result, rfl⟩
  | _ =>
      rw [hstage] at hresult
      cases hresult

section Finished

variable (hinv : race.Inv directory key start) (hfinished : race.Finished)

include hinv

theorem Inv.asked_of_ended {result : Except Fault Graph} (hstage : race.stage i = .ended result) :
    exists k, race.askers[k]? = some i ∧ result = nthAnswer directory key start k :=
  (hinv.asked_iff i result).mp (by rw [hstage]; rfl)

include hfinished

theorem Inv.mem_askers_iff (i : Fin n) :
    i ∈ race.askers ↔ exists result, race.stage i = .ended result := by
  constructor
  · intro hasker
    rcases List.mem_iff_getElem?.mp hasker with ⟨k, hk⟩
    have hanswer := (hinv.asked_iff i _).mpr ⟨k, hk, rfl⟩
    rcases stage_of_finished hfinished i with ⟨graph, hserved⟩ | hended
    · rw [hserved] at hanswer
      cases hanswer
    · exact hended
  · rintro ⟨result, hended⟩
    rcases hinv.asked_of_ended hended with ⟨k, hk, _⟩
    exact List.mem_of_getElem? hk

/-- All callers have failed with their own answers, or the last answer has been published. -/
theorem Inv.settled :
    (race.askers.length = n ∧ (forall i, exists fault, race.stage i = .ended (.error fault)) ∧
        forall k, k < n -> exists fault, nthAnswer directory key start k = .error fault) ∨
      exists m graph, race.askers.length = m + 1 ∧
        nthAnswer directory key start m = .ok graph ∧
        forall k, k < m -> exists fault, nthAnswer directory key start k = .error fault := by
  cases hgraph : race.hierarchies.cache.graph? key with
  | some graph =>
      rcases hinv.published graph hgraph with ⟨m, hm, hanswer⟩
      exact Or.inr ⟨m, graph, hm.symm, hanswer, fun k hk => hinv.earlier k (by omega)⟩
  | none =>
      have hfailed : forall i, exists fault, race.stage i = .ended (.error fault) := by
        intro i
        have hunseen : forall graph, (race.stage i).seen? ≠ some graph := by
          intro graph hseen
          have hfound := hinv.seen i graph hseen
          rw [hgraph] at hfound
          cases hfound
        rcases stage_of_finished hfinished i with ⟨graph, hserved⟩ | ⟨result, hended⟩
        · rw [hserved] at hunseen
          exact absurd rfl (hunseen graph)
        · cases result with
          | error fault => exact ⟨fault, hended⟩
          | ok graph =>
              rw [hended] at hunseen
              exact absurd rfl (hunseen graph)
      have hall : forall i, i ∈ race.askers := by
        intro i
        rcases hfailed i with ⟨fault, hended⟩
        exact (hinv.mem_askers_iff hfinished i).mpr ⟨_, hended⟩
      have hlength : race.askers.length = n := by
        rw [← List.toFinset_card_of_nodup hinv.askers_nodup,
          Finset.eq_univ_iff_forall.mpr fun i => List.mem_toFinset.mpr (hall i),
          Finset.card_univ, Fintype.card_fin]
      refine Or.inl ⟨hlength, hfailed, fun k hk => ?_⟩
      rw [← hlength] at hk
      rcases Nat.lt_or_ge (k + 1) race.askers.length with hbefore | hlast
      · exact hinv.earlier k hbefore
      · cases hanswer : nthAnswer directory key start k with
        | error fault => exact ⟨fault, rfl⟩
        | ok graph =>
            rcases hinv.latest k graph (by omega) hanswer with hfound | ⟨i, hsettling⟩
            · rw [hgraph] at hfound
              cases hfound
            · rcases hfailed i with ⟨fault, hended⟩
              rw [hsettling] at hended
              cases hended

/-!
# Sums over all callers
-/

theorem Inv.sum_misses : ∑ i, (race.stage i).tally.misses = race.askers.length := by
  have hmisses : forall i, (race.stage i).tally.misses = if i ∈ race.askers then 1 else 0 := by
    intro i
    rcases stage_of_finished hfinished i with ⟨graph, hserved⟩ | ⟨result, hended⟩
    · rw [if_neg, hserved]
      · rfl
      · rw [hinv.mem_askers_iff hfinished, hserved]
        nofun
    · rw [if_pos ((hinv.mem_askers_iff hfinished i).mpr ⟨result, hended⟩), hended]
      cases result <;> rfl
  simp only [hmisses]
  rw [Finset.sum_boole, ← List.toFinset_card_of_nodup hinv.askers_nodup]
  refine congrArg Finset.card (Finset.ext fun i => ?_)
  simp

theorem Inv.sum_hits : (∑ i, (race.stage i).tally.hits) + race.askers.length = n := by
  rw [← hinv.sum_misses hfinished, ← Finset.sum_add_distrib]
  have hone : forall i, (race.stage i).tally.hits + (race.stage i).tally.misses = 1 := by
    intro i
    rcases stage_of_finished hfinished i with ⟨graph, hserved⟩ | ⟨result, hended⟩
    · rw [hserved]
      rfl
    · rw [hended]
      cases result <;> rfl
  simp [hone]

theorem Inv.sum_builds_add :
    (∑ i, (race.stage i).tally.failedBuilds) + ∑ i, (race.stage i).tally.builds =
      race.askers.length := by
  rw [← hinv.sum_misses hfinished, ← Finset.sum_add_distrib]
  refine Finset.sum_congr rfl fun i _ => ?_
  rcases stage_of_finished hfinished i with ⟨graph, hserved⟩ | ⟨result, hended⟩
  · rw [hserved]
    rfl
  · rw [hended]
    cases result <;> rfl

theorem Inv.sum_builds_of_published {m : Nat} {graph : Graph}
    (hlength : race.askers.length = m + 1)
    (hanswer : nthAnswer directory key start m = .ok graph)
    (hbefore : forall k, k < m -> exists fault, nthAnswer directory key start k = .error fault) :
    ∑ i, (race.stage i).tally.builds = 1 := by
  have hlast : exists last, race.askers[m]? = some last :=
    ⟨_, List.getElem?_eq_getElem (by omega)⟩
  rcases hlast with ⟨last, hlast⟩
  have hbuilt : forall i, (race.stage i).tally.builds = if i = last then 1 else 0 := by
    intro i
    rcases stage_of_finished hfinished i with ⟨found, hserved⟩ | ⟨result, hended⟩
    · rw [if_neg, hserved]
      · rfl
      · rintro rfl
        have hasked := (hinv.asked_iff i _).mpr ⟨m, hlast, rfl⟩
        rw [hserved] at hasked
        cases hasked
    · rcases hinv.asked_of_ended hended with ⟨k, hk, hresult⟩
      have hbound := (List.getElem?_eq_some_iff.mp hk).1
      by_cases hsame : k = m
      · rw [hsame, hlast] at hk
        rw [hsame, hanswer] at hresult
        rw [if_pos (Option.some.inj hk).symm, hended, hresult]
        rfl
      · rcases hbefore k (by omega) with ⟨fault, hfault⟩
        rw [hfault] at hresult
        rw [hended, hresult, if_neg]
        · rfl
        · rintro rfl
          exact List.nodup_iff_getElem?_ne_getElem?.mp hinv.askers_nodup k m (by omega) (by omega)
            (hk.trans hlast.symm)
  simp [hbuilt]

end Finished

theorem sum_failedBuilds (hfinished : race.Finished) :
    ∑ i, (race.stage i).tally.failedBuilds =
      (Finset.univ.filter fun i => race.raises i = true).card := by
  rw [Finset.card_filter]
  refine Finset.sum_congr rfl fun i _ => ?_
  unfold raises result?
  rcases stage_of_finished hfinished i with ⟨graph, hserved⟩ | ⟨result, hended⟩
  · rw [hserved]
    rfl
  · rw [hended]
    cases result <;> rfl

/-!
# Single flight
-/

/-- All have asked and failed before the first answer that can be built, or one got that answer. -/
theorem Inv.positions (hinv : race.Inv directory key start) (hfinished : race.Finished) {j : ℕ∞}
    (hfirst : FirstSuccess (nthAnswer directory key start) j) :
    ((n : ℕ∞) < j ∧ race.askers.length = n ∧ ∑ i, (race.stage i).tally.builds = 0) ∨
      exists m : Nat, j = ((m + 1 : Nat) : ℕ∞) ∧ race.askers.length = m + 1 ∧
        ∑ i, (race.stage i).tally.builds = 1 := by
  rcases hinv.settled hfinished with ⟨hlength, hfailed, hnone⟩ |
    ⟨m, graph, hlength, hanswer, hbefore⟩
  · refine Or.inl ⟨hfirst.lt_of_error hnone, hlength, Finset.sum_eq_zero fun i _ => ?_⟩
    rcases hfailed i with ⟨fault, hended⟩
    rw [hended]
    rfl
  · exact Or.inr ⟨m, hfirst.eq_of_ok hanswer hbefore, hlength,
      hinv.sum_builds_of_published hfinished hlength hanswer hbefore⟩

theorem Inv.numbers (hinv : race.Inv directory key start) (hfinished : race.Finished) {j : ℕ∞}
    (hfirst : FirstSuccess (nthAnswer directory key start) j) :
    (race.askers.length : ℕ∞) = min (n : ℕ∞) j ∧
      ((∑ i, (race.stage i).tally.failedBuilds : Nat) : ℕ∞) = min (n : ℕ∞) (j - 1) ∧
      ((∑ i, (race.stage i).tally.hits : Nat) : ℕ∞) = (n : ℕ∞) - j ∧
      ∑ i, (race.stage i).tally.builds = if j ≤ (n : ℕ∞) then 1 else 0 := by
  have hhits := hinv.sum_hits hfinished
  have hbuilds := hinv.sum_builds_add hfinished
  rcases hinv.positions hfinished hfirst with ⟨hlate, hlength, hnone⟩ |
    ⟨m, hposition, hlength, hone⟩
  · have hnoHits : ∑ i, (race.stage i).tally.hits = 0 := by omega
    have hallFailed : ∑ i, (race.stage i).tally.failedBuilds = n := by omega
    rw [hlength, hnoHits, hallFailed, hnone, min_eq_left hlate.le, if_neg (not_le.mpr hlate),
      tsub_eq_zero_of_le hlate.le, min_eq_left (ENat.le_sub_one_of_lt hlate)]
    exact ⟨rfl, rfl, rfl, rfl⟩
  · have hrest : ∑ i, (race.stage i).tally.hits = n - (m + 1) := by omega
    have hfailedRest : ∑ i, (race.stage i).tally.failedBuilds = m := by omega
    have hwithin : j ≤ (n : ℕ∞) := by
      rw [hposition]
      exact_mod_cast (by omega : m + 1 ≤ n)
    have hpred : j - 1 = (m : ℕ∞) := by
      rw [hposition]
      norm_cast
    rw [min_eq_right hwithin, min_eq_right (tsub_le_self.trans hwithin), if_pos hwithin, hpred,
      hposition, hlength, hrest, hfailedRest, hone]
    exact ⟨rfl, rfl, ENat.natCast_sub _ _, rfl⟩

theorem Inv.singleFlight (hinv : race.Inv directory key start) (hfinished : race.Finished)
    {j : ℕ∞} (hfirst : FirstSuccess (nthAnswer directory key start) j) :
    race.SingleFlight directory key start j := by
  rcases hinv.numbers hfinished hfirst with ⟨hasked, hfailed, hhits, hbuilds⟩
  have hpart : forall part, part ∈ countParts -> part race.hierarchies.cache.counts =
      part start.cache.counts + ∑ i, part (race.stage i).tally := hinv.counted
  simp only [countParts, List.forall_mem_cons, List.not_mem_nil, IsEmpty.forall_iff,
    implies_true, and_true] at hpart
  rcases hpart with ⟨hhitsPart, hmissesPart, hbuildsPart, hfailedPart, hmutations, hinvalidations⟩
  have hunchanged : forall i, (race.stage i).tally.mutations = 0 ∧
      (race.stage i).tally.invalidations = 0 := by
    intro i
    rcases stage_of_finished hfinished i with ⟨graph, hserved⟩ | ⟨result, hended⟩
    · rw [hserved]
      exact ⟨rfl, rfl⟩
    · rw [hended]
      cases result <;> exact ⟨rfl, rfl⟩
  refine
    { asked := hasked
      askers_nodup := hinv.askers_nodup
      directory_eq := hinv.directory_eq
      raisers := ?_
      raised := ?_
      returned := ?_
      misses_eq := ?_
      hits_eq := ?_
      failedBuilds_eq := ?_
      builds_eq := hbuildsPart.trans (congrArg _ hbuilds)
      mutations_eq := ?_
      invalidations_eq := ?_ }
  · rw [← sum_failedBuilds hfinished]
    exact hfailed
  · intro i fault hraised
    unfold result? at hraised
    rcases stage_of_finished hfinished i with ⟨graph, hserved⟩ | ⟨result, hended⟩
    · rw [hserved] at hraised
      cases hraised
    · rw [hended] at hraised
      cases hraised
      rcases hinv.asked_of_ended hended with ⟨k, hk, hresult⟩
      exact ⟨k, hk, hresult.symm⟩
  · intro i graph hreturned
    have hseen : (race.stage i).seen? = some graph := by
      unfold result? at hreturned
      rcases stage_of_finished hfinished i with ⟨found, hserved⟩ | ⟨result, hended⟩
      · rw [hserved] at hreturned ⊢
        cases hreturned
        rfl
      · rw [hended] at hreturned ⊢
        cases hreturned
        rfl
    rcases hinv.published graph (hinv.seen i graph hseen) with ⟨m, hm, hanswer⟩
    refine ⟨m, hfirst.eq_of_ok hanswer fun k hk => ?_, hanswer⟩
    exact hinv.earlier k (by omega)
  · rw [hmissesPart, hinv.sum_misses hfinished, Nat.cast_add, hasked]
  · rw [hhitsPart, Nat.cast_add, hhits]
  · rw [hfailedPart, Nat.cast_add, hfailed]
  · rw [hmutations, Finset.sum_eq_zero fun i _ => (hunchanged i).1, Nat.add_zero]
  · rw [hinvalidations, Finset.sum_eq_zero fun i _ => (hunchanged i).2, Nat.add_zero]

end Race
end Hierarchies

/--
Callers that ask for one hierarchy at the same time build it once, whatever the order of their
steps: they ask the directory until an answer can be built, each who got another answer raises, and
all others return the graph of that answer.  By `Stage.effect_walk_arriving` each caller is a
question that is taken step by step.
-/
theorem single_flight {σ : Type} {directory : Directory σ} {kind : HierarchyKind} {n : Nat}
    {contexts : Fin n -> Option String} {h : Hierarchies σ} {key : HierarchyKey}
    (hopen : h.cache.closed = false) (hunloaded : h.cache.graph? key = none)
    (hkey : forall i, h.cache.key kind (contexts i) = key) :
    exists j, Hierarchies.FirstSuccess (Hierarchies.nthAnswer directory key h) j ∧
      forall schedule race,
        Hierarchies.Race.Plays directory kind contexts h schedule race ->
          schedule.length ≤ 9 * n ∧
          (race.Finished ∨
            exists i after, Hierarchies.Race.Step directory kind contexts race i after) ∧
          (race.Finished -> race.SingleFlight directory key h j) := by
  rcases Hierarchies.exists_firstSuccess (Hierarchies.nthAnswer directory key h) with ⟨j, hfirst⟩
  refine ⟨j, hfirst, fun schedule race hplays => ?_⟩
  have hinv := Hierarchies.Race.inv_of_plays hopen hunloaded hkey hplays
  refine ⟨?_, ?_, fun hfinished => hinv.singleFlight hfinished hfirst⟩
  · have hbound := hplays.length_add_left_le
    omega
  · by_cases hfinished : race.Finished
    · exact Or.inl hfinished
    · exact Or.inr (hinv.exists_step hfinished)

/-- Four spellings of the unnamed tenant race, and the first listing fails. -/
theorem single_flight_after_a_failed_listing :
    let directory := ScriptedDirectory.directory
    let rows : List Row := [.pair (some "clerk") (some [some "boss"])]
    let h : Hierarchies ScriptedDirectory :=
      ⟨Cache.empty "null", ⟨Store.empty "null", [.error .userMissing, .ok rows], [], []⟩⟩
    let contexts : Fin 4 -> Option String := ![none, some " NULL", some "  ", some "Null\t"]
    exists schedule race, Hierarchies.Race.Plays directory .role contexts h schedule race ∧
      schedule.length ≤ 36 ∧ race.Finished ∧ race.SingleFlight directory ⟨.role, ""⟩ h 2 ∧
      race.askers.length = 2 ∧ (Finset.univ.filter fun i => race.raises i = true).card = 1 ∧
      race.hierarchies.cache.counts.hits = 2 := by
  intro directory rows h contexts
  have hopen : h.cache.closed = false := rfl
  have hunloaded : h.cache.graph? ⟨.role, ""⟩ = none := rfl
  have hkey : forall i, h.cache.key .role (contexts i) = ⟨.role, ""⟩ := by decide +kernel
  rcases single_flight hopen hunloaded hkey with ⟨j, hfirst, hraces⟩
  have hfailed : exists fault, Hierarchies.nthAnswer directory ⟨.role, ""⟩ h 0 = .error fault :=
    ⟨_, rfl⟩
  have hbuilt : exists graph, Hierarchies.nthAnswer directory ⟨.role, ""⟩ h 1 = .ok graph :=
    Action.exists_of_isOk (by decide +kernel)
  rcases hbuilt with ⟨graph, hgraph⟩
  have hposition : j = 2 := by
    refine hfirst.eq_of_ok hgraph fun k hk => ?_
    rw [Nat.lt_one_iff.mp hk]
    exact hfailed
  rw [hposition] at hraces
  rcases Hierarchies.Race.Plays.start.exists_finished hopen hunloaded hkey with
    ⟨schedule, race, hplays, hfinished⟩
  rcases hraces _ _ hplays with ⟨hbound, _, houtcome⟩
  have hflight := houtcome hfinished
  have hasked : min ((4 : Nat) : ℕ∞) 2 = ((2 : Nat) : ℕ∞) := by decide +kernel
  have hraisers : min ((4 : Nat) : ℕ∞) (2 - 1) = ((1 : Nat) : ℕ∞) := by decide +kernel
  refine ⟨_, race, hplays, hbound, hfinished, hflight, ?_, ?_, ?_⟩
  · exact ENat.natCast_inj.mp (hflight.asked.trans hasked)
  · exact ENat.natCast_inj.mp (hflight.raisers.trans hraisers)
  · exact_mod_cast hflight.hits_eq

end Entitlement
