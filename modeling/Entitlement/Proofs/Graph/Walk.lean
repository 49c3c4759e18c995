import Entitlement.Proofs.Graph.Reach
import Mathlib.Algebra.BigOperators.Group.List.Basic
import Mathlib.Algebra.GroupWithZero.Nat
import Mathlib.Logic.Function.Iterate

/-!
# The search, round by round

A breadth-first search keeps a queue.  Each round takes the first position from it and passes it
over if it has been visited before; otherwise the position is visited, and those of its successors
that have not been visited join the queue.  A position may wait in the queue several times, so the
queue alone does not get shorter.  But every position lets its successors join only once, and each
round takes one position away: the positions that wait, together with all that may still join them,
become fewer.

When the queue is empty, the visited positions are those that a path of at least one step leads to.
-/

namespace Entitlement

/-- The positions that a search has visited and those that wait in its queue. -/
structure Walk where
  visited : List Nat
  queue : List Nat

namespace Walk

variable {next : Nat -> List Nat} {size start : Nat} {walk : Walk} {visited : List Nat}

def round (next : Nat -> List Nat) (walk : Walk) : Walk :=
  match walk.queue with
  | [] => walk
  | vertex :: rest =>
      if vertex ∈ walk.visited then
        ⟨walk.visited, rest⟩
      else
        ⟨walk.visited ++ [vertex],
          rest ++ (next vertex).filter fun target => target ∉ walk.visited ++ [vertex]⟩

def outset (next : Nat -> List Nat) (start : Nat) : Walk :=
  ⟨[], next start⟩

/-- After some rounds the queue is empty, and these positions have been visited. -/
def Ends (next : Nat -> List Nat) (start : Nat) (visited : List Nat) : Prop :=
  exists rounds, (round next)^[rounds] (outset next start) = ⟨visited, []⟩

theorem round_of_visited {vertex : Nat} {rest : List Nat} (h : vertex ∈ visited) :
    round next ⟨visited, vertex :: rest⟩ = ⟨visited, rest⟩ :=
  if_pos h

theorem round_of_new {vertex : Nat} {rest : List Nat} (h : vertex ∉ visited) :
    round next ⟨visited, vertex :: rest⟩ =
      ⟨visited ++ [vertex],
        rest ++ (next vertex).filter fun target => target ∉ visited ++ [vertex]⟩ :=
  if_neg h

/-!
# What a search knows
-/

def Leads (next : Nat -> List Nat) : Nat -> Nat -> Prop :=
  Relation.TransGen fun source target => target ∈ next source

/-- A search has come across positions on paths only, and no step leads out of what it knows. -/
structure Explores (next : Nat -> List Nat) (start : Nat) (walk : Walk) : Prop where
  reached : forall vertex, vertex ∈ walk.visited ∨ vertex ∈ walk.queue -> Leads next start vertex
  closed : forall source target, source = start ∨ source ∈ walk.visited -> target ∈ next source ->
    target ∈ walk.visited ∨ target ∈ walk.queue

theorem explores_outset (next : Nat -> List Nat) (start : Nat) :
    Explores next start (outset next start) where
  reached := by
    intro vertex hknown
    rcases hknown with hvisited | hqueue
    · cases hvisited
    · exact Relation.TransGen.single hqueue
  closed := by
    intro source target hsource htarget
    rcases hsource with hstart | hvisited
    · rw [hstart] at htarget
      exact Or.inr htarget
    · cases hvisited

theorem Explores.round (h : Explores next start walk) : Explores next start (walk.round next) := by
  rcases walk with ⟨visited, queue⟩
  cases queue with
  | nil => exact h
  | cons vertex rest =>
      by_cases hvisited : vertex ∈ visited
      · rw [round_of_visited hvisited]
        constructor
        · intro other hother
          exact h.reached other (hother.imp_right (List.mem_cons_of_mem vertex))
        · intro source target hsource htarget
          rcases h.closed source target hsource htarget with hold | hqueue
          · exact Or.inl hold
          · rcases List.mem_cons.mp hqueue with hhead | htail
            · rw [hhead]
              exact Or.inl hvisited
            · exact Or.inr htail
      · have hvertex : Leads next start vertex :=
          h.reached vertex (Or.inr List.mem_cons_self)
        rw [round_of_new hvisited]
        constructor
        · intro other hother
          simp only [List.mem_append, List.mem_singleton, List.mem_filter] at hother
          rcases hother with (hold | hnew) | hwaits | hjoins
          · exact h.reached other (Or.inl hold)
          · rw [hnew]
            exact hvertex
          · exact h.reached other (Or.inr (List.mem_cons_of_mem vertex hwaits))
          · exact hvertex.tail hjoins.1
        · intro source target hsource htarget
          -- Only the new position lets its successors join; all others are accounted for.
          have hknown : source = vertex ∨ source = start ∨ source ∈ visited := by
            simp only [List.mem_append, List.mem_singleton] at hsource
            tauto
          by_cases hvisitedNow : target ∈ visited ++ [vertex]
          · exact Or.inl hvisitedNow
          · apply Or.inr
            rcases hknown with hnew | hold
            · rw [hnew] at htarget
              apply List.mem_append_right
              exact List.mem_filter.mpr ⟨htarget, decide_eq_true hvisitedNow⟩
            · rcases h.closed source target hold htarget with hbefore | hqueue
              · exact absurd (List.mem_append_left _ hbefore) hvisitedNow
              · rcases List.mem_cons.mp hqueue with hhead | htail
                · rw [hhead] at hvisitedNow
                  exact absurd (List.mem_append_right _ List.mem_cons_self) hvisitedNow
                · exact List.mem_append_left _ htail

theorem explores_iterate (next : Nat -> List Nat) (start rounds : Nat) :
    Explores next start ((round next)^[rounds] (outset next start)) := by
  induction rounds with
  | zero => exact explores_outset next start
  | succ rounds ih =>
      rw [Function.iterate_succ_apply']
      exact ih.round

/-- Whenever a search ends, it has visited what a path of at least one step leads to. -/
theorem Ends.mem_iff (h : Ends next start visited) {vertex : Nat} :
    vertex ∈ visited ↔ Leads next start vertex := by
  rcases h with ⟨rounds, hrounds⟩
  have hexplores := explores_iterate next start rounds
  rw [hrounds] at hexplores
  constructor
  · intro hvisited
    exact hexplores.reached vertex (Or.inl hvisited)
  · intro hpath
    induction hpath with
    | single hstep =>
        exact (hexplores.closed _ _ (Or.inl rfl) hstep).resolve_right List.not_mem_nil
    | tail _ hstep ih =>
        exact (hexplores.closed _ _ (Or.inr ih) hstep).resolve_right List.not_mem_nil

/-!
# Searches end
-/

def unvisited (size : Nat) (visited : List Nat) : List Nat :=
  (List.range size).filter fun vertex => vertex ∉ visited

/-- The positions that wait, and all that may still join them. -/
def budget (next : Nat -> List Nat) (size : Nat) (walk : Walk) : Nat :=
  walk.queue.length + ((unvisited size walk.visited).map fun vertex => (next vertex).length).sum

theorem unvisited_concat (size vertex : Nat) (visited : List Nat) :
    unvisited size (visited ++ [vertex]) = (unvisited size visited).erase vertex := by
  have hnodup : (unvisited size visited).Nodup := List.nodup_range.filter _
  rw [hnodup.erase_eq_filter]
  unfold unvisited
  rw [List.filter_filter]
  apply List.filter_congr
  intro other _
  rw [Bool.eq_iff_iff]
  simp only [List.mem_append, List.mem_singleton, not_or, Bool.and_eq_true, decide_eq_true_iff,
    bne_iff_ne]
  exact and_comm

theorem budget_round (next : Nat -> List Nat) (hqueue : walk.queue ≠ [])
    (hbound : forall vertex, vertex ∈ walk.queue -> vertex < size) :
    (walk.round next).budget next size < walk.budget next size := by
  rcases walk with ⟨visited, queue⟩
  cases queue with
  | nil => exact absurd rfl hqueue
  | cons vertex rest =>
      by_cases hvisited : vertex ∈ visited
      · rw [round_of_visited hvisited]
        unfold budget
        simp only [List.length_cons]
        omega
      · have hmember : vertex ∈ unvisited size visited := by
          apply List.mem_filter.mpr
          exact ⟨List.mem_range.mpr (hbound vertex List.mem_cons_self), decide_eq_true hvisited⟩
        have hsum := List.sum_map_erase (fun vertex => (next vertex).length) hmember
        have hjoin := List.length_filter_le (fun target => decide (target ∉ visited ++ [vertex]))
          (next vertex)
        rw [round_of_new hvisited]
        unfold budget
        simp only [unvisited_concat, List.length_append, List.length_cons]
        omega

theorem exists_ends (hbound : forall source target, target ∈ next source -> target < size)
    (start : Nat) : exists visited, Ends next start visited := by
  have hfinish : forall budget rounds,
      ((round next)^[rounds] (outset next start)).budget next size = budget ->
        exists visited, Ends next start visited := by
    intro budget
    -- The rounds that are left go down with the budget.
    induction budget using Nat.strongRecOn with
    | ind budget ih =>
        intro rounds hbudget
        by_cases hqueue : ((round next)^[rounds] (outset next start)).queue = []
        · refine ⟨((round next)^[rounds] (outset next start)).visited, rounds, ?_⟩
          rw [← hqueue]
        · have hexplores := explores_iterate next start rounds
          have hwithin : forall vertex,
              vertex ∈ ((round next)^[rounds] (outset next start)).queue -> vertex < size := by
            intro vertex hvertex
            have hpath := hexplores.reached vertex (Or.inr hvertex)
            rcases Relation.TransGen.tail'_iff.mp hpath with ⟨source, _, hstep⟩
            exact hbound source vertex hstep
          have hless := budget_round next hqueue hwithin
          rw [hbudget] at hless
          apply ih _ hless (rounds + 1)
          rw [Function.iterate_succ_apply']
  exact hfinish _ 0 rfl

end Walk

end Entitlement
