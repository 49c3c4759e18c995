import Entitlement.Graph.Closure
import Mathlib.Logic.Relation

/-!
# Exactness of the breadth-first search

The search finds the unseen vertices that are reached from the pending ones, and no others.  Each
round either passes a pending vertex over or takes it from the unseen ones, and the induction below
follows these two rounds.

For a search over all positions of a graph, reaching is the transitive closure of the successor
relation.
-/

namespace Entitlement

/-- The rounds of a breadth-first search as an induction principle. -/
theorem closure_induction (next : Nat -> List Nat) {motive : List Nat -> List Nat -> Prop}
    (done : forall unseen, motive unseen [])
    (skip : forall unseen vertex pending, vertex ∉ unseen -> motive unseen pending ->
      motive unseen (vertex :: pending))
    (take : forall unseen vertex pending, vertex ∈ unseen ->
      motive (unseen.erase vertex) (pending ++ next vertex) -> motive unseen (vertex :: pending))
    (unseen pending : List Nat) : motive unseen pending := by
  -- A round either takes a vertex from the unseen ones or leaves them and skips a pending one.
  induction hcount : unseen.length using Nat.strongRecOn generalizing unseen pending with
  | ind count ih =>
      induction pending with
      | nil => exact done unseen
      | cons vertex pending ihPending =>
          by_cases hunseen : vertex ∈ unseen
          · have hshorter : (unseen.erase vertex).length < count := by
              have hpositive := List.length_pos_of_mem hunseen
              rw [List.length_erase_of_mem hunseen]
              omega
            exact take unseen vertex pending hunseen (ih _ hshorter _ _ rfl)
          · exact skip unseen vertex pending hunseen ihPending

variable {next : Nat -> List Nat} {unseen pending : List Nat} {vertex : Nat}

theorem mem_closure_of_mem_pending (hpending : vertex ∈ pending) (hunseen : vertex ∈ unseen) :
    vertex ∈ closure next unseen pending := by
  induction unseen, pending using closure_induction next with
  | done unseen => cases hpending
  | skip unseen head pending hseen ih =>
      rw [closure_cons_of_not_mem hseen]
      rcases List.mem_cons.mp hpending with hhead | htail
      · rw [← hhead] at hseen
        exact absurd hunseen hseen
      · exact ih htail hunseen
  | take unseen head pending hhead ih =>
      rw [closure_cons_of_mem hhead]
      by_cases hsame : vertex = head
      · rw [hsame]
        exact List.mem_cons_self
      · apply List.mem_cons_of_mem
        have htail : vertex ∈ pending := (List.mem_cons.mp hpending).resolve_left hsame
        exact ih (List.mem_append_left _ htail) ((List.mem_erase_of_ne hsame).mpr hunseen)

theorem mem_closure_of_mem_next {source : Nat} (hsource : source ∈ closure next unseen pending)
    (hnext : vertex ∈ next source) (hunseen : vertex ∈ unseen) :
    vertex ∈ closure next unseen pending := by
  induction unseen, pending using closure_induction next with
  | done unseen =>
      rw [closure_nil] at hsource
      cases hsource
  | skip unseen head pending hseen ih =>
      rw [closure_cons_of_not_mem hseen] at hsource ⊢
      exact ih hsource hunseen
  | take unseen head pending hhead ih =>
      rw [closure_cons_of_mem hhead] at hsource ⊢
      by_cases hsame : vertex = head
      · rw [hsame]
        exact List.mem_cons_self
      · apply List.mem_cons_of_mem
        have hlater : vertex ∈ unseen.erase head := (List.mem_erase_of_ne hsame).mpr hunseen
        rcases List.mem_cons.mp hsource with hfirst | hrest
        · rw [hfirst] at hnext
          exact mem_closure_of_mem_pending (List.mem_append_right _ hnext) hlater
        · exact ih hrest hlater

theorem exists_pending_of_mem_closure (h : vertex ∈ closure next unseen pending) :
    exists start, start ∈ pending ∧
      Relation.ReflTransGen (fun source target => target ∈ next source) start vertex := by
  induction unseen, pending using closure_induction next with
  | done unseen =>
      rw [closure_nil] at h
      cases h
  | skip unseen head pending hseen ih =>
      rw [closure_cons_of_not_mem hseen] at h
      rcases ih h with ⟨start, hstart, hpath⟩
      exact ⟨start, List.mem_cons_of_mem _ hstart, hpath⟩
  | take unseen head pending hhead ih =>
      rw [closure_cons_of_mem hhead] at h
      rcases List.mem_cons.mp h with hfirst | hrest
      · exact ⟨head, List.mem_cons_self, by rw [hfirst]⟩
      · rcases ih hrest with ⟨start, hstart, hpath⟩
        rcases List.mem_append.mp hstart with hold | hnew
        · exact ⟨start, List.mem_cons_of_mem _ hold, hpath⟩
        · exact ⟨head, List.mem_cons_self, Relation.ReflTransGen.head hnew hpath⟩

/-- A search over all positions finds what a path of at least one step leads to. -/
theorem mem_closure_range_iff {size start : Nat}
    (hbound : forall source target, target ∈ next source -> target < size) :
    vertex ∈ closure next (List.range size) (next start) ↔
      Relation.TransGen (fun source target => target ∈ next source) start vertex := by
  constructor
  · intro h
    rcases exists_pending_of_mem_closure h with ⟨first, hfirst, hpath⟩
    exact Relation.TransGen.head' hfirst hpath
  · intro h
    -- A search over all positions finds every successor of what it has found.
    induction h with
    | single hstep =>
        exact mem_closure_of_mem_pending hstep (List.mem_range.mpr (hbound _ _ hstep))
    | tail _ hstep ih =>
        exact mem_closure_of_mem_next ih hstep (List.mem_range.mpr (hbound _ _ hstep))

end Entitlement
