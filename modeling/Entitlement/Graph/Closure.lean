/-!
# Closures over a successor function

Breadth-first search over finitely many vertices. The search keeps the vertices that it has not seen
yet. Each round takes one of them, so there are at most as many rounds as vertices; a pending vertex
that has been seen already is passed over.

The equations below say what the search does with the first pending vertex.
-/

namespace Entitlement

def closureWithin (next : Nat -> List Nat) :
    (count : Nat) -> (unseen pending : List Nat) -> List Nat
  | 0, _, _ => []
  | count + 1, unseen, pending =>
      match pending.dropWhile fun vertex => vertex ∉ unseen with
      | [] => []
      | vertex :: rest =>
          vertex :: closureWithin next count (unseen.erase vertex) (rest ++ next vertex)

/--
The vertices among the unseen ones that are reached from the pending ones by following successors,
in the order in which they are found.
-/
def closure (next : Nat -> List Nat) (unseen pending : List Nat) : List Nat :=
  closureWithin next unseen.length unseen pending

variable {next : Nat -> List Nat} {unseen pending : List Nat} {vertex : Nat}

@[simp] theorem closure_nil : closure next unseen [] = [] := by
  unfold closure
  cases unseen.length with
  | zero => rfl
  | succ count => rfl

theorem closure_cons_of_mem (h : vertex ∈ unseen) :
    closure next unseen (vertex :: pending) =
      vertex :: closure next (unseen.erase vertex) (pending ++ next vertex) := by
  have shorter := List.length_erase_of_mem h
  have positive := List.length_pos_of_mem h
  unfold closure
  rw [shorter]
  cases hcount : unseen.length with
  | zero => omega
  | succ count => simp [closureWithin, h]

theorem closure_cons_of_not_mem (h : vertex ∉ unseen) :
    closure next unseen (vertex :: pending) = closure next unseen pending := by
  unfold closure
  cases unseen.length with
  | zero => rfl
  | succ count => simp [closureWithin, h]

end Entitlement
