import Entitlement.Proofs.Graph.Order
import Entitlement.Proofs.Hierarchies.Trace

/-!
# What a trace says

The events of a trace alone say what live hierarchies should serve: the rows of the last build that
succeeded, unless they were dropped since, with all changes that have returned since, in order.
What the directory holds meanwhile, and what was refused, does not count.
-/

namespace Entitlement

def Change.onEdges (edges : Finset Relationship) (edge : Relationship) :
    Change -> Finset Relationship
  | .add => insert edge edges
  | .remove => edges.erase edge

namespace Hierarchies

variable {σ : Type}

/-!
# Specification
-/

/-- The event is a listing of a hierarchy with these edges, so that a build from it succeeds. -/
def Event.Builds (key : HierarchyKey) (edges : List Relationship) (event : Event) : Prop :=
  exists rows, event = .listed key.kind (some key.context) (.ok rows) ∧
    readRows rows = .ok edges ∧ Hierarchical edges

def Event.Drops (sentinel : String) (key : HierarchyKey) : Event -> Prop
  | .finished (.invalidate kind context) _ => HierarchyKey.of sentinel kind context = key
  | .finished .clear _ => True
  | .finished .close _ => True
  | _ => False

/-- What an event makes of the edges of a hierarchy: only a change that has returned counts. -/
def Event.onEdges (sentinel : String) (key : HierarchyKey) (event : Event)
    (edges : Finset Relationship) : Finset Relationship :=
  match event with
  | .finished (.change kind context edge label) (.ok _) =>
      if HierarchyKey.of sentinel kind context = key then
        match Change.parse label with
        | .ok change => change.onEdges edges edge
        | .error _ => edges
      else edges
  | _ => edges

/-- The last build of a hierarchy that succeeded, if nothing has dropped the hierarchy since. -/
structure LastBuild (sentinel : String) (key : HierarchyKey) (trace : List Event)
    (edges : List Relationship) (since : List Event) : Prop where
  split : exists before event, trace = before ++ event :: since ∧ event.Builds key edges
  not_dropped : forall event, event ∈ since -> ¬ event.Drops sentinel key
  is_last : forall event, event ∈ since -> forall more, ¬ event.Builds key more

/-- The edges of the last build with all changes since then, in order. -/
def Serves (sentinel : String) (key : HierarchyKey) (trace : List Event)
    (served : Finset Relationship) : Prop :=
  exists edges since, LastBuild sentinel key trace edges since ∧
    served = since.foldl (fun served event => event.onEdges sentinel key served) edges.toFinset

def Event.counts (sentinel : String) (key : HierarchyKey) : Event -> Bool
  | .finished (.change kind context _ _) (.ok (.changed true)) =>
      HierarchyKey.of sentinel kind context = key
  | _ => false

/-!
# One more event
-/

section Events

variable {sentinel : String} {key : HierarchyKey} {trace : List Event} {event : Event}
  {edges : List Relationship} {since : List Event} {served : Finset Relationship}

theorem lastBuild_concat :
    LastBuild sentinel key (trace ++ [event]) edges since ↔
      since = [] ∧ event.Builds key edges ∨
        exists rest, since = rest ++ [event] ∧ LastBuild sentinel key trace edges rest ∧
          ¬ event.Drops sentinel key ∧ forall more, ¬ event.Builds key more := by
  constructor
  · intro h
    rcases h with ⟨⟨before, build, htrace, hbuild⟩, hdrops, hlast⟩
    rcases List.eq_nil_or_concat since with hsince | ⟨rest, last, hsince⟩
    · rw [hsince] at htrace
      rcases List.append_inj' htrace rfl with ⟨_, hsame⟩
      cases hsame
      exact Or.inl ⟨hsince, hbuild⟩
    · rw [List.concat_eq_append] at hsince
      subst hsince
      rw [← List.cons_append, ← List.append_assoc] at htrace
      rcases List.append_inj' htrace rfl with ⟨htrace', hsame⟩
      cases hsame
      have hmember : event ∈ rest ++ [event] := List.mem_append_right _ (List.mem_singleton.mpr rfl)
      refine Or.inr ⟨rest, rfl, ⟨⟨before, build, htrace', hbuild⟩, ?_, ?_⟩, hdrops event hmember,
        hlast event hmember⟩
      · intro other hother
        exact hdrops other (List.mem_append_left _ hother)
      · intro other hother
        exact hlast other (List.mem_append_left _ hother)
  · intro h
    rcases h with ⟨hsince, hbuild⟩ |
      ⟨rest, hsince, ⟨⟨before, build, htrace, hbuild⟩, hdrops, hlast⟩, hkept, hother⟩
    · rw [hsince]
      refine ⟨⟨trace, event, rfl, hbuild⟩, ?_, ?_⟩
      · intro later hlater
        cases hlater
      · intro later hlater
        cases hlater
    · rw [hsince]
      refine ⟨⟨before, build, by rw [htrace]; simp, hbuild⟩, ?_, ?_⟩
      · intro later hlater
        rcases List.mem_append.mp hlater with hold | hnew
        · exact hdrops later hold
        · rw [List.mem_singleton.mp hnew]
          exact hkept
      · intro later hlater
        rcases List.mem_append.mp hlater with hold | hnew
        · exact hlast later hold
        · rw [List.mem_singleton.mp hnew]
          exact hother

theorem serves_concat_of_builds (hbuild : event.Builds key edges) :
    Serves sentinel key (trace ++ [event]) served ↔ served = edges.toFinset := by
  constructor
  · intro h
    rcases h with ⟨more, since, hlast, hserved⟩
    rcases lastBuild_concat.mp hlast with ⟨hsince, hmore⟩ | ⟨rest, _, _, _, hother⟩
    · rcases hbuild with ⟨rows, hevent, hread, _⟩
      rcases hmore with ⟨rows', hevent', hread', _⟩
      rw [hevent] at hevent'
      cases hevent'
      rw [hread] at hread'
      cases hread'
      rw [hserved, hsince]
      rfl
    · exact absurd hbuild (hother edges)
  · intro h
    exact ⟨edges, [], lastBuild_concat.mpr (Or.inl ⟨rfl, hbuild⟩), h⟩

theorem not_serves_concat_of_drops (hdrops : event.Drops sentinel key)
    (hbuild : forall more, ¬ event.Builds key more) :
    ¬ Serves sentinel key (trace ++ [event]) served := by
  intro h
  rcases h with ⟨edges, since, hlast, _⟩
  rcases lastBuild_concat.mp hlast with ⟨_, hbuilds⟩ | ⟨_, _, _, hkept, _⟩
  · exact hbuild edges hbuilds
  · exact hkept hdrops

theorem serves_concat_of_kept (hkept : ¬ event.Drops sentinel key)
    (hbuild : forall more, ¬ event.Builds key more) :
    Serves sentinel key (trace ++ [event]) served ↔
      exists before, Serves sentinel key trace before ∧
        served = event.onEdges sentinel key before := by
  constructor
  · intro h
    rcases h with ⟨edges, since, hlast, hserved⟩
    rcases lastBuild_concat.mp hlast with ⟨_, hbuilds⟩ | ⟨rest, hsince, hrest, _, _⟩
    · exact absurd hbuilds (hbuild edges)
    · rw [hsince, List.foldl_concat] at hserved
      exact ⟨_, ⟨edges, rest, hrest, rfl⟩, hserved⟩
  · intro h
    rcases h with ⟨before, ⟨edges, rest, hrest, hbefore⟩, hserved⟩
    refine ⟨edges, rest ++ [event], ?_, ?_⟩
    · exact lastBuild_concat.mpr (Or.inr ⟨rest, rfl, hrest, hkept, hbuild⟩)
    · rw [List.foldl_concat, ← hbefore]
      exact hserved

end Events

end Hierarchies
end Entitlement
