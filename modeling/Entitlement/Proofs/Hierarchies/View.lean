import Entitlement.Proofs.Directory.Memory
import Entitlement.Proofs.Graph.OneEdge
import Entitlement.Proofs.Hierarchies.Sound

/-!
# What a hierarchy would answer

The view of a hierarchy is the graph that would be answered for it, without what answering it does
to the live hierarchies.  A loaded graph is in view until it is changed or dropped; a graph that is
not loaded is in view as long as the directory lists the same.

A change that succeeds starts from the graph in view and leaves a loaded graph in view that has one
edge more or less.  It leaves alone what is in view of the other hierarchies, if the directory does
not take the listing for this one as an occasion to list them differently.
-/

namespace Entitlement

/-- Neither listing a hierarchy nor reading a permission makes a difference to what is listed. -/
structure Directory.ListsSteadily {σ : Type} (directory : Directory σ) : Prop where
  after_list : forall kind context kind' context' state,
    ((directory.list kind context).effect ((directory.list kind' context').effect state).2).1 =
      ((directory.list kind context).effect state).1
  after_read : forall kind context request state,
    ((directory.list kind context).effect ((directory.readPermission request).effect state).2).1 =
      ((directory.list kind context).effect state).1

theorem Store.listsSteadily : Store.directory.ListsSteadily where
  after_list := fun kind context kind' context' store =>
    SameEdges.listing_eq (moves_list kind' context' store) kind context
  after_read := fun kind context request store =>
    SameEdges.listing_eq (moves_readPermission request store) kind context

namespace Hierarchies

variable {σ : Type} {directory : Directory σ} {h next : Hierarchies σ} {touched key : HierarchyKey}
  {graph : Graph}

theorem listedGraph_congr {state state' : σ}
    (hlist : ((directory.list key.kind (some key.context)).effect state).1 =
      ((directory.list key.kind (some key.context)).effect state').1) :
    listedGraph directory key state = listedGraph directory key state' := by
  unfold listedGraph
  rw [hlist]

def afterListings (directory : Directory σ) : List HierarchyKey -> σ -> σ
  | [], state => state
  | key :: rest, state =>
      afterListings directory rest
        ((directory.list key.kind (some key.context)).effect state).2

theorem afterListings_append (directory : Directory σ) (first second : List HierarchyKey) (state : σ) :
    afterListings directory (first ++ second) state =
      afterListings directory second (afterListings directory first state) := by
  induction first generalizing state with
  | nil => rfl
  | cons key rest ih => exact ih _

/-- The graph that would be answered, or the fault instead of it. -/
def view (directory : Directory σ) (h : Hierarchies σ) (key : HierarchyKey) : Except Fault Graph :=
  if h.cache.closed then .error .cacheClosed
  else
    match h.cache.graph? key with
    | some graph => .ok graph
    | none => listedGraph directory key h.directory

theorem result_build (directory : Directory σ) (key : HierarchyKey) (h : Hierarchies σ) :
    ((build directory key).effect h).1 = listedGraph directory key h.directory := by
  rw [effect_build_listed]
  cases listedGraph directory key h.directory with
  | error fault => rfl
  | ok graph => rfl

theorem result_graph (directory : Directory σ) (kind : HierarchyKind) (context : Option String)
    (h : Hierarchies σ) :
    ((Hierarchies.graph directory kind context).effect h).1 =
      view directory h (h.cache.key kind context) := by
  rw [effect_graph]
  unfold view
  split
  · rfl
  · cases h.cache.graph? (h.cache.key kind context) with
    | some graph => rfl
    | none => exact result_build directory _ _

theorem result_prepare (directory : Directory σ) (kind : HierarchyKind) (context : Option String)
    (h : Hierarchies σ) :
    ((prepare directory kind context).effect h).1 =
      view directory h (h.cache.key kind context) := by
  rw [effect_prepare, effect_graphToChange, Cache.graph?_withEntry]
  unfold view
  split
  · rfl
  · cases h.cache.graph? (h.cache.key kind context) with
    | some graph => rfl
    | none => exact result_build directory _ _

theorem view_of_loaded (hopen : h.cache.closed = false)
    (hloaded : h.cache.graph? key = some graph) : view directory h key = .ok graph := by
  unfold view
  rw [if_neg (Bool.eq_false_iff.mp hopen), hloaded]

theorem view_of_unloaded (hopen : h.cache.closed = false) (hnone : h.cache.graph? key = none) :
    view directory h key = listedGraph directory key h.directory := by
  unfold view
  rw [if_neg (Bool.eq_false_iff.mp hopen), hnone]

theorem open_of_view (hview : view directory h key = .ok graph) : h.cache.closed = false := by
  unfold view at hview
  split at hview
  · cases hview
  · rename_i hopen
    exact Bool.eq_false_iff.mpr hopen

theorem graph?_of_view (hview : view directory h key = .ok graph)
    (hloaded : h.cache.isLoaded key = true) : h.cache.graph? key = some graph := by
  rcases Option.isSome_iff_exists.mp hloaded with ⟨loaded, hgraph⟩
  rw [view_of_loaded (open_of_view hview) hgraph] at hview
  rw [hgraph, Except.ok.inj hview]

theorem sound_of_listedGraph {state : σ} (hlisted : listedGraph directory key state = .ok graph) :
    graph.Sound := by
  unfold listedGraph at hlisted
  cases hrows : ((directory.list key.kind (some key.context)).effect state).1 with
  | error cause =>
      rw [hrows] at hlisted
      cases hlisted
  | ok rows =>
      rw [hrows] at hlisted
      dsimp only at hlisted
      cases hbuilt : Graph.empty.edited (Graph.addRows rows) with
      | error fault =>
          rw [hbuilt] at hlisted
          cases hlisted
      | ok built =>
          rw [hbuilt] at hlisted
          cases hlisted
          exact sound_of_lists ⟨rows, hrows, hbuilt⟩

theorem Sound.of_view (hsound : h.Sound) (hview : view directory h key = .ok graph) :
    graph.Sound := by
  have hopen := open_of_view hview
  cases hloaded : h.cache.graph? key with
  | some loaded =>
      have hisLoaded := h.cache.isLoaded_eq_true hloaded
      exact hsound key graph (graph?_of_view hview hisLoaded)
  | none =>
      rw [view_of_unloaded hopen hloaded] at hview
      exact sound_of_listedGraph hview

/-!
# Graphs that stay in view
-/

/-- What is in view of a hierarchy lasts while the touched hierarchy is listed, loaded or not. -/
def Lasting (directory : Directory σ) (touched key : HierarchyKey) : Prop :=
  directory.ListsSteadily ∨ key = touched

/-- A graph that is in view and that stays in view while the touched hierarchy is listed. -/
structure Stands (directory : Directory σ) (h : Hierarchies σ) (touched key : HierarchyKey)
    (graph : Graph) : Prop where
  view_eq : view directory h key = .ok graph
  settled : h.cache.isLoaded key = true ∨ Lasting directory touched key

theorem stands_of_loaded (touched : HierarchyKey) (hopen : h.cache.closed = false)
    (hloaded : h.cache.graph? key = some graph) : Stands directory h touched key graph where
  view_eq := view_of_loaded hopen hloaded
  settled := Or.inl (h.cache.isLoaded_eq_true hloaded)

theorem view_read_of_steady (hsteady : directory.ListsSteadily) (request : PermissionRequest)
    (h : Hierarchies σ) (key : HierarchyKey) :
    view directory ((onDirectory (directory.readPermission request)).effect h).2 key =
      view directory h key := by
  have hlisted := hsteady.after_read key.kind (some key.context) request h.directory
  unfold view
  rw [← listedGraph_congr hlisted]
  rfl

theorem Stands.view_read (hstands : Stands directory h touched key graph)
    (hloaded : h.cache.isLoaded touched = true) (request : PermissionRequest) :
    view directory ((onDirectory (directory.readPermission request)).effect h).2 key =
      .ok graph := by
  have hkept : h.cache.isLoaded key = true ∨ directory.ListsSteadily := by
    rcases hstands.settled with hisLoaded | hsteady | hsame
    · exact Or.inl hisLoaded
    · exact Or.inr hsteady
    · rw [hsame]
      exact Or.inl hloaded
  rcases hkept with hisLoaded | hsteady
  · have hgraph := graph?_of_view hstands.view_eq hisLoaded
    have hopen := open_of_view hstands.view_eq
    exact view_of_loaded hopen hgraph
  · exact (view_read_of_steady hsteady request h key).trans hstands.view_eq

theorem stands_of_graph {kind : HierarchyKind} {context : Option String}
    (hgraph : (Hierarchies.graph directory kind context).effect h = (.ok graph, next))
    (touched : HierarchyKey) :
    Stands directory next touched (next.cache.key kind context) graph := by
  have hmoved : Refreshes directory Unrelated h _ :=
    moves_graph (fun _ _ _ => trivial) kind context h
  have hresult := result_graph directory kind context h
  rw [Action.state_eq_effect, hgraph] at hmoved
  rw [hgraph] at hresult
  have hkey : next.cache.key kind context = h.cache.key kind context := by
    unfold Cache.key
    rw [hmoved.sentinel_eq]
  rw [hkey]
  exact stands_of_loaded touched (hmoved.closed_eq.trans (open_of_view hresult.symm))
    (graph?_of_graph hgraph)

/-!
# Changes that succeed
-/

/-- What is the same of two live hierarchies between which one hierarchy has been listed at most. -/
structure Besides (directory : Directory σ) (touched : HierarchyKey) (h next : Hierarchies σ) :
    Prop where
  graph?_eq : forall key, key ≠ touched -> next.cache.graph? key = h.cache.graph? key
  sentinel_eq : next.cache.sentinel = h.cache.sentinel
  closed_eq : next.cache.closed = h.cache.closed
  directory_cases : next.directory = h.directory ∨
    next.directory =
      ((directory.list touched.kind (some touched.context)).effect h.directory).2

theorem Besides.key_eq (hbesides : Besides directory touched h next) (kind : HierarchyKind)
    (context : Option String) : next.cache.key kind context = h.cache.key kind context := by
  unfold Cache.key
  rw [hbesides.sentinel_eq]

theorem Besides.listedGraph_eq (hbesides : Besides directory touched h next)
    (hsteady : directory.ListsSteadily) (key : HierarchyKey) :
    listedGraph directory key next.directory = listedGraph directory key h.directory := by
  rcases hbesides.directory_cases with hsame | hlisted
  · rw [hsame]
  · rw [hlisted]
    exact listedGraph_congr (hsteady.after_list _ _ _ _ _)

theorem Besides.view_eq (hbesides : Besides directory touched h next)
    (hsteady : directory.ListsSteadily) (hother : key ≠ touched) :
    view directory next key = view directory h key := by
  unfold view
  rw [hbesides.closed_eq, hbesides.graph?_eq key hother, hbesides.listedGraph_eq hsteady]

theorem Besides.stands (hbesides : Besides directory touched h next) (hother : key ≠ touched)
    (hstands : Stands directory h touched key graph) : Stands directory next touched key graph := by
  rcases hstands.settled with hloaded | hsteady | hsame
  · apply stands_of_loaded touched (hbesides.closed_eq.trans (open_of_view hstands.view_eq))
    exact (hbesides.graph?_eq key hother).trans (graph?_of_view hstands.view_eq hloaded)
  · exact ⟨(hbesides.view_eq hsteady hother).trans hstands.view_eq, Or.inr (Or.inl hsteady)⟩
  · exact absurd hsame hother

theorem prepare_ok {kind : HierarchyKind} {context : Option String} {current : Graph}
    (hprepare : (prepare directory kind context).effect h = (.ok current, next)) :
    view directory h (h.cache.key kind context) = .ok current ∧
      Besides directory (h.cache.key kind context) h next := by
  cases hopen : h.cache.closed with
  | true =>
      rw [effect_prepare_of_closed directory kind context hopen] at hprepare
      cases hprepare
  | false =>
      cases hloaded : h.cache.graph? (h.cache.key kind context) with
      | some loaded =>
          rw [effect_prepare_of_loaded directory hopen hloaded] at hprepare
          cases hprepare
          refine ⟨view_of_loaded hopen hloaded, ?_, ?_, ?_, Or.inl rfl⟩
          · exact fun key _ => Cache.graph?_withEntry _ _ key
          · exact Cache.sentinel_withEntry _ _
          · exact Cache.closed_withEntry _ _
      | none =>
          rw [effect_prepare_of_unloaded directory hopen hloaded] at hprepare
          have hresult := result_build directory (h.cache.key kind context)
            (h.afterEntry (h.cache.key kind context))
          rw [hprepare] at hresult
          rcases build_cases directory (h.cache.key kind context)
            (h.afterEntry (h.cache.key kind context)) with ⟨fault, hfail⟩ | ⟨built, _, hbuilt⟩
          · rw [hprepare] at hfail
            cases hfail
          · rw [hprepare] at hbuilt
            cases hbuilt
            refine ⟨(view_of_unloaded hopen hloaded).trans hresult.symm, ?_, ?_, ?_, Or.inr rfl⟩
            · intro key hother
              rw [graph?_afterBuild, if_neg hother]
              exact Cache.graph?_withEntry _ _ key
            · exact Cache.sentinel_withEntry _ _
            · exact Cache.closed_withEntry _ _

/-- A change that has been carried out, from the graph in view to the one that is loaded now. -/
structure Carried (directory : Directory σ) (touched : HierarchyKey) (edge : Relationship)
    (change : Change) (changed : Bool) (h next : Hierarchies σ) (before now : Graph) : Prop where
  besides : Besides directory touched h next
  view_eq : view directory h touched = .ok before
  changes : Graph.Changes before edge change changed now
  loaded : next.cache.graph? touched = some now

section Carried

variable {edge : Relationship} {change : Change} {changed : Bool} {before now : Graph}

theorem Carried.open_after
    (hcarried : Carried directory touched edge change changed h next before now) :
    next.cache.closed = false :=
  hcarried.besides.closed_eq.trans (open_of_view hcarried.view_eq)

theorem Besides.afterChange (hbesides : Besides directory touched h next) (graph : Graph)
    (changed : Bool) : Besides directory touched h (next.afterChange touched graph changed) where
  graph?_eq := by
    intro key hother
    rw [graph?_afterChange, if_neg fun hboth => hother hboth.2]
    exact hbesides.graph?_eq key hother
  sentinel_eq := (sentinel_afterChange _ _ _ _).trans hbesides.sentinel_eq
  closed_eq := (closed_afterChange _ _ _ _).trans hbesides.closed_eq
  directory_cases := hbesides.directory_cases

theorem carried_of_view {kind : HierarchyKind} {context : Option String} {label : Option String}
    (hview : view directory h (h.cache.key kind context) = .ok before) (hbefore : before.Sound)
    (hlabel : Change.parse label = .ok change)
    (hupdate : (update directory kind context edge label).effect h = (.ok changed, next)) :
    exists now,
      Carried directory (h.cache.key kind context) edge change changed h next before now := by
  rw [effect_update] at hupdate
  rcases change_outcomes directory kind context edge label h with ⟨fault, hfail⟩ |
    ⟨state, current, parsed, answer, updated, hprepare, hparsed, happly, hchange⟩
  · rw [hupdate] at hfail
    cases hfail
  · rw [hupdate] at hchange
    cases hchange
    cases hlabel.symm.trans hparsed
    rcases prepare_ok hprepare with ⟨hready, hbesides⟩
    cases hview.symm.trans hready
    have hchanges := hbefore.changes happly
    have hloaded := graph?_of_prepare hprepare
    -- Only a change that had an effect is published; otherwise the graph stays that was loaded.
    cases changed with
    | true =>
        refine ⟨updated, hbesides.afterChange updated true, hview, hchanges, ?_⟩
        rw [graph?_afterChange, if_pos ⟨rfl, rfl⟩]
    | false =>
        refine ⟨before, hbesides.afterChange updated false, hview,
          hchanges.of_unchanged hbefore, ?_⟩
        rw [graph?_afterChange, if_neg fun hboth => Bool.false_ne_true hboth.1]
        exact hloaded

theorem result_update {kind : HierarchyKind} {context label : Option String}
    (hview : view directory h (h.cache.key kind context) = .ok graph)
    (hlabel : Change.parse label = .ok change) :
    ((update directory kind context edge label).effect h).1 =
      ((Graph.apply edge change).effect graph).1 := by
  have hready := (result_prepare directory kind context h).trans hview
  rw [effect_update, effect_change, hlabel]
  rcases hprepare : (prepare directory kind context).effect h with ⟨result, state⟩
  rw [hprepare] at hready
  dsimp only at hready
  rw [hready]
  dsimp only
  rcases (Graph.apply edge change).effect graph with ⟨answer, updated⟩
  cases answer with
  | error fault => rfl
  | ok changed => rfl

theorem exists_view_of_update {kind : HierarchyKind} {context label : Option String}
    (hupdate : (update directory kind context edge label).effect h = (.ok changed, next)) :
    exists before, view directory h (h.cache.key kind context) = .ok before := by
  rw [effect_update] at hupdate
  rcases change_outcomes directory kind context edge label h with ⟨fault, hfail⟩ |
    ⟨state, current, _, _, _, hprepare, _, _, _⟩
  · rw [hupdate] at hfail
    cases hfail
  · exact ⟨current, (prepare_ok hprepare).1⟩

theorem carried_of_update (hsound : h.Sound) {kind : HierarchyKind} {context : Option String}
    {label : Option String} (hlabel : Change.parse label = .ok change)
    (hupdate : (update directory kind context edge label).effect h = (.ok changed, next)) :
    exists before now, before.Sound ∧
      Carried directory (h.cache.key kind context) edge change changed h next before now := by
  rcases exists_view_of_update hupdate with ⟨before, hview⟩
  have hbefore := hsound.of_view hview
  rcases carried_of_view hview hbefore hlabel hupdate with ⟨now, hcarried⟩
  exact ⟨before, now, hbefore, hcarried⟩

theorem Sound.of_update (hsound : h.Sound) {kind : HierarchyKind} {context label : Option String}
    (hupdate : (update directory kind context edge label).effect h = (.ok changed, next)) :
    next.Sound := by
  have hkept := moves_update directory kind context edge label h hsound
  rw [Action.state_eq_effect, hupdate] at hkept
  exact hkept

theorem Carried.stands
    (hcarried : Carried directory touched edge change changed h next before now)
    (hstands : Stands directory h touched key graph) :
    (key = touched ∧ graph = before ∧ Stands directory next touched key now) ∨
      (key ≠ touched ∧ Stands directory next touched key graph) := by
  by_cases hsame : key = touched
  · left
    rw [hsame] at hstands ⊢
    constructor
    · rfl
    constructor
    · exact Except.ok.inj (hstands.view_eq.symm.trans hcarried.view_eq)
    · exact stands_of_loaded touched hcarried.open_after hcarried.loaded
  · exact Or.inr ⟨hsame, hcarried.besides.stands hsame hstands⟩

/-- What stands is followed by a graph with all of its edges, if an edge has been added. -/
theorem Carried.stands_add
    (hcarried : Carried directory touched edge .add changed h next before now)
    (hstands : Stands directory h touched key graph) :
    exists later, Stands directory next touched key later ∧ graph.Within later := by
  rcases hcarried.stands hstands with ⟨_, hbefore, hlater⟩ | ⟨_, hlater⟩
  · rw [hbefore]
    exact ⟨now, hlater, hcarried.changes.within_of_add⟩
  · exact ⟨graph, hlater, graph.within_refl⟩

theorem Carried.stands_remove
    (hcarried : Carried directory touched edge .remove changed h next before now)
    (hstands : Stands directory h touched key graph) :
    exists later, Stands directory next touched key later ∧ later.Within graph := by
  rcases hcarried.stands hstands with ⟨_, hbefore, hlater⟩ | ⟨_, hlater⟩
  · rw [hbefore]
    exact ⟨now, hlater, hcarried.changes.within_of_remove⟩
  · exact ⟨graph, hlater, graph.within_refl⟩

section Undone

variable {last : Hierarchies σ} {current again : Graph}

theorem Carried.undone (hadd : Carried directory touched edge .add true h next before now)
    (hremove : Carried directory touched edge .remove changed next last current again) :
    changed = true ∧ forall other, before.hasEdge other = again.hasEdge other := by
  have hview := hremove.view_eq
  rw [view_of_loaded hadd.open_after hadd.loaded] at hview
  cases hview
  exact hadd.changes.undone hremove.changes

/-- When an edge has been added and removed again, what stood is followed by its equal. -/
theorem Carried.stands_undone (hadd : Carried directory touched edge .add true h next before now)
    (hremove : Carried directory touched edge .remove changed next last current again)
    (hstands : Stands directory h touched key graph) :
    exists later, Stands directory last touched key later ∧
      forall other, graph.hasEdge other = later.hasEdge other := by
  rcases hadd.stands hstands with ⟨hsame, hbefore, hmiddle⟩ | ⟨hother, hmiddle⟩
  · rcases hremove.stands hmiddle with ⟨_, _, hlater⟩ | ⟨hother, _⟩
    · rw [hbefore]
      exact ⟨again, hlater, (hadd.undone hremove).2⟩
    · exact absurd hsame hother
  · rcases hremove.stands hmiddle with ⟨hsame, _, _⟩ | ⟨_, hlater⟩
    · exact absurd hsame hother
    · exact ⟨graph, hlater, fun _ => rfl⟩

end Undone

theorem exists_update_remove {kind : HierarchyKind} {context : Option String}
    {label : Option String} (hopen : h.cache.closed = false)
    (hloaded : h.cache.graph? (h.cache.key kind context) = some graph)
    (hlabel : Change.parse label = .ok .remove) (edge : Relationship) :
    exists changed next,
      (update directory kind context edge label).effect h = (.ok changed, next) := by
  rw [effect_update, effect_change, effect_prepare_of_loaded directory hopen hloaded, hlabel]
  have hremove : (Graph.apply edge .remove).effect graph =
      (.ok (graph.removeEdge edge).2, (graph.removeEdge edge).1) := Graph.effect_dropEdge edge graph
  dsimp only
  rw [hremove]
  exact ⟨_, _, rfl⟩

end Carried

end Hierarchies
end Entitlement
