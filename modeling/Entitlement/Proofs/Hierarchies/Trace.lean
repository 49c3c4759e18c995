import Entitlement.Proofs.Hierarchies.Sound

/-!
# What can be seen of live hierarchies

Seen from outside, live hierarchies ask the directory for listings and finish calls.  To see the
listings, calls are run over a directory that records what it is asked and what it answers.  The
record changes nothing else: a recorded call has the result of the call and leaves the same cache
and the same directory behind.
-/

namespace Entitlement
namespace Hierarchies

variable {σ : Type}

/-!
# Calls and events
-/

inductive Reply where
  | graph (graph : Graph)
  | changed (changed : Bool)
  | dropped (wasLoaded : Bool)
  | done

def Call.answer (directory : Directory σ) : Call -> Action (Hierarchies σ) Reply
  | .graph kind context => do
      return .graph (← Hierarchies.graph directory kind context)
  | .prepare kind context => do
      return .graph (← Hierarchies.prepare directory kind context)
  | .change kind context edge label => do
      return .changed (← Hierarchies.change directory kind context edge label)
  | .invalidate kind context => do
      return .dropped (← Hierarchies.invalidate kind context)
  | .clear => do
      Hierarchies.clear
      return .done
  | .close => do
      Hierarchies.close
      return .done

inductive Event where
  | listed (kind : HierarchyKind) (context : Option String) (answer : Except Fault (List Row))
  | finished (call : Call) (result : Except Fault Reply)

def recorded (directory : Directory σ) : Directory (σ × List Event) where
  list kind context := fun (state, log) =>
    let outcome := (directory.list kind context).run state
    ⟨outcome.result, (outcome.state, log ++ [.listed kind context outcome.result]), outcome.records⟩
  readPermission request :=
    (directory.readPermission request).within Prod.fst fun pair state => (state, pair.2)

def recording (h : Hierarchies σ) (log : List Event) : Hierarchies (σ × List Event) where
  cache := h.cache
  directory := (h.directory, log)

def asked (directory : Directory σ) (call : Call) (h : Hierarchies σ) : List Event :=
  ((call.answer (recorded directory)).effect (h.recording [])).2.directory.2

/-- The live hierarchies that calls lead to, together with all events since the start. -/
inductive Observed (directory : Directory σ) (sentinel : String) :
    Hierarchies σ -> List Event -> Prop where
  | start (state : σ) : Observed directory sentinel ⟨Cache.empty sentinel, state⟩ []
  | call {h : Hierarchies σ} {trace : List Event} (call : Call) :
      Observed directory sentinel h trace ->
      Observed directory sentinel ((call.answer directory).effect h).2
        (trace ++ asked directory call h ++
          [.finished call ((call.answer directory).effect h).1])
  /-- The directory changes for reasons of its own, which nobody sees. -/
  | outside {h : Hierarchies σ} {trace : List Event} (state : σ) :
      Observed directory sentinel h trace ->
      Observed directory sentinel { h with directory := state } trace

/-!
# Recorded calls
-/

def listing (directory : Directory σ) (key : HierarchyKey) (state : σ) : Event :=
  .listed key.kind (some key.context)
    ((directory.list key.kind (some key.context)).effect state).1

/-- A question or a change asks for a listing only if the cache is open and has no graph. -/
def listings (directory : Directory σ) (key : HierarchyKey) (h : Hierarchies σ) : List Event :=
  if h.cache.closed || h.cache.isLoaded key then []
  else [listing directory key h.directory]

def Call.listings (directory : Directory σ) (h : Hierarchies σ) : Call -> List Event
  | .graph kind context => Hierarchies.listings directory (h.cache.key kind context) h
  | .prepare kind context => Hierarchies.listings directory (h.cache.key kind context) h
  | .change kind context _ _ => Hierarchies.listings directory (h.cache.key kind context) h
  | .invalidate _ _ => []
  | .clear => []
  | .close => []

section Listings

variable (directory : Directory σ) {key : HierarchyKey} {h : Hierarchies σ}

theorem listings_of_closed (key : HierarchyKey) (hclosed : h.cache.closed = true) :
    listings directory key h = [] := by
  unfold listings
  rw [hclosed]
  rfl

theorem listings_of_loaded {loaded : Graph} (hloaded : h.cache.graph? key = some loaded) :
    listings directory key h = [] := by
  unfold listings Cache.isLoaded
  rw [hloaded, Option.isSome_some, Bool.or_true]
  rfl

theorem listings_of_unloaded (hopen : h.cache.closed = false)
    (hnone : h.cache.graph? key = none) :
    listings directory key h = [listing directory key h.directory] := by
  unfold listings Cache.isLoaded
  rw [hopen, hnone]
  rfl

end Listings

/-- A recorded action does what the action does, and asks for some listings. -/
def Records {α : Type} (directory : Directory σ) (h : Hierarchies σ) (asks : List Event)
    (x : forall {ρ : Type}, Directory ρ -> Action (Hierarchies ρ) α) : Prop :=
  forall log, (x (recorded directory)).effect (h.recording log) =
    (((x directory).effect h).1, ((x directory).effect h).2.recording (log ++ asks))

theorem records_build (directory : Directory σ) (key : HierarchyKey) (h : Hierarchies σ) :
    Records directory h [listing directory key h.directory] fun directory =>
      build directory key := by
  intro log
  have hlisted : listedGraph (recorded directory) key (h.recording log).directory =
      listedGraph directory key h.directory := rfl
  rw [effect_build_listed, effect_build_listed, hlisted]
  cases listedGraph directory key h.directory with
  | error fault => rfl
  | ok graph => rfl

theorem Records.map {α β : Type} {directory : Directory σ} {h : Hierarchies σ} {asks : List Event}
    {x : forall {ρ : Type}, Directory ρ -> Action (Hierarchies ρ) α}
    (hx : Records directory h asks x) (f : α -> β) :
    Records directory h asks fun directory => do return f (← x directory) := by
  intro log
  rw [Action.effect_map, Action.effect_map, hx log]

section Access

variable (directory : Directory σ) (kind : HierarchyKind) (context : Option String)
  (h : Hierarchies σ)

theorem records_graph :
    Records directory h (listings directory (h.cache.key kind context) h) fun directory =>
      graph directory kind context := by
  intro log
  cases hclosed : h.cache.closed with
  | true =>
      rw [listings_of_closed directory _ hclosed, List.append_nil,
        effect_graph_of_closed directory kind context hclosed]
      exact effect_graph_of_closed (recorded directory) kind context hclosed
  | false =>
      cases hloaded : h.cache.graph? (h.cache.key kind context) with
      | some loaded =>
          rw [listings_of_loaded directory hloaded, List.append_nil,
            effect_graph_of_loaded directory hclosed hloaded]
          exact effect_graph_of_loaded (recorded directory) hclosed hloaded
      | none =>
          have hrecorded : (graph (recorded directory) kind context).effect (h.recording log) =
              (build (recorded directory) (h.cache.key kind context)).effect
                ((h.afterMiss (h.cache.key kind context)).recording log) :=
            effect_graph_of_unloaded (recorded directory) hclosed hloaded
          rw [listings_of_unloaded directory hclosed hloaded,
            effect_graph_of_unloaded directory hclosed hloaded, hrecorded]
          exact records_build directory _ (h.afterMiss (h.cache.key kind context)) log

theorem records_prepare :
    Records directory h (listings directory (h.cache.key kind context) h) fun directory =>
      prepare directory kind context := by
  intro log
  cases hclosed : h.cache.closed with
  | true =>
      rw [listings_of_closed directory _ hclosed, List.append_nil,
        effect_prepare_of_closed directory kind context hclosed]
      exact effect_prepare_of_closed (recorded directory) kind context hclosed
  | false =>
      cases hloaded : h.cache.graph? (h.cache.key kind context) with
      | some loaded =>
          rw [listings_of_loaded directory hloaded, List.append_nil,
            effect_prepare_of_loaded directory hclosed hloaded]
          exact effect_prepare_of_loaded (recorded directory) hclosed hloaded
      | none =>
          have hrecorded : (prepare (recorded directory) kind context).effect (h.recording log) =
              (build (recorded directory) (h.cache.key kind context)).effect
                ((h.afterEntry (h.cache.key kind context)).recording log) :=
            effect_prepare_of_unloaded (recorded directory) hclosed hloaded
          rw [listings_of_unloaded directory hclosed hloaded,
            effect_prepare_of_unloaded directory hclosed hloaded, hrecorded]
          exact records_build directory _ (h.afterEntry (h.cache.key kind context)) log

theorem records_change (edge : Relationship) (label : Option String) :
    Records directory h (listings directory (h.cache.key kind context) h) fun directory =>
      change directory kind context edge label := by
  intro log
  -- A change asks for a listing only while its graph is made ready.
  have hprepare := records_prepare directory kind context h log
  rw [effect_change, effect_change, hprepare]
  rcases (prepare directory kind context).effect h with ⟨result, state⟩
  cases result with
  | error fault => rfl
  | ok current =>
      simp only
      cases Change.parse label with
      | error fault => rfl
      | ok change =>
          simp only
          rcases (Graph.apply edge change).effect current with ⟨answer, updated⟩
          cases answer with
          | error fault => rfl
          | ok changed => rfl

theorem records_invalidate :
    Records directory h [] fun _ => invalidate kind context := by
  intro log
  rw [effect_invalidate, effect_invalidate, List.append_nil]
  show (if h.cache.isLoaded (h.cache.key kind context) = true then _ else _) = _
  cases h.cache.isLoaded (h.cache.key kind context) with
  | true => rfl
  | false => rfl

end Access

theorem records_answer (directory : Directory σ) (h : Hierarchies σ) (call : Call) :
    Records directory h (call.listings directory h) fun directory => call.answer directory := by
  cases call with
  | graph kind context => exact (records_graph directory kind context h).map _
  | prepare kind context => exact (records_prepare directory kind context h).map _
  | change kind context edge label =>
      exact (records_change directory kind context h edge label).map _
  | invalidate kind context => exact (records_invalidate directory kind context h).map _
  | clear =>
      intro log
      rw [Call.listings, List.append_nil]
      rfl
  | close =>
      intro log
      rw [Call.listings, List.append_nil]
      rfl

theorem asked_eq (directory : Directory σ) (call : Call) (h : Hierarchies σ) :
    asked directory call h = call.listings directory h := by
  have hrecords := records_answer directory h call []
  unfold asked
  rw [hrecords, List.nil_append]
  rfl

end Hierarchies
end Entitlement
