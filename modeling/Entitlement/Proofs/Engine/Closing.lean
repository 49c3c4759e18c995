import Entitlement.Proofs.Engine.Operations
import Entitlement.Proofs.Hierarchies.Trace

/-!
# Closing is final

A closed cache has no entries.  Whatever is asked of it, the answer does not depend on the
directory, which is not asked, and the cache stays as it is.  An engine with such a cache can still read and
write the directory and tell its audit sink, so after a close its operations move these two and
nothing else.  A permission is then granted to its direct users only.
-/

namespace Entitlement

structure Cache.Shut (cache : Cache) : Prop where
  closed : cache.closed = true
  entries_eq : cache.entries = []

namespace Cache

variable {cache : Cache}

theorem shut_close (cache : Cache) : cache.close.Shut :=
  ⟨rfl, rfl⟩

theorem Shut.graph?_eq (h : cache.Shut) (key : HierarchyKey) : cache.graph? key = none := by
  unfold graph?
  rw [h.entries_eq]
  rfl

theorem Shut.isLoaded_eq (h : cache.Shut) (key : HierarchyKey) : cache.isLoaded key = false :=
  cache.isLoaded_eq_false (h.graph?_eq key)

theorem Shut.version_eq (h : cache.Shut) (key : HierarchyKey) : cache.version key = 0 := by
  apply cache.version_of_get?_eq_none
  rw [h.entries_eq]
  rfl

theorem Shut.size_eq (h : cache.Shut) : cache.size = 0 := by
  unfold size
  rw [h.entries_eq]
  rfl

theorem Shut.loaded_eq (h : cache.Shut) : cache.loaded = 0 := by
  unfold loaded
  rw [h.entries_eq]
  rfl

theorem Shut.cleared (h : cache.Shut) :
    (cache.dropAll.count fun counts =>
      { counts with invalidations := counts.invalidations + cache.loaded }) = cache := by
  rw [h.loaded_eq]
  rcases cache with ⟨sentinel, entries, counts, closed⟩
  have hentries : entries = [] := h.entries_eq
  rw [hentries]
  rfl

theorem Shut.close_eq (h : cache.Shut) : cache.close = cache := by
  rcases cache with ⟨sentinel, entries, counts, closed⟩
  have hentries : entries = [] := h.entries_eq
  have hclosed : closed = true := h.closed
  rw [hentries, hclosed]
  rfl

end Cache

/-!
# Actions on a closed cache
-/

def Question.answer? : Question -> Option Answer
  | .isParent _ parent _ =>
      match Name.parse parent with
      | .error _ => some (.truth false)
      | .ok _ => none
  | .inherited roles _ =>
      if (Hierarchies.givenNames roles).isEmpty then some (.names []) else none
  | _ => none

/-- What needs no graph is answered in every state of the cache, which stays as it is. -/
theorem Question.effect_of_answer? {σ : Type} (directory : Directory σ) (kind : HierarchyKind)
    {question : Question} {answer : Answer} (hanswer : question.answer? = some answer)
    (h : Hierarchies σ) : (question.ask directory kind).effect h = (.ok answer, h) := by
  unfold answer? at hanswer
  cases question with
  | isParent child parent context =>
      unfold ask Hierarchies.isParent
      dsimp only at hanswer ⊢
      cases hparent : Name.parse parent with
      | error defect =>
          rw [hparent] at hanswer
          cases hanswer
          rfl
      | ok name =>
          rw [hparent] at hanswer
          cases hanswer
  | inherited roles context =>
      unfold ask Hierarchies.inherited
      dsimp only at hanswer ⊢
      split at hanswer
      · rename_i hnone
        cases hanswer
        rw [if_pos hnone]
        rfl
      · cases hanswer
  | _ => cases hanswer

def Question.idleAnswer (question : Question) : Except Fault Answer :=
  match question.answer? with
  | some answer => .ok answer
  | none => .error .cacheClosed

namespace Hierarchies

variable {σ α β : Type}

/-- When the cache is shut the action has this result and does nothing. -/
def Stays (result : Except Fault α) (x : Action (Hierarchies σ) α) : Prop :=
  forall h, h.cache.Shut -> x.effect h = (result, h)

theorem stays_pure (a : α) : Stays (.ok a) (Pure.pure a : Action (Hierarchies σ) α) :=
  fun _ _ => rfl

section Parts

variable {result : Except Fault α} {x : Action (Hierarchies σ) α} {fault : Fault}

theorem Stays.bind (hx : Stays (.error fault) x) (f : α -> Action (Hierarchies σ) β) :
    Stays (.error fault) (x >>= f) := by
  intro h hshut
  exact Action.effect_bind_of_error f (hx h hshut)

theorem Stays.map (hx : Stays result x) (f : α -> β) :
    Stays (result.map f) (do return f (← x)) := by
  intro h hshut
  rw [Action.effect_map, hx h hshut]

end Parts

section Calls

variable (directory : Directory σ) (kind : HierarchyKind) (context : Option String)

theorem stays_graph : Stays (.error .cacheClosed) (graph directory kind context) := by
  intro h hshut
  exact effect_graph_of_closed directory kind context hshut.closed

theorem stays_prepare : Stays (.error .cacheClosed) (prepare directory kind context) := by
  intro h hshut
  exact effect_prepare_of_closed directory kind context hshut.closed

theorem stays_change (edge : Relationship) (label : Option String) :
    Stays (.error .cacheClosed) (change directory kind context edge label) := by
  intro h hshut
  rw [effect_change, stays_prepare directory kind context h hshut]

theorem stays_update (edge : Relationship) (label : Option String) :
    Stays (.error .cacheClosed) (update directory kind context edge label) := by
  intro h hshut
  rw [effect_update]
  exact stays_change directory kind context edge label h hshut

theorem stays_invalidate :
    Stays (.ok false) (invalidate kind context : Action (Hierarchies σ) Bool) := by
  intro h hshut
  rw [effect_invalidate, hshut.isLoaded_eq]
  rfl

theorem stays_clear : Stays (.ok ()) (clear : Action (Hierarchies σ) Unit) := by
  intro h hshut
  rw [effect_clear, hshut.cleared]

theorem stays_close : Stays (.ok ()) (close : Action (Hierarchies σ) Unit) := by
  intro h hshut
  rw [effect_close, hshut.cleared, hshut.close_eq]

theorem stays_ask (query : Graph -> α) :
    Stays (.error .cacheClosed) (ask directory kind context query) :=
  (stays_graph directory kind context).bind _

theorem stays_inherited (roles : List (Option String)) :
    Stays (if (givenNames roles).isEmpty then .ok [] else .error .cacheClosed)
      (inherited directory kind roles context) := by
  unfold inherited
  dsimp only
  split
  · exact stays_pure []
  · exact stays_ask directory kind context _

theorem stays_question_of_answer? {question : Question} {answer : Answer}
    (hanswer : question.answer? = some answer) :
    Stays (.ok answer) (question.ask directory kind) :=
  fun h _ => question.effect_of_answer? directory kind hanswer h

theorem stays_question_of_needed {question : Question} (hneeded : question.answer? = none) :
    Stays (.error .cacheClosed) (question.ask directory kind) := by
  unfold Question.answer? at hneeded
  cases question with
  | isParent child parent context =>
      unfold Question.ask isParent
      dsimp only at hneeded ⊢
      cases hparent : Name.parse parent with
      | error defect =>
          rw [hparent] at hneeded
          cases hneeded
      | ok name => exact (stays_ask directory kind context _).map Answer.truth
  | inherited roles context =>
      have hroles := (stays_inherited directory kind context roles).map Answer.names
      dsimp only at hneeded
      split at hneeded
      · cases hneeded
      · rename_i hsome
        rw [if_neg hsome] at hroles
        exact hroles
  | ascendants text context => exact (stays_ask directory kind context _).map Answer.names
  | descendants text context => exact (stays_ask directory kind context _).map Answer.names
  | parents text context => exact (stays_ask directory kind context _).map Answer.names
  | children text context => exact (stays_ask directory kind context _).map Answer.names
  | childCount text context => exact (stays_ask directory kind context _).map Answer.count
  | check child parent mustExist =>
      exact ((stays_graph directory kind child.context).bind _).map Answer.violation
  | validate child parent mustExist =>
      exact ((stays_graph directory kind child.context).bind _).map fun _ => Answer.valid

theorem stays_question (question : Question) :
    Stays question.idleAnswer (question.ask directory kind) := by
  unfold Question.idleAnswer
  cases hanswer : question.answer? with
  | some answer => exact stays_question_of_answer? directory kind hanswer
  | none => exact stays_question_of_needed directory kind hanswer

def Call.idleReply : Call -> Except Fault Reply
  | .graph _ _ => .error .cacheClosed
  | .prepare _ _ => .error .cacheClosed
  | .change _ _ _ _ => .error .cacheClosed
  | .invalidate _ _ => .ok (.dropped false)
  | .clear => .ok .done
  | .close => .ok .done

theorem stays_answer (call : Call) : Stays call.idleReply (call.answer directory) := by
  cases call with
  | graph kind context => exact (stays_graph directory kind context).map Reply.graph
  | prepare kind context => exact (stays_prepare directory kind context).map Reply.graph
  | change kind context edge label =>
      exact (stays_change directory kind context edge label).map Reply.changed
  | invalidate kind context => exact (stays_invalidate kind context).map Reply.dropped
  | clear => exact stays_clear.map fun _ => Reply.done
  | close => exact stays_close.map fun _ => Reply.done

end Calls

end Hierarchies

/-!
# Listening to the directory
-/

namespace World

variable {σ τ α β : Type}

def listening (world : World σ τ) (log : List Hierarchies.Event) :
    World (σ × List Hierarchies.Event) τ :=
  ⟨world.hierarchies.recording log, world.trail⟩

/-- From a world whose cache is shut the action asks for no listing and leaves the cache alone. -/
def Rests (recorded : Action (World (σ × List Hierarchies.Event) τ) α)
    (x : Action (World σ τ) α) : Prop :=
  forall world log, world.hierarchies.cache.Shut ->
    recorded.effect (world.listening log) = ((x.effect world).1, (x.effect world).2.listening log) ∧
      (x.effect world).2.hierarchies.cache = world.hierarchies.cache

theorem rests_pure (a : α) :
    Rests (Pure.pure a : Action (World (σ × List Hierarchies.Event) τ) α)
      (Pure.pure a : Action (World σ τ) α) :=
  fun _ _ _ => ⟨rfl, rfl⟩

theorem rests_fail (fault : Fault) :
    Rests (Action.fail fault : Action (World (σ × List Hierarchies.Event) τ) α)
      (Action.fail fault : Action (World σ τ) α) :=
  fun _ _ _ => ⟨rfl, rfl⟩

theorem rests_report (component : Component) (level : Level) (message : String) :
    Rests (Action.report component level message :
        Action (World (σ × List Hierarchies.Event) τ) Unit)
      (Action.report component level message : Action (World σ τ) Unit) :=
  fun _ _ _ => ⟨rfl, rfl⟩

section Parts

variable {recorded : Action (World (σ × List Hierarchies.Event) τ) α} {x : Action (World σ τ) α}

theorem Rests.bind (hx : Rests recorded x)
    {f : α -> Action (World (σ × List Hierarchies.Event) τ) β} {g : α -> Action (World σ τ) β}
    (hf : forall a, Rests (f a) (g a)) : Rests (recorded >>= f) (x >>= g) := by
  intro world log hshut
  rcases hx world log hshut with ⟨hrecorded, hcache⟩
  rw [Action.effect_bind, Action.effect_bind, hrecorded]
  cases (x.effect world).1 with
  | error fault => exact ⟨rfl, hcache⟩
  | ok a =>
      have hstill : (x.effect world).2.hierarchies.cache.Shut := by
        rw [hcache]
        exact hshut
      rcases hf a _ log hstill with ⟨hthen, hkept⟩
      exact ⟨hthen, hkept.trans hcache⟩

theorem Rests.map (hx : Rests recorded x) (f : α -> β) :
    Rests (do return f (← recorded)) (do return f (← x)) :=
  hx.bind fun a => rests_pure (f a)

theorem Rests.attempt (hx : Rests recorded x) : Rests recorded.attempt x.attempt := by
  intro world log hshut
  rcases hx world log hshut with ⟨hrecorded, hcache⟩
  rw [Action.effect_attempt, Action.effect_attempt, hrecorded]
  exact ⟨rfl, hcache⟩

end Parts

theorem rests_forEach {xs : List β}
    {f : β -> Action (World (σ × List Hierarchies.Event) τ) Unit}
    {g : β -> Action (World σ τ) Unit} (hf : forall x, Rests (f x) (g x)) :
    Rests (Action.forEach xs f) (Action.forEach xs g) := by
  induction xs with
  | nil => exact rests_pure ()
  | cons x rest ih => exact (hf x).bind fun _ => ih

theorem rests_onHierarchies {result : Except Fault α}
    {recorded : Action (Hierarchies (σ × List Hierarchies.Event)) α} {x : Action (Hierarchies σ) α}
    (hrecorded : Hierarchies.Stays result recorded) (hx : Hierarchies.Stays result x) :
    Rests (onHierarchies recorded : Action (World (σ × List Hierarchies.Event) τ) α)
      (onHierarchies x) := by
  intro world log hshut
  unfold onHierarchies
  rw [Action.effect_within, Action.effect_within, hx world.hierarchies hshut,
    hrecorded (world.listening log).hierarchies hshut]
  exact ⟨rfl, rfl⟩

theorem rests_onDirectory (x : Action σ α) :
    Rests (onDirectory (x.within Prod.fst fun pair state => (state, pair.2)) :
        Action (World (σ × List Hierarchies.Event) τ) α)
      (onDirectory x) :=
  fun _ _ _ => ⟨rfl, rfl⟩

theorem rests_onTrail (x : Action τ α) :
    Rests (onTrail x : Action (World (σ × List Hierarchies.Event) τ) α) (onTrail x) :=
  fun _ _ _ => ⟨rfl, rfl⟩

end World

/-!
# Engines at rest
-/

namespace Engine

variable {σ τ ρ : Type}

def listening (engine : Engine σ τ) : Engine (σ × List Hierarchies.Event) τ :=
  ⟨Hierarchies.recorded engine.directory, engine.sink, engine.auditEnabled⟩

section Rests

variable (engine : Engine σ τ)

theorem rests_warmUp (contexts : List (Option String)) :
    World.Rests (engine.listening.warmUp contexts) (engine.warmUp contexts) := by
  apply World.rests_forEach
  intro context
  have hgraph : forall kind, World.Rests
      (World.onHierarchies (Hierarchies.graph engine.listening.directory kind context))
      (World.onHierarchies (Hierarchies.graph engine.directory kind context) :
        Action (World σ τ) Graph) := by
    intro kind
    exact World.rests_onHierarchies (Hierarchies.stays_graph _ kind context)
      (Hierarchies.stays_graph _ kind context)
  apply (hgraph .role).bind
  intro _
  apply (hgraph .adminRole).bind
  intro _
  exact World.rests_report _ _ _

theorem rests_decide (session : Session) (permission : Permission) :
    World.Rests (engine.listening.decide session permission)
      (engine.decide session permission) := by
  unfold Engine.decide
  split
  · exact World.rests_pure _
  · split
    · exact World.rests_pure _
    · have hidle := Hierarchies.stays_inherited engine.directory (.ofRoles permission.admin)
        (contextFor session permission) (session.activated permission.admin)
      have hrecorded := Hierarchies.stays_inherited engine.listening.directory
        (.ofRoles permission.admin) (contextFor session permission)
        (session.activated permission.admin)
      exact (World.rests_onHierarchies hrecorded hidle).map fun held => verdictOf held permission

theorem rests_readStored (request : PermissionRequest) :
    World.Rests (engine.listening.readStored request) (engine.readStored request) := by
  apply (World.rests_onDirectory _).attempt.bind
  intro answer
  cases answer with
  | error fault => exact World.rests_fail _
  | ok found =>
      cases found with
      | none => exact World.rests_fail _
      | some stored => exact World.rests_pure stored

theorem rests_audit (event : AuditEvent) :
    World.Rests (engine.listening.audit event) (engine.audit event) := by
  rcases engine with ⟨directory, sink, auditEnabled⟩
  cases auditEnabled with
  | false => exact World.rests_pure none
  | true =>
      cases sink with
      | none => exact World.rests_pure none
      | some sink =>
          apply (World.rests_onTrail (sink.record event)).attempt.bind
          intro answer
          cases answer with
          | ok _ => exact World.rests_pure none
          | error cause =>
              apply (World.rests_report _ _ _).bind
              intro _
              exact World.rests_pure _

theorem rests_checkPermission (session : Session) (permission : Permission) :
    World.Rests (engine.listening.checkPermission session permission)
      (engine.checkPermission session permission) := by
  apply (rests_readStored engine _).bind
  intro stored
  apply (rests_decide engine session _).bind
  intro verdict
  apply (rests_audit engine _).bind
  intro auditFault
  apply (World.rests_report _ _ _).bind
  intro _
  exact World.rests_pure _

def Operation.listening : Operation σ ρ -> Operation (σ × List Hierarchies.Event) ρ
  | .write call => .write (call.within Prod.fst fun pair state => (state, pair.2))
  | .update kind context edge label => .update kind context edge label
  | .refresh kind context => .refresh kind context
  | .warmUp contexts => .warmUp contexts
  | .ask kind question => .ask kind question
  | .isAuthorized session permission => .isAuthorized session permission
  | .checkPermission session permission => .checkPermission session permission
  | .clear => .clear
  | .close => .close

theorem Operation.rests_perform (operation : Operation σ ρ) :
    World.Rests (operation.listening.perform engine.listening) (operation.perform engine) := by
  cases operation with
  | write call => exact (World.rests_onDirectory call).map Response.written
  | update kind context edge label =>
      exact (World.rests_onHierarchies (Hierarchies.stays_update _ kind context edge label)
        (Hierarchies.stays_update _ kind context edge label)).map Response.truth
  | refresh kind context =>
      exact (World.rests_onHierarchies (Hierarchies.stays_invalidate kind context)
        (Hierarchies.stays_invalidate kind context)).map Response.truth
  | warmUp contexts => exact (rests_warmUp engine contexts).map fun _ => Response.done
  | ask kind question =>
      exact (World.rests_onHierarchies (Hierarchies.stays_question _ kind question)
        (Hierarchies.stays_question _ kind question)).map Response.answer
  | isAuthorized session permission =>
      exact ((rests_decide engine session permission).map Verdict.granted).map Response.truth
  | checkPermission session permission =>
      exact (rests_checkPermission engine session permission).map Response.decision
  | clear =>
      exact (World.rests_onHierarchies Hierarchies.stays_clear Hierarchies.stays_clear).map
        fun _ => Response.done
  | close =>
      exact (World.rests_onHierarchies Hierarchies.stays_close Hierarchies.stays_close).map
        fun _ => Response.done

end Rests

/-!
# Decisions after a close
-/

section Decisions

variable {engine : Engine σ τ} {world : World σ τ}

/-- Without graphs, a permission is decided for its direct users and for sessions without roles. -/
theorem decide_cases_of_shut (hshut : world.hierarchies.cache.Shut) (session : Session)
    (permission : Permission) :
    (exists verdict, ((engine.decide session permission).effect world).1 = .ok verdict ∧
        (verdict.granted = true ↔ some session.user ∈ permission.users) ∧
        verdict.matched = []) ∨
      ((engine.decide session permission).effect world).1 = .error .cacheClosed ∧
        some session.user ∉ permission.users := by
  rw [effect_decide, Hierarchies.stays_inherited engine.directory _ _ _ _ hshut]
  by_cases hdirect : some session.user ∈ permission.users
  · rw [if_pos (List.contains_iff_mem.mpr hdirect)]
    exact Or.inl ⟨.direct, rfl, iff_of_true rfl hdirect, rfl⟩
  · rw [if_neg fun h => hdirect (List.contains_iff_mem.mp h)]
    have hdenied : forall verdict : Verdict, verdict.granted = false ->
        (verdict.granted = true ↔ some session.user ∈ permission.users) := by
      intro verdict hverdict
      exact iff_of_false (Bool.eq_false_iff.mp hverdict) hdirect
    split
    · exact Or.inl ⟨.ungranted, rfl, hdenied _ rfl, rfl⟩
    · dsimp only
      split
      · exact Or.inl ⟨.unmatched, rfl, hdenied _ rfl, rfl⟩
      · exact Or.inr ⟨rfl, hdirect⟩

theorem isAuthorized_iff_of_shut (hshut : world.hierarchies.cache.Shut) (session : Session)
    (permission : Permission) :
    ((engine.isAuthorized session permission).run world).result = .ok true ↔
      some session.user ∈ permission.users := by
  rw [result_isAuthorized]
  rcases decide_cases_of_shut hshut session permission with
    ⟨verdict, hverdict, hgranted, _⟩ | ⟨hfault, hdirect⟩
  · rw [hverdict, ← hgranted]
    exact Except.ok.injEq verdict.granted true ▸ Iff.rfl
  · rw [hfault]
    exact iff_of_false (fun h => nomatch h) hdirect

theorem granted_iff_of_shut (hshut : world.hierarchies.cache.Shut) {session : Session}
    {permission : Permission} {decision : Decision}
    (hdecision : ((engine.checkPermission session permission).run world).result = .ok decision) :
    exists stored, engine.stored? (requestFor session permission) world = .ok (some stored) ∧
      (decision.granted = true ↔ some session.user ∈ stored.users) ∧ decision.matched = [] := by
  rw [Action.result_eq_effect] at hdecision
  rcases checkPermission_cases hdecision with
    ⟨stored, verdict, hstored, hverdict, _, _, hgranted, hmatched, _⟩
  have hstill : (engine.afterReading (requestFor session permission) world).hierarchies.cache.Shut :=
    hshut
  exists stored
  rcases decide_cases_of_shut hstill session
      (stored.withContext (contextFor session permission)) with
    ⟨decided, hdecided, hiff, hnone⟩ | ⟨hfault, _⟩
  · cases hdecided.symm.trans hverdict
    rw [hgranted, hmatched, hnone]
    exact ⟨hstored, hiff, rfl⟩
  · cases hfault.symm.trans hverdict

end Decisions

/-!
# Runs after a close
-/

/-- What may happen around an engine; the directory changes by operations that write to it. -/
inductive Act (σ τ ρ : Type) where
  | operate (operation : Operation σ ρ)
  | consult (call : Hierarchies.Call)
  | outside (trail : τ)

namespace Act

def after (engine : Engine σ τ) (world : World σ τ) : Act σ τ ρ -> World σ τ
  | .operate operation => ((operation.perform engine).effect world).2
  | .consult call => ((World.onHierarchies (call.answer engine.directory)).effect world).2
  | .outside trail => { world with trail }

def listening : Act σ τ ρ -> Act (σ × List Hierarchies.Event) τ ρ
  | .operate operation => .operate operation.listening
  | .consult call => .consult call
  | .outside trail => .outside trail

end Act

def carryOn (engine : Engine σ τ) : List (Act σ τ ρ) -> World σ τ -> World σ τ
  | [], world => world
  | act :: rest, world => engine.carryOn rest (act.after engine world)

theorem Act.after_of_shut (engine : Engine σ τ) (act : Act σ τ ρ) {world : World σ τ}
    (hshut : world.hierarchies.cache.Shut) (log : List Hierarchies.Event) :
    act.listening.after engine.listening (world.listening log) =
        (act.after engine world).listening log ∧
      (act.after engine world).hierarchies.cache = world.hierarchies.cache := by
  cases act with
  | operate operation =>
      rcases operation.rests_perform engine world log hshut with ⟨hrecorded, hcache⟩
      exact ⟨congrArg Prod.snd hrecorded, hcache⟩
  | consult call =>
      have hrests : World.Rests _ (World.onHierarchies (call.answer engine.directory) :
          Action (World σ τ) Hierarchies.Reply) :=
        World.rests_onHierarchies
          (Hierarchies.stays_answer (Hierarchies.recorded engine.directory) call)
          (Hierarchies.stays_answer engine.directory call)
      rcases hrests world log hshut with ⟨hrecorded, hcache⟩
      exact ⟨congrArg Prod.snd hrecorded, hcache⟩
  | outside trail => exact ⟨rfl, rfl⟩

/-- While the cache is shut, no act asks for a listing and none changes the cache. -/
theorem carryOn_of_shut (engine : Engine σ τ) (acts : List (Act σ τ ρ)) {world : World σ τ}
    (hshut : world.hierarchies.cache.Shut) (log : List Hierarchies.Event) :
    engine.listening.carryOn (acts.map Act.listening) (world.listening log) =
        (engine.carryOn acts world).listening log ∧
      (engine.carryOn acts world).hierarchies.cache = world.hierarchies.cache := by
  induction acts generalizing world with
  | nil => exact ⟨rfl, rfl⟩
  | cons act rest ih =>
      rcases act.after_of_shut engine hshut log with ⟨hrecorded, hcache⟩
      have hstill : (act.after engine world).hierarchies.cache.Shut := by
        rw [hcache]
        exact hshut
      rcases ih hstill with ⟨hrest, hlast⟩
      constructor
      · rw [List.map_cons, carryOn, hrecorded]
        exact hrest
      · exact hlast.trans hcache

/--
Closing is final.  Whatever is done with an engine after a close, and whatever happens to its
directory and its audit sink, the cache stays closed and empty and keeps its counts, and the
directory is asked for no further listing.  Every call that needs a graph is refused, and a
permission is granted to its direct users only.
-/
theorem closing_is_final (engine : Engine σ τ) (world : World σ τ) (acts : List (Act σ τ ρ)) :
    let closed := (Engine.close.run world).state
    let last := engine.carryOn acts closed
    let cache := last.hierarchies.cache
    cache.closed = true ∧
      (forall log, engine.listening.carryOn (acts.map Act.listening) (closed.listening log) =
        last.listening log) ∧
      (forall kind context,
        ((Hierarchies.graph engine.directory kind context).run last.hierarchies).result =
            .error .cacheClosed ∧
          (forall edge label,
            ((Hierarchies.change engine.directory kind context edge label).run
                last.hierarchies).result = .error .cacheClosed ∧
              ((engine.update kind context edge label).run last).result =
                .error .cacheClosed) ∧
          cache.isLoaded (cache.key kind context) = false ∧
          cache.version (cache.key kind context) = 0 ∧
          ((Hierarchies.invalidate kind context).run last.hierarchies).result = .ok false) ∧
      (forall kind (question : Question),
        ((question.ask engine.directory kind).run last.hierarchies).result =
          match question.answer? with
          | some answer => .ok answer
          | none => .error .cacheClosed) ∧
      cache.size = 0 ∧ cache.loaded = 0 ∧ cache.counts = closed.hierarchies.cache.counts ∧
      forall session permission,
        (((engine.isAuthorized session permission).run last).result = .ok true ↔
            some session.user ∈ permission.users) ∧
          forall decision,
            ((engine.checkPermission session permission).run last).result = .ok decision ->
              exists stored,
                engine.stored? (requestFor session permission) last = .ok (some stored) ∧
                  (decision.granted = true ↔ some session.user ∈ stored.users) ∧
                  decision.matched = [] := by
  intro closed last cache
  have hclosed : closed.hierarchies.cache.Shut := Cache.shut_close _
  have hcache : cache = closed.hierarchies.cache := (carryOn_of_shut engine acts hclosed []).2
  have hshut : last.hierarchies.cache.Shut := by
    rw [show last.hierarchies.cache = closed.hierarchies.cache from hcache]
    exact hclosed
  constructor
  · exact hshut.closed
  constructor
  · intro log
    exact (carryOn_of_shut engine acts hclosed log).1
  constructor
  · intro kind context
    constructor
    · exact congrArg Prod.fst (Hierarchies.stays_graph _ kind context _ hshut)
    constructor
    · intro edge label
      constructor
      · exact congrArg Prod.fst (Hierarchies.stays_change _ kind context edge label _ hshut)
      · exact congrArg Prod.fst (Hierarchies.stays_update _ kind context edge label _ hshut)
    constructor
    · exact hshut.isLoaded_eq _
    constructor
    · exact hshut.version_eq _
    · exact congrArg Prod.fst (Hierarchies.stays_invalidate kind context _ hshut)
  constructor
  · intro kind question
    exact congrArg Prod.fst (Hierarchies.stays_question _ kind question _ hshut)
  constructor
  · exact hshut.size_eq
  constructor
  · exact hshut.loaded_eq
  constructor
  · rw [hcache]
  intro session permission
  constructor
  · exact isAuthorized_iff_of_shut hshut session permission
  · intro decision hdecision
    exact granted_iff_of_shut hshut hdecision

/-- A role that was granted, by inheritance, counts no longer; a direct grant still does. -/
theorem closing_is_final_for_an_inherited_role :
    let edge : Relationship := ⟨.ofText "clerk" rfl, .ofText "boss" rfl⟩
    let session : Session := ⟨"ann", [some "Clerk "], [], some " NULL", none⟩
    let byRole : Permission :=
      ⟨"ledger", "read", none, false, [], [some " Boss "], none, none, none⟩
    let direct : Permission := { byRole with operation := "write", users := [some "ann"] }
    let store := ((Store.addPermission direct).run ((Store.add .role edge none).run
      (Store.empty "null")).state).state
    let engine : Engine Store Unit := ⟨Store.directory, none, true⟩
    let world : World Store Unit := .start "null" store ()
    let acts : List (Act Store Unit Unit) :=
      [.operate .clear, .consult (.graph .role none), .operate (.isAuthorized session byRole),
        .operate .close]
    let closed := (Engine.close.run world).state
    let last := engine.carryOn acts closed
    ((engine.isAuthorized session byRole).run world).result.toOption = some true ∧
      ((engine.isAuthorized session byRole).run last).result ≠ .ok true ∧
      ((engine.isAuthorized session direct).run last).result = .ok true ∧
      engine.listening.carryOn (acts.map Act.listening) (closed.listening []) =
        last.listening [] ∧
      exists (decision : Decision) (stored : Permission),
        ((engine.checkPermission session { direct with users := [] }).run last).result =
            .ok decision ∧
          decision.granted = true ∧ some session.user ∈ stored.users := by
  intro edge session byRole direct store engine world acts closed last
  rcases closing_is_final engine world acts with
    ⟨_, hlistings, _, _, _, _, _, hdecisions⟩
  have hrefused : ((engine.isAuthorized session byRole).run last).result ≠ .ok true := by
    intro hrole
    cases (hdecisions session byRole).1.mp hrole
  have hgranted : ((engine.checkPermission session { direct with users := [] }).run
      last).result.toOption.any (·.granted) = true := by decide +kernel
  rcases hresult : ((engine.checkPermission session { direct with users := [] }).run
    last).result with fault | decision
  · rw [hresult] at hgranted
    cases hgranted
  · rw [hresult] at hgranted
    rcases (hdecisions session { direct with users := [] }).2 decision hresult with
      ⟨stored, _, hstored, _⟩
    exact ⟨by decide +kernel, hrefused, (hdecisions session direct).1.mpr List.mem_cons_self,
      hlistings [], decision, stored, rfl, hgranted, hstored.mp hgranted⟩

end Engine
end Entitlement
