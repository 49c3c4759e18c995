import Entitlement.Proofs.Graph.History
import Entitlement.Proofs.Graph.Outline

/-!
# Programs that work with graphs

A program makes graphs, copies them and edits them one at a time.  It can be run with anything that
answers the calls of a graph, so it can be run with outlines as well.  The two runs get the same
replies, and in the end every graph reads its outline.
-/

namespace Entitlement

/-!
# Calls and what they answer
-/

inductive GraphReply where
  | name (name : Name)
  | changed (changed : Bool)
  deriving DecidableEq

def GraphCall.answer : GraphCall -> Action Graph GraphReply
  | .addVertex text => do
      return .name (← Graph.addVertex text)
  | .addEdge child parent => do
      return .changed (← Graph.addEdgeBetween child parent)
  | .removeEdge child parent => do
      return .changed (← Graph.dropEdgeBetween child parent)
  | .apply edge change => do
      return .changed (← Graph.apply edge (← Action.ofResult (Change.parse change)))

namespace Outline

noncomputable def apply (outline : Outline) (edge : Relationship) :
    Change -> Except Fault Bool × Outline
  | .add => outline.add edge
  | .remove => outline.remove edge

def replied (reaction : Except Fault Bool × Outline) : Except Fault GraphReply × Outline :=
  (reaction.1.map .changed, reaction.2)

noncomputable def perform (call : GraphCall) (outline : Outline) :
    Except Fault GraphReply × Outline :=
  match call with
  | .addVertex text =>
      match Name.parse text with
      | .ok name => (.ok (.name name), outline.withName name)
      | .error defect => (.error (.invalidName defect), outline)
  | .addEdge child parent =>
      match Relationship.parse child parent with
      | .ok edge => replied (outline.add edge)
      | .error fault => (.error fault, outline)
  | .removeEdge child parent =>
      match Relationship.parse child parent with
      | .ok edge => replied (outline.remove edge)
      | .error _ => (.ok (.changed false), outline)
  | .apply edge change =>
      match Change.parse change with
      | .ok change => replied (outline.apply edge change)
      | .error fault => (.error fault, outline)

end Outline

/-!
# Programs
-/

/-- An empty graph of some sort, and what a call answers and leaves behind. -/
structure Workbench (γ : Type) where
  empty : γ
  perform : GraphCall -> γ -> Except Fault GraphReply × γ

def Graph.workbench : Workbench Graph where
  empty := .empty
  perform call := call.answer.effect

noncomputable def Outline.workbench : Workbench Outline where
  empty := .empty
  perform := Outline.perform

/-- One step of a program. Graphs are addressed by the order in which they were made. -/
inductive GraphStep where
  | fresh
  | copy (source : Nat)
  | edit (target : Nat) (call : GraphCall)

def GraphStep.run {γ : Type} (bench : Workbench γ) (step : GraphStep) (held : List γ) :
    Option (Except Fault GraphReply) × List γ :=
  match step with
  | .fresh => (none, held ++ [bench.empty])
  | .copy source =>
      match held[source]? with
      | some graph => (none, held ++ [graph])
      | none => (none, held)
  | .edit target call =>
      match held[target]? with
      | some graph =>
          (some (bench.perform call graph).1, held.set target (bench.perform call graph).2)
      | none => (none, held)

def runSteps {γ : Type} (bench : Workbench γ) :
    List GraphStep -> List γ -> List (Option (Except Fault GraphReply)) × List γ
  | [], held => ([], held)
  | step :: rest, held =>
      ((step.run bench held).1 :: (runSteps bench rest (step.run bench held).2).1,
        (runSteps bench rest (step.run bench held).2).2)

namespace Graph

variable {graph : Graph} {outline : Outline}

/-!
# Calls follow the outline
-/

theorem Follows.replied {edit : Action Graph Bool} {expected : Except Fault Bool × Outline}
    (h : Follows (edit.effect graph) expected) :
    Follows ((do return .changed (← edit) : Action Graph GraphReply).effect graph)
      (Outline.replied expected) := by
  rw [Action.effect_map]
  exact ⟨congrArg (Except.map GraphReply.changed) h.answer_eq, h.represents⟩

theorem Represents.perform (h : graph.Represents outline) (call : GraphCall) :
    Follows (call.answer.effect graph) (outline.perform call) := by
  cases call with
  | addVertex text =>
      simp only [GraphCall.answer, Graph.addVertex, Outline.perform]
      cases Name.parse text with
      | error defect => exact ⟨rfl, h⟩
      | ok name => exact ⟨rfl, h.insertVertex name⟩
  | addEdge child parent =>
      simp only [GraphCall.answer, addEdgeBetween, Outline.perform]
      cases Relationship.parse child parent with
      | error fault => exact ⟨rfl, h⟩
      | ok edge => exact (h.addEdge edge).replied
  | removeEdge child parent =>
      simp only [GraphCall.answer, dropEdgeBetween, Outline.perform]
      cases Relationship.parse child parent with
      | error fault => exact ⟨rfl, h⟩
      | ok edge => exact (h.dropEdge edge).replied
  | apply edge change =>
      simp only [GraphCall.answer, Outline.perform]
      cases Change.parse change with
      | error fault => exact ⟨rfl, h⟩
      | ok change =>
          cases change with
          | add => exact (h.addEdge edge).replied
          | remove => exact (h.dropEdge edge).replied

/-!
# Calls that change nothing
-/

/-- The call was refused, or it has reported that it changed nothing. -/
def Idle : Except Fault GraphReply -> Prop
  | .error _ => True
  | .ok (.changed changed) => changed = false
  | .ok (.name _) => False

theorem unchanged_of_addEdge {edge : Relationship}
    (hidle : Idle (((addEdge edge).effect graph).1.map .changed)) :
    ((addEdge edge).effect graph).2 = graph := by
  rw [effect_addEdge] at hidle ⊢
  unfold insertEdge at hidle ⊢
  split_ifs at hidle ⊢
  · rfl
  · rfl
  · rfl
  · cases hidle

theorem unchanged_of_dropEdge {edge : Relationship}
    (hidle : Idle (((dropEdge edge).effect graph).1.map .changed)) :
    ((dropEdge edge).effect graph).2 = graph := by
  rw [effect_dropEdge] at hidle ⊢
  have hkept : (graph.removeEdge edge).2 = false := hidle
  unfold removeEdge at hkept ⊢
  split at hkept
  · split_ifs at hkept ⊢
    rfl
  · rfl

theorem unchanged_of_idle {call : GraphCall} (hidle : Idle (call.answer.effect graph).1) :
    (call.answer.effect graph).2 = graph := by
  cases call with
  | addVertex text =>
      simp only [GraphCall.answer, Graph.addVertex] at hidle ⊢
      cases hname : Name.parse text with
      | error defect => rfl
      | ok name =>
          rw [hname] at hidle
          cases hidle
  | addEdge child parent =>
      simp only [GraphCall.answer, Action.effect_map, addEdgeBetween] at hidle ⊢
      cases hedge : Relationship.parse child parent with
      | error fault => rfl
      | ok edge =>
          rw [hedge] at hidle
          exact unchanged_of_addEdge hidle
  | removeEdge child parent =>
      simp only [GraphCall.answer, Action.effect_map, dropEdgeBetween] at hidle ⊢
      cases hedge : Relationship.parse child parent with
      | error fault => rfl
      | ok edge =>
          rw [hedge] at hidle
          exact unchanged_of_dropEdge hidle
  | apply edge change =>
      simp only [GraphCall.answer] at hidle ⊢
      cases hchange : Change.parse change with
      | error fault => rfl
      | ok change =>
          rw [hchange, Action.effect_bind, Action.effect_ofResult] at hidle
          rw [Action.effect_bind, Action.effect_ofResult]
          simp only [Action.effect_map] at hidle ⊢
          cases change with
          | add => exact unchanged_of_addEdge hidle
          | remove => exact unchanged_of_dropEdge hidle

end Graph

/-!
# Programs follow their outlines
-/

section Related

variable {α β : Type} {R : α -> β -> Prop} {xs : List α} {ys : List β}

theorem getElem?_cases (h : List.Forall₂ R xs ys) (i : Nat) :
    xs[i]? = none ∧ ys[i]? = none ∨
      exists x y, xs[i]? = some x ∧ ys[i]? = some y ∧ R x y := by
  induction h generalizing i with
  | nil => exact Or.inl ⟨rfl, rfl⟩
  | cons hhead _ ih =>
      cases i with
      | zero => exact Or.inr ⟨_, _, rfl, rfl, hhead⟩
      | succ i => exact ih i

theorem forall₂_set (h : List.Forall₂ R xs ys) {x : α} {y : β} (hnew : R x y) (i : Nat) :
    List.Forall₂ R (xs.set i x) (ys.set i y) := by
  induction h generalizing i with
  | nil => exact List.Forall₂.nil
  | cons hhead htail ih =>
      cases i with
      | zero => exact List.Forall₂.cons hnew htail
      | succ i => exact List.Forall₂.cons hhead (ih i)

theorem forall₂_concat (h : List.Forall₂ R xs ys) {x : α} {y : β} (hnew : R x y) :
    List.Forall₂ R (xs ++ [x]) (ys ++ [y]) :=
  List.rel_append h (List.Forall₂.cons hnew List.Forall₂.nil)

end Related

theorem GraphStep.follows (step : GraphStep) {graphs : List Graph} {outlines : List Outline}
    (h : List.Forall₂ Graph.Represents graphs outlines) :
    (step.run Graph.workbench graphs).1 = (step.run Outline.workbench outlines).1 ∧
      List.Forall₂ Graph.Represents (step.run Graph.workbench graphs).2
        (step.run Outline.workbench outlines).2 := by
  cases step with
  | fresh => exact ⟨rfl, forall₂_concat h Graph.represents_empty⟩
  | copy source =>
      unfold GraphStep.run
      rcases getElem?_cases h source with ⟨hgraph, houtline⟩ |
        ⟨graph, outline, hgraph, houtline, hsource⟩
      · simp only [hgraph, houtline]
        exact ⟨trivial, h⟩
      · simp only [hgraph, houtline]
        exact ⟨trivial, forall₂_concat h hsource⟩
  | edit target call =>
      unfold GraphStep.run
      rcases getElem?_cases h target with ⟨hgraph, houtline⟩ |
        ⟨graph, outline, hgraph, houtline, htarget⟩
      · simp only [hgraph, houtline]
        exact ⟨trivial, h⟩
      · rcases htarget.perform call with ⟨hreply, hafter⟩
        simp only [hgraph, houtline]
        exact ⟨congrArg some hreply, forall₂_set h hafter target⟩

theorem runSteps_follow (steps : List GraphStep) {graphs : List Graph} {outlines : List Outline}
    (h : List.Forall₂ Graph.Represents graphs outlines) :
    (runSteps Graph.workbench steps graphs).1 = (runSteps Outline.workbench steps outlines).1 ∧
      List.Forall₂ Graph.Represents (runSteps Graph.workbench steps graphs).2
        (runSteps Outline.workbench steps outlines).2 := by
  induction steps generalizing graphs outlines with
  | nil => exact ⟨rfl, h⟩
  | cons step rest ih =>
      rcases step.follows h with ⟨hreply, hheld⟩
      rcases ih hheld with ⟨hreplies, hafter⟩
      constructor
      · show _ :: _ = _ :: _
        rw [hreply, hreplies]
      · exact hafter

/-!
# Programs and histories

The graphs that a program holds at the end are those that some history of graphs leads to.
-/

theorem GraphCall.state_perform (call : GraphCall) (graph : Graph) :
    (call.perform.run graph).state = (call.answer.effect graph).2 := by
  have hsame : forall {α : Type} (edit : Action Graph α) (f : α -> GraphReply),
      ((do let _ ← edit : Action Graph Unit).effect graph).2 =
        ((do return f (← edit) : Action Graph GraphReply).effect graph).2 := by
    intro α edit f
    rw [Action.effect_discard, Action.effect_map]
  cases call with
  | addVertex text => exact hsame _ _
  | addEdge child parent => exact hsame _ _
  | removeEdge child parent => exact hsame _ _
  | apply edge change =>
      rw [Action.state_eq_effect]
      simp only [GraphCall.perform, GraphCall.answer]
      cases Change.parse change with
      | error fault => rfl
      | ok change => exact hsame (Graph.apply edge change) _

theorem GraphStep.held (step : GraphStep) {graphs : List Graph} (h : Graph.Held graphs) :
    Graph.Held (step.run Graph.workbench graphs).2 := by
  cases step with
  | fresh => exact h.fresh
  | copy source =>
      simp only [GraphStep.run]
      cases hsource : graphs[source]? with
      | none => exact h
      | some graph => exact h.copy (List.mem_of_getElem? hsource)
  | edit target call =>
      simp only [GraphStep.run]
      cases htarget : graphs[target]? with
      | none => exact h
      | some graph =>
          have hedit := h.edit call htarget
          rw [call.state_perform] at hedit
          exact hedit

theorem held_runSteps (steps : List GraphStep) {graphs : List Graph} (h : Graph.Held graphs) :
    Graph.Held (runSteps Graph.workbench steps graphs).2 := by
  induction steps generalizing graphs with
  | nil => exact h
  | cons step rest ih => exact ih (step.held h)

theorem runSteps_concat {γ : Type} (bench : Workbench γ) (steps : List GraphStep)
    (step : GraphStep) (held : List γ) :
    (runSteps bench (steps ++ [step]) held).2 =
      (step.run bench (runSteps bench steps held).2).2 := by
  induction steps generalizing held with
  | nil => rfl
  | cons first rest ih => exact ih _

theorem held_iff_runSteps {graphs : List Graph} :
    Graph.Held graphs ↔ exists steps, (runSteps Graph.workbench steps []).2 = graphs := by
  constructor
  · intro h
    induction h with
    | nothing => exact ⟨[], rfl⟩
    | fresh _ ih =>
        rcases ih with ⟨steps, hsteps⟩
        refine ⟨steps ++ [.fresh], ?_⟩
        rw [runSteps_concat, hsteps]
        rfl
    | copy _ hsource ih =>
        rcases ih with ⟨steps, hsteps⟩
        rcases List.mem_iff_getElem?.mp hsource with ⟨i, hi⟩
        refine ⟨steps ++ [.copy i], ?_⟩
        rw [runSteps_concat, hsteps]
        simp only [GraphStep.run, hi]
    | @edit _ graph i call _ hsource ih =>
        rcases ih with ⟨steps, hsteps⟩
        refine ⟨steps ++ [.edit i call], ?_⟩
        rw [runSteps_concat, hsteps, call.state_perform]
        simp only [GraphStep.run, hsource]
        rfl
  · intro h
    rcases h with ⟨steps, hsteps⟩
    rw [← hsteps]
    exact held_runSteps steps Graph.Held.nothing

/-!
# Edits of one graph among several
-/

theorem GraphStep.others_of_edit {γ : Type} (bench : Workbench γ) (target : Nat) (call : GraphCall)
    (held : List γ) {other : Nat} (hother : other ≠ target) :
    ((GraphStep.edit target call).run bench held).2[other]? = held[other]? := by
  simp only [GraphStep.run]
  cases held[target]? with
  | none => rfl
  | some graph => exact List.getElem?_set_ne hother.symm

theorem GraphStep.unchanged_of_idle {target : Nat} {call : GraphCall} {held : List Graph}
    {reply : Except Fault GraphReply} (hidle : Graph.Idle reply)
    (hreply : ((GraphStep.edit target call).run Graph.workbench held).1 = some reply) :
    ((GraphStep.edit target call).run Graph.workbench held).2 = held := by
  simp only [GraphStep.run] at hreply ⊢
  cases htarget : held[target]? with
  | none => rfl
  | some graph =>
      rw [htarget] at hreply
      cases hreply
      have hsame : (Graph.workbench.perform call graph).2 = graph := Graph.unchanged_of_idle hidle
      rcases List.getElem?_eq_some_iff.mp htarget with ⟨hlt, hget⟩
      show held.set target (Graph.workbench.perform call graph).2 = held
      rw [hsame, ← hget, List.set_getElem_self]

/--
Graphs answer every program as outlines do, and in the end each of them reads its outline.  An edit
touches no other graph, and if it is refused or changes nothing it leaves its own graph as it is.
-/
theorem graphs_follow_outlines (steps : List GraphStep) :
    (runSteps Graph.workbench steps []).1 = (runSteps Outline.workbench steps []).1 ∧
      List.Forall₂ Graph.Reads (runSteps Graph.workbench steps []).2
        (runSteps Outline.workbench steps []).2 ∧
      forall target call,
        (forall other, other ≠ target ->
          ((GraphStep.edit target call).run Graph.workbench
            (runSteps Graph.workbench steps []).2).2[other]? =
            (runSteps Graph.workbench steps []).2[other]?) ∧
        forall reply, Graph.Idle reply ->
          ((GraphStep.edit target call).run Graph.workbench
            (runSteps Graph.workbench steps []).2).1 = some reply ->
          ((GraphStep.edit target call).run Graph.workbench
            (runSteps Graph.workbench steps []).2).2 = (runSteps Graph.workbench steps []).2 := by
  rcases runSteps_follow steps List.Forall₂.nil with ⟨hreplies, hheld⟩
  refine ⟨hreplies, hheld.imp fun _ _ hgraph => hgraph.reads, ?_⟩
  intro target call
  constructor
  · intro other hother
    exact GraphStep.others_of_edit _ _ _ _ hother
  · intro reply hidle hreply
    exact GraphStep.unchanged_of_idle hidle hreply

/-- A copy has its own edges, and an edge that would close a cycle changes nothing. -/
theorem graphs_follow_outlines_after_a_refusal :
    let steps : List GraphStep :=
      [.fresh, .edit 0 (.addEdge (some "clerk") (some " Boss ")), .copy 0,
        .edit 1 (.removeEdge (some "CLERK") (some "boss"))]
    let held := (runSteps Graph.workbench steps []).2
    let refused : GraphStep := .edit 0 (.addEdge (some "boss") (some "clerk"))
    (held.map (·.edgeCount) = [1, 0]) ∧ (refused.run Graph.workbench held).2 = held ∧
      List.Forall₂ Graph.Reads held (runSteps Outline.workbench steps []).2 := by
  intro steps held refused
  have hrefused : ((refused.run Graph.workbench held).1.any fun reply => !reply.isOk) = true := by
    decide +kernel
  rcases graphs_follow_outlines steps with ⟨_, hreads, hedits⟩
  rcases (Option.any_eq_true _ _).mp hrefused with ⟨reply, hreply, hfailed⟩
  cases reply with
  | ok answer => cases hfailed
  | error fault =>
      have hidle : Graph.Idle (.error fault) := trivial
      exact ⟨by decide +kernel, (hedits 0 _).2 _ hidle hreply, hreads⟩

end Entitlement
