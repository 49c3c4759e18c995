import Entitlement.Audit.Trail
import Entitlement.Proofs.Engine.Operations

/-!
# Audits are neutral

Two engines with the same directory are compared, with any audit sinks or none, from the same live
hierarchies on.  Each of them goes along with the silent engine, operation by operation.  So they
answer alike and leave the same live hierarchies behind, except that each notes in its decisions
what has become of its own audits.
-/

namespace Entitlement

structure AuditNoted (decision : Decision) (calls : List AuditCall) : Prop where
  event_eq : forall call, call ∈ calls -> call.event = decision.event
  isSome_iff : decision.auditFault.isSome = true ↔
    exists call cause, call ∈ calls ∧ call.result = .error cause
  auditFault_eq : forall call cause, call ∈ calls -> call.result = .error cause ->
    decision.auditFault = some (.auditFailed call.event cause)
  warnings_eq : decision.warnings = decision.auditFault.toList.map (·.message)

namespace Engine

variable {σ τ ρ : Type}

/-- What is seen of an operation: its result, and the calls that the audit sink has got. -/
structure Entry (ρ : Type) where
  result : Except Fault (Response ρ)
  calls : List AuditCall

def Entry.settled (entry : Entry ρ) : Except Fault (Response ρ) :=
  entry.result.map Response.settled

def history (engine : Engine σ τ) : List (Operation σ ρ) -> World σ τ -> List (Entry ρ)
  | [], _ => []
  | operation :: rest, world =>
      ⟨((operation.perform engine).effect world).1, operation.calls engine world⟩ ::
        engine.history rest ((operation.perform engine).effect world).2

def proceed (engine : Engine σ τ) : List (Operation σ ρ) -> World σ τ -> World σ τ
  | [], world => world
  | operation :: rest, world => engine.proceed rest ((operation.perform engine).effect world).2

/-!
# Going along with the silent engine
-/

theorem concluded_settled (engine : Engine σ τ) (session : Session) (trail : τ)
    (ruled : Except Fault (Permission × Verdict) × World σ Unit) :
    (engine.concluded session trail ruled).1.map settled =
        (engine.silent.concluded session () ruled).1.map settled ∧
      (engine.concluded session trail ruled).2.silent =
        (engine.silent.concluded session () ruled).2 := by
  rcases ruled with ⟨ruling, quiet⟩
  cases ruling with
  | error fault => exact ⟨rfl, rfl⟩
  | ok ruling => exact ⟨rfl, rfl⟩

theorem settled_decision (result : Except Fault Decision) :
    (result.map (Response.decision (ρ := ρ))).map Response.settled =
      (result.map settled).map Response.decision := by
  cases result with
  | error fault => rfl
  | ok decision => rfl

theorem Operation.settled_perform (engine : Engine σ τ) (operation : Operation σ ρ)
    (world : World σ τ) :
    ((operation.perform engine).effect world).1.map Response.settled =
        ((operation.perform engine.silent).effect world.silent).1.map Response.settled ∧
      ((operation.perform engine).effect world).2.silent =
        ((operation.perform engine.silent).effect world.silent).2 := by
  rcases operation.check_or_other with hother | ⟨session, permission, rfl⟩
  · rw [mirrors_perform engine hother world]
    exact ⟨rfl, rfl⟩
  · have hsettled := concluded_settled engine session world.trail
      ((engine.silent.rule session permission).effect world.silent)
    rw [effect_check, effect_check]
    dsimp only
    rw [effect_checkPermission, effect_checkPermission, settled_decision, settled_decision,
      hsettled.1]
    exact ⟨rfl, hsettled.2⟩

theorem settled_history (engine : Engine σ τ) (operations : List (Operation σ ρ))
    (world : World σ τ) :
    (engine.history operations world).map Entry.settled =
        (engine.silent.history operations world.silent).map Entry.settled ∧
      (engine.proceed operations world).silent =
        engine.silent.proceed operations world.silent := by
  -- After each operation the worlds differ in the trail only, which nothing but an audit reads.
  induction operations generalizing world with
  | nil => exact ⟨rfl, rfl⟩
  | cons operation rest ih =>
      rcases operation.settled_perform engine world with ⟨hresult, hstate⟩
      rcases ih ((operation.perform engine).effect world).2 with ⟨hrest, hlast⟩
      rw [hstate] at hrest hlast
      exact ⟨List.cons_eq_cons.mpr ⟨hresult, hrest⟩, hlast⟩

/-!
# What is noted of an audit
-/

theorem auditNoted_of_auditFault {engine : Engine σ τ} {decision : Decision} {trail : τ}
    (hfault : decision.auditFault = engine.auditFault decision.event trail)
    (hwarnings : decision.warnings = decision.auditFault.toList.map (·.message)) :
    AuditNoted decision (engine.handed decision.event trail) := by
  rcases engine.audit_cases decision.event trail with
    ⟨hcalls, hnoted⟩ | ⟨hcalls, hnoted⟩ | ⟨cause, hcalls, hnoted⟩
  · rw [hcalls]
    exact ⟨by simp, by simp [hfault, hnoted], by simp, hwarnings⟩
  · rw [hcalls]
    refine ⟨?_, by simp [hfault, hnoted], fun call cause hcall hcause => ?_, hwarnings⟩
    · exact fun call hcall => congrArg AuditCall.event (List.mem_singleton.mp hcall)
    · rw [List.mem_singleton.mp hcall] at hcause
      cases hcause
  · rw [hcalls]
    refine ⟨?_, by simp [hfault, hnoted], fun call other hcall hother => ?_, hwarnings⟩
    · exact fun call hcall => congrArg AuditCall.event (List.mem_singleton.mp hcall)
    · rw [List.mem_singleton.mp hcall] at hother ⊢
      rw [← Except.error.inj hother, hfault, hnoted]

theorem Operation.auditNoted_perform (engine : Engine σ τ) (operation : Operation σ ρ)
    (world : World σ τ) {decision : Decision}
    (hdecision : ((operation.perform engine).effect world).1 = .ok (.decision decision)) :
    AuditNoted decision (operation.calls engine world) := by
  rcases check_of_decision hdecision with ⟨session, permission, rfl, hcheck⟩
  rcases ruling_of_checkPermission hcheck with ⟨stored, verdict, _, _, hruled, _⟩
  rw [calls_check, hcheck]
  refine auditNoted_of_auditFault (congrArg Decision.auditFault hruled) ?_
  rw [hruled]
  rfl

theorem auditNoted_history (engine : Engine σ τ) (operations : List (Operation σ ρ))
    (world : World σ τ) {entry : Entry ρ} (hentry : entry ∈ engine.history operations world)
    {decision : Decision} (hdecision : entry.result = .ok (.decision decision)) :
    AuditNoted decision entry.calls := by
  induction operations generalizing world with
  | nil => cases hentry
  | cons operation rest ih =>
      rcases List.mem_cons.mp hentry with rfl | hlater
      · exact operation.auditNoted_perform engine world hdecision
      · exact ih _ hlater

/--
Two engines with the same directory are carried through the same operations, each with an audit of
its own.  They answer alike, apart from what is noted of audits, and leave the same live hierarchies
behind; what is noted in a decision is what has become of its own audit.
-/
theorem audits_never_decide {τ' : Type} (directory : Directory σ) (sink : Option (AuditSink τ))
    (sink' : Option (AuditSink τ')) (auditEnabled auditEnabled' : Bool)
    (hierarchies : Hierarchies σ) (trail : τ) (trail' : τ') (operations : List (Operation σ ρ)) :
    let left : Engine σ τ := ⟨directory, sink, auditEnabled⟩
    let right : Engine σ τ' := ⟨directory, sink', auditEnabled'⟩
    let leftStart : World σ τ := ⟨hierarchies, trail⟩
    let rightStart : World σ τ' := ⟨hierarchies, trail'⟩
    (left.history operations leftStart).map Entry.settled =
        (right.history operations rightStart).map Entry.settled ∧
      (left.proceed operations leftStart).hierarchies =
        (right.proceed operations rightStart).hierarchies ∧
      forall entry decision, entry ∈ left.history operations leftStart ->
        entry.result = .ok (.decision decision) -> AuditNoted decision entry.calls := by
  intro left right leftStart rightStart
  have hleft := settled_history left operations leftStart
  have hright := settled_history right operations rightStart
  refine ⟨hleft.1.trans hright.1.symm, ?_, ?_⟩
  · exact congrArg World.hierarchies (hleft.2.trans hright.2.symm)
  · intro entry decision hentry hdecision
    exact auditNoted_history left operations leftStart hentry hdecision

def Entry.isNoted (entry : Entry ρ) : Bool :=
  match entry.result with
  | .ok (.decision decision) => decision.auditFault.isSome
  | _ => false

theorem Entry.exists_of_isNoted {entry : Entry ρ} (h : entry.isNoted = true) :
    exists decision, entry.result = .ok (.decision decision) ∧
      decision.auditFault.isSome = true := by
  unfold isNoted at h
  split at h
  · rename_i decision hresult
    exact ⟨decision, hresult, h⟩
  · cases h

theorem audits_never_decide_with_a_failing_trail :
    let session : Session := ⟨"ann", [], [], none, none⟩
    let grant : Permission := ⟨"file", "read", none, false, [some "ann"], [], none, none, none⟩
    let left : Engine Store AuditTrail := ⟨Store.directory, some AuditTrail.sink, true⟩
    let right : Engine Store Unit := ⟨Store.directory, none, true⟩
    let hierarchies : Hierarchies Store := ⟨Cache.empty "null", Store.empty "null"⟩
    let trail : AuditTrail := { AuditTrail.standard with failures := [some .cacheClosed] }
    let operations : List (Operation Store Unit) :=
      [.write (Store.addPermission grant), .checkPermission session grant]
    (left.history operations ⟨hierarchies, trail⟩).map Entry.settled =
        (right.history operations ⟨hierarchies, ()⟩).map Entry.settled ∧
      exists entry decision, entry ∈ left.history operations ⟨hierarchies, trail⟩ ∧
        entry.result = .ok (.decision decision) ∧ decision.auditFault.isSome = true ∧
        AuditNoted decision entry.calls := by
  intro session grant left right hierarchies trail operations
  have hneutral := audits_never_decide Store.directory (some AuditTrail.sink)
    (none : Option (AuditSink Unit)) true true hierarchies trail () operations
  have hsome : (left.history operations ⟨hierarchies, trail⟩).any Entry.isNoted = true := by
    decide +kernel
  rcases List.any_eq_true.mp hsome with ⟨entry, hentry, hnoted⟩
  rcases Entry.exists_of_isNoted hnoted with ⟨decision, hdecision, hfault⟩
  exact ⟨hneutral.1, entry, decision, hentry, hdecision, hfault,
    hneutral.2.2 entry decision hentry hdecision⟩

end Engine
end Entitlement
