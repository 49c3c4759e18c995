import Entitlement.Audit.Sink
import Entitlement.Hierarchies.Query

/-!
# The engine

An engine binds a directory and, optionally, an audit sink. Its world is what changes while it runs:
the live hierarchies and the state of the sink.
-/

namespace Entitlement

structure Engine (σ τ : Type) where
  directory : Directory σ
  sink : Option (AuditSink τ)
  auditEnabled : Bool

structure World (σ τ : Type) where
  hierarchies : Hierarchies σ
  trail : τ

namespace World

variable {σ τ : Type}

def start (sentinel : String) (directory : σ) (trail : τ) : World σ τ :=
  ⟨⟨Cache.empty sentinel, directory⟩, trail⟩

def onHierarchies {α : Type} (x : Action (Hierarchies σ) α) : Action (World σ τ) α :=
  x.within (·.hierarchies) fun world hierarchies => { world with hierarchies }

def onDirectory {α : Type} (x : Action σ α) : Action (World σ τ) α :=
  onHierarchies (Hierarchies.onDirectory x)

def onTrail {α : Type} (x : Action τ α) : Action (World σ τ) α :=
  x.within (·.trail) fun world trail => { world with trail }

end World

namespace Engine

variable {σ τ : Type}

def warmUp (engine : Engine σ τ) (contexts : List (Option String)) : Action (World σ τ) Unit :=
  Action.forEach contexts fun context => do
    let _ ← World.onHierarchies (Hierarchies.graph engine.directory .role context)
    let _ ← World.onHierarchies (Hierarchies.graph engine.directory .adminRole context)
    Action.report .engine .info s!"Warmed role hierarchies for context [{Text.shown context}]"

def close : Action (World σ τ) Unit :=
  World.onHierarchies Hierarchies.close

end Engine

end Entitlement
