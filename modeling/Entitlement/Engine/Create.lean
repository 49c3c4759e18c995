import Entitlement.Directory.Memory
import Entitlement.Engine.Authorize
import Entitlement.Settings.Basic

/-!
# Creating an engine

An engine is created from settings. A new engine starts with an empty cache; if the settings name
tenants, their role hierarchies are built at once, and an engine whose tenants cannot be built is
not created.
-/

namespace Entitlement
namespace Engine

variable {σ τ : Type}

def standardStore (settings : Settings) : Store :=
  Store.empty settings.sentinel

def ofSettings (settings : Settings) (directory : Directory σ) (sink : Option (AuditSink τ)) :
    Engine σ τ where
  directory := directory
  sink := sink
  auditEnabled := settings.auditEnabled

def create (settings : Settings) (engine : Engine σ τ) (directory : σ) (trail : τ) :
    Outcome (World σ τ) Unit :=
  (engine.warmUp (settings.preloadContexts.map some)).run
    (World.start settings.sentinel directory trail)

end Engine
end Entitlement
