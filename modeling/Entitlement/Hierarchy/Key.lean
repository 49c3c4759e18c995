import Entitlement.Hierarchy.Kind
import Entitlement.Text.Blank
import Entitlement.Text.Case
import Entitlement.Text.Shown

/-!
# Tenant contexts and hierarchy keys

A tenant is named by a context. The absent context, blank contexts and every spelling of a
configurable sentinel all mean the global context, which is written as the empty text. A hierarchy
is addressed by its kind and its context.
-/

namespace Entitlement

namespace Context

def global : String := ""

def defaultSentinel : String := "null"

/-- The one spelling of a context. The sentinel is compared without regard to letter case. -/
def normalize (sentinel : String) : Option String -> String
  | none => global
  | some context =>
      let trimmed := Text.trim context
      if trimmed = "" || Text.lower trimmed = Text.lower sentinel then global else trimmed

end Context

structure HierarchyKey where
  kind : HierarchyKind
  context : String
  deriving DecidableEq, Repr

namespace HierarchyKey

def of (sentinel : String) (kind : HierarchyKind) (context : Option String) : HierarchyKey :=
  ⟨kind, Context.normalize sentinel context⟩

@[simp] theorem of_context (sentinel : String) (kind : HierarchyKind) (context : Option String) :
    (of sentinel kind context).context = Context.normalize sentinel context := rfl

def isGlobal (key : HierarchyKey) : Bool :=
  key.context == Context.global

def label (key : HierarchyKey) : String :=
  if key.isGlobal then key.kind.label else s!"{key.kind.label}:{key.context}"

end HierarchyKey

/-- A key whose context is taken as it is written; it may be absent. -/
structure LiteralKey where
  kind : HierarchyKind
  context : Option String
  deriving DecidableEq, Repr

namespace LiteralKey

/-- Only the empty context is that of no particular tenant; an absent one is not. -/
def isGlobal (key : LiteralKey) : Bool :=
  key.context == some Context.global

def label (key : LiteralKey) : String :=
  if key.isGlobal then key.kind.label else s!"{key.kind.label}:{Text.shown key.context}"

end LiteralKey

def HierarchyKey.literal (key : HierarchyKey) : LiteralKey :=
  ⟨key.kind, some key.context⟩

end Entitlement
