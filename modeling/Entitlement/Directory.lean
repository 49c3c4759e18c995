import Entitlement.Graph.Row
import Entitlement.Permission

/-!
# Directories

A directory is the lasting store of hierarchies and permissions. The engine needs two things of it:
to list a hierarchy as rows and to read one permission. Both may fail, and a directory may have a
state of its own.
-/

namespace Entitlement

structure Directory (σ : Type) where
  list : HierarchyKind -> Option String -> Action σ (List Row)
  readPermission : PermissionRequest -> Action σ (Option Permission)

end Entitlement
