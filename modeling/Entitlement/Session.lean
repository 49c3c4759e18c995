import Entitlement.Fault
import Entitlement.Roster

/-!
# Sessions

A session is a user at work with the roles that the user has activated.
-/

namespace Entitlement

structure Session where
  user : String
  roles : List (Option String)
  adminRoles : List (Option String)
  context : Option String
  id : Option String
  deriving DecidableEq, Repr

namespace Session

def parse (user : Option String) (roles adminRoles : List (Option String))
    (context id : Option String) : Except Fault Session :=
  match user with
  | none | some "" => .error .userMissing
  | some user =>
      .ok {
        user, context, id
        roles := Roster.ofList roles
        adminRoles := Roster.ofList adminRoles }

def activated (session : Session) (admin : Bool) : List (Option String) :=
  if admin then session.adminRoles else session.roles

def summary (session : Session) : String :=
  s!"Session(user={session.user}, roles={session.roles.length}, "
    ++ s!"admin_roles={session.adminRoles.length})"

end Session

end Entitlement
