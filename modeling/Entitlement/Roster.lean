/-!
# Rosters

A roster lists the members of a finite set once each, in ascending order, so that two rosters are
equal exactly if they have the same members.
-/

namespace Entitlement

def Roster.insert {α : Type} [Ord α] (x : α) : List α -> List α
  | [] => [x]
  | y :: rest =>
      match compare x y with
      | .lt => x :: y :: rest
      | .eq => y :: rest
      | .gt => y :: Roster.insert x rest

def Roster.ofList {α : Type} [Ord α] (xs : List α) : List α :=
  xs.foldl (fun roster x => Roster.insert x roster) []

end Entitlement
