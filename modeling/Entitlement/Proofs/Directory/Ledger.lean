import Entitlement.Proofs.Directory.Memory

/-!
# The ledger of a store

The ledger of a store is the list of all writes since the store was empty.  It says what the store
should hold: an edge that was written and has not been deleted since, a child at the place where it
was first written since it was last deleted as an entity, and the permission that was last added
under a key.
-/

namespace Entitlement

/-!
# What lasts
-/

/-- Something was done and has not been undone since. -/
def Lasts {α : Type} (does undoes : α -> Bool) (trace : List α) : Prop :=
  exists before event after, trace = before ++ event :: after ∧ does event = true ∧
    forall later, later ∈ after -> undoes later = false

section Lasts

variable {α : Type} {does undoes : α -> Bool} {trace : List α} {event : α}

theorem concat_eq_append_cons_iff {before after : List α} {last : α} :
    trace ++ [last] = before ++ event :: after ↔
      (before = trace ∧ event = last ∧ after = []) ∨
        exists rest, after = rest ++ [last] ∧ trace = before ++ event :: rest := by
  constructor
  · intro h
    rcases List.eq_nil_or_concat after with hafter | ⟨rest, final, hafter⟩
    · rw [hafter] at h
      rcases List.append_inj' h rfl with ⟨hbefore, hlast⟩
      cases hlast
      exact Or.inl ⟨hbefore.symm, rfl, hafter⟩
    · rw [List.concat_eq_append] at hafter
      rw [hafter, ← List.cons_append, ← List.append_assoc] at h
      rcases List.append_inj' h rfl with ⟨htrace, hlast⟩
      cases hlast
      exact Or.inr ⟨rest, hafter, htrace⟩
  · intro h
    rcases h with ⟨hbefore, hevent, hafter⟩ | ⟨rest, hafter, htrace⟩
    · rw [hbefore, hevent, hafter]
    · rw [hafter, htrace, List.append_assoc]
      rfl

theorem not_lasts_nil : ¬ Lasts does undoes [] := by
  intro h
  rcases h with ⟨before, event, after, htrace, _⟩
  cases before with
  | nil => cases htrace
  | cons first rest => cases htrace

theorem forall_mem_concat {p : α -> Prop} :
    (forall later, later ∈ trace ++ [event] -> p later) ↔
      (forall later, later ∈ trace -> p later) ∧ p event := by
  simp only [List.mem_append, List.mem_singleton, or_imp, forall_and, forall_eq]

theorem lasts_concat :
    Lasts does undoes (trace ++ [event]) ↔
      does event = true ∨ Lasts does undoes trace ∧ undoes event = false := by
  constructor
  · intro h
    rcases h with ⟨before, done, after, htrace, hdone, hlater⟩
    rcases concat_eq_append_cons_iff.mp htrace with ⟨_, hevent, _⟩ | ⟨rest, hafter, hrest⟩
    · rw [hevent] at hdone
      exact Or.inl hdone
    · rw [hafter, forall_mem_concat] at hlater
      exact Or.inr ⟨⟨before, done, rest, hrest, hdone, hlater.1⟩, hlater.2⟩
  · intro h
    rcases h with hdone | ⟨⟨before, done, after, htrace, hdone, hlater⟩, hkept⟩
    · exact ⟨trace, event, [], rfl, hdone, fun later hlater => nomatch hlater⟩
    · exists before, done, after ++ [event]
      constructor
      · exact concat_eq_append_cons_iff.mpr (Or.inr ⟨after, rfl, htrace⟩)
      constructor
      · exact hdone
      · exact forall_mem_concat.mpr ⟨hlater, hkept⟩

end Lasts

namespace Store

/-!
# Writes
-/

inductive Write where
  /-- A child is written, with further parents or with none. -/
  | insert (key : HierarchyKey) (child : Name) (parents : List Name)
  | erase (key : HierarchyKey) (edge : Relationship)
  /-- A name is deleted as an entity. -/
  | forget (key : HierarchyKey) (name : Name)
  | file (key : PermissionKey) (permission : Permission)
  | withdraw (key : PermissionKey)

namespace Write

def adds (key : HierarchyKey) (edge : Relationship) : Write -> Bool
  | .insert other child parents => other = key && child = edge.child && parents.contains edge.parent
  | _ => false

theorem adds_insert_iff {key other : HierarchyKey} {edge : Relationship} {child : Name}
    {parents : List Name} :
    (insert other child parents).adds key edge = true ↔
      other = key ∧ child = edge.child ∧ edge.parent ∈ parents := by
  simp [adds, and_assoc]

def deletes (key : HierarchyKey) (edge : Relationship) : Write -> Bool
  | .erase other gone => other = key && gone = edge
  | .forget other name => other = key && (name = edge.child || name = edge.parent)
  | _ => false

def names (key : HierarchyKey) (name : Name) : Write -> Bool
  | .insert other child _ => other = key && child = name
  | _ => false

def forgets (key : HierarchyKey) (name : Name) : Write -> Bool
  | .forget other gone => other = key && gone = name
  | _ => false

def files (key : PermissionKey) (permission : Permission) : Write -> Bool
  | .file other filed => other = key && filed = permission
  | _ => false

/-- Whatever was filed under the key is replaced or taken away. -/
def settles (key : PermissionKey) : Write -> Bool
  | .file other _ => other = key
  | .withdraw other => other = key
  | _ => false

def hierarchy? : Write -> Option HierarchyKey
  | .insert key _ _ => some key
  | .erase key _ => some key
  | .forget key _ => some key
  | .file _ _ => none
  | .withdraw _ => none

end Write

def filedUnder (sentinel : String) (request : PermissionRequest) : PermissionKey where
  context := Context.normalize sentinel request.context
  admin := request.admin
  object := Text.upper (Text.trim request.object)
  operation := Text.upper (Text.trim request.operation)
  objectId := Text.upper (Text.trim (request.objectId.getD ""))

/-- The edges that are written one by one, as far as they can be read. -/
def loads (sentinel : String) (kind context : Option String) :
    List (Option String × Option String) -> List Write
  | [] => []
  | (child, parent) :: rest =>
      match Relationship.parse child parent, HierarchyKind.parse kind with
      | .ok edge, .ok parsed =>
          .insert (.of sentinel parsed context) edge.child [edge.parent] ::
            loads sentinel kind context rest
      | _, _ => []

def Call.writes (sentinel : String) : Call -> List Write
  | .add kind edge context => [.insert (.of sentinel kind context) edge.child [edge.parent]]
  | .remove kind edge context => [.erase (.of sentinel kind context) edge]
  | .load kind edges context => loads sentinel kind context edges
  | .addEntity entity =>
      match Name.parse entity.name with
      | .ok name => [.insert (.of sentinel entity.kind entity.context) name entity.parents]
      | .error _ => []
  | .removeEntity entity =>
      match Name.parse entity.name with
      | .ok name => [.forget (.of sentinel entity.kind entity.context) name]
      | .error _ => []
  | .addPermission permission => [.file (filedUnder sentinel permission.request) permission]
  | .removePermission permission => [.withdraw (filedUnder sentinel permission.request)]
  | .list _ _ => []
  | .readPermission _ => []

/-!
# What the ledger says
-/

/-- The edge was written and has not been deleted since. -/
def Holds (key : HierarchyKey) (edge : Relationship) (ledger : List Write) : Prop :=
  Lasts (Write.adds key edge) (Write.deletes key edge) ledger

/-- The name was written as a child and has not been deleted as an entity since. -/
def Standing (key : HierarchyKey) (name : Name) (ledger : List Write) : Prop :=
  Lasts (Write.names key name) (Write.forgets key name) ledger

/-- The place of the write by which a child has come to stand. -/
def Entered (key : HierarchyKey) (name : Name) (ledger : List Write) (place : Nat) : Prop :=
  exists before write after, ledger = before ++ write :: after ∧ place = before.length ∧
    write.names key name = true ∧ ¬ Standing key name before ∧
      forall later, later ∈ after -> later.forgets key name = false

/-- The permission is the one that was last filed, and has not been taken away since. -/
def Filed (key : PermissionKey) (permission : Permission) (ledger : List Write) : Prop :=
  Lasts (Write.files key permission) (Write.settles key) ledger

section Places

variable {key : HierarchyKey} {name : Name} {ledger : List Write} {write : Write} {place : Nat}

theorem entered_concat :
    Entered key name (ledger ++ [write]) place ↔
      (place = ledger.length ∧ write.names key name = true ∧ ¬ Standing key name ledger) ∨
        Entered key name ledger place ∧ write.forgets key name = false := by
  constructor
  · intro h
    rcases h with ⟨before, entry, after, hledger, hplace, hentry, hnew, hlater⟩
    rcases concat_eq_append_cons_iff.mp hledger with ⟨hbefore, hlast, _⟩ | ⟨rest, hafter, hrest⟩
    · rw [hbefore] at hplace hnew
      rw [hlast] at hentry
      exact Or.inl ⟨hplace, hentry, hnew⟩
    · rw [hafter, forall_mem_concat] at hlater
      exact Or.inr ⟨⟨before, entry, rest, hrest, hplace, hentry, hnew, hlater.1⟩, hlater.2⟩
  · intro h
    rcases h with ⟨hplace, hwrite, hnew⟩ |
      ⟨⟨before, entry, after, hledger, hplace, hentry, hnew, hlater⟩, hkept⟩
    · exact ⟨ledger, write, [], rfl, hplace, hwrite, hnew, fun later hlater => nomatch hlater⟩
    · exact ⟨before, entry, after ++ [write],
        concat_eq_append_cons_iff.mpr (Or.inr ⟨after, rfl, hledger⟩), hplace, hentry, hnew,
        forall_mem_concat.mpr ⟨hlater, hkept⟩⟩

theorem Entered.standing (h : Entered key name ledger place) : Standing key name ledger := by
  rcases h with ⟨before, write, after, hledger, _, hwrite, _, hlater⟩
  exact ⟨before, write, after, hledger, hwrite, hlater⟩

theorem Entered.lt_length (h : Entered key name ledger place) : place < ledger.length := by
  rcases h with ⟨before, write, after, hledger, hplace, _⟩
  rw [hledger, hplace, List.length_append, List.length_cons]
  exact Nat.lt_add_of_pos_right (Nat.succ_pos _)

theorem Entered.unique {other : Nat} (h : Entered key name ledger place)
    (hother : Entered key name ledger other) : place = other := by
  induction ledger using List.reverseRecOn with
  | nil => exact absurd h.standing not_lasts_nil
  | append_singleton ledger write ih =>
      rcases entered_concat.mp h with ⟨hplace, _, hnew⟩ | ⟨hold, _⟩
      · rcases entered_concat.mp hother with ⟨hsame, _, _⟩ | ⟨hbefore, _⟩
        · rw [hplace, hsame]
        · exact absurd hbefore.standing hnew
      · rcases entered_concat.mp hother with ⟨_, _, hnew⟩ | ⟨hbefore, _⟩
        · exact absurd hold.standing hnew
        · exact ih hold hbefore

theorem Write.forgets_of_names {other : Name} (h : write.names key name = true) :
    write.forgets key other = false := by
  cases write with
  | insert _ _ _ => rfl
  | _ => cases h

theorem exists_entered (h : Standing key name ledger) :
    exists place, Entered key name ledger place := by
  induction ledger using List.reverseRecOn with
  | nil => exact absurd h not_lasts_nil
  | append_singleton ledger write ih =>
      rcases lasts_concat.mp h with hnames | ⟨hstanding, hkept⟩
      · by_cases hstanding : Standing key name ledger
        · rcases ih hstanding with ⟨place, hplace⟩
          exact ⟨place, entered_concat.mpr (Or.inr ⟨hplace, Write.forgets_of_names hnames⟩)⟩
        · exact ⟨_, entered_concat.mpr (Or.inl ⟨rfl, hnames, hstanding⟩)⟩
      · rcases ih hstanding with ⟨place, hplace⟩
        exact ⟨place, entered_concat.mpr (Or.inr ⟨hplace, hkept⟩)⟩

def Before (key : HierarchyKey) (ledger : List Write) (first second : Name) : Prop :=
  exists place other, Entered key first ledger place ∧ Entered key second ledger other ∧
    place < other

theorem Before.concat {first second : Name} (h : Before key ledger first second)
    (hfirst : write.forgets key first = false) (hsecond : write.forgets key second = false) :
    Before key (ledger ++ [write]) first second := by
  rcases h with ⟨place, other, hplace, hother, hlt⟩
  exact ⟨place, other, entered_concat.mpr (Or.inr ⟨hplace, hfirst⟩),
    entered_concat.mpr (Or.inr ⟨hother, hsecond⟩), hlt⟩

theorem before_new {first : Name} (hfirst : Standing key first ledger)
    (hwrite : write.names key name = true) (hnew : ¬ Standing key name ledger) :
    Before key (ledger ++ [write]) first name := by
  rcases exists_entered hfirst with ⟨place, hplace⟩
  have hkept : write.forgets key first = false := Write.forgets_of_names hwrite
  exact ⟨place, ledger.length, entered_concat.mpr (Or.inr ⟨hplace, hkept⟩),
    entered_concat.mpr (Or.inl ⟨rfl, hwrite, hnew⟩), hplace.lt_length⟩

end Places

end Store
end Entitlement
