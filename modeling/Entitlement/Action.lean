import Entitlement.Fault
import Entitlement.Journal

/-!
# Actions

An action reads and changes a state, may fail with a fault, and writes journal records. A failed
action keeps the changes and the records that it made before it failed.
-/

namespace Entitlement

structure Outcome (σ α : Type) where
  result : Except Fault α
  state : σ
  records : List Record

/-- A computation on a state that may fail and that keeps a journal. -/
def Action (σ α : Type) : Type :=
  σ -> Outcome σ α

namespace Action

variable {σ ω α β : Type}

def run (x : Action σ α) (s : σ) : Outcome σ α :=
  x s

def pure (a : α) : Action σ α := fun s =>
  ⟨.ok a, s, []⟩

def bind (x : Action σ α) (f : α -> Action σ β) : Action σ β := fun s =>
  let first := x s
  match first.result with
  | .error fault => ⟨.error fault, first.state, first.records⟩
  | .ok a =>
      let second := f a first.state
      ⟨second.result, second.state, first.records ++ second.records⟩

instance : Monad (Action σ) where
  pure := Action.pure
  bind := Action.bind

def fail (fault : Fault) : Action σ α := fun s =>
  ⟨.error fault, s, []⟩

def ofResult (result : Except Fault α) : Action σ α := fun s =>
  ⟨result, s, []⟩

def attempt (x : Action σ α) : Action σ (Except Fault α) := fun s =>
  let outcome := x s
  ⟨.ok outcome.result, outcome.state, outcome.records⟩

def read : Action σ σ := fun s =>
  ⟨.ok s, s, []⟩

def update (f : σ -> σ) : Action σ Unit := fun s =>
  ⟨.ok (), f s, []⟩

def report (component : Component) (level : Level) (message : String) : Action σ Unit := fun s =>
  ⟨.ok (), s, [⟨component, level, message⟩]⟩

def within (part : ω -> σ) (replace : ω -> σ -> ω) (x : Action σ α) : Action ω α := fun w =>
  let outcome := x (part w)
  ⟨outcome.result, replace w outcome.state, outcome.records⟩

def forEach (xs : List β) (f : β -> Action σ Unit) : Action σ Unit :=
  match xs with
  | [] => Action.pure ()
  | x :: rest => Action.bind (f x) fun _ => forEach rest f

/-!
## Running an action in two parts
-/

theorem run_bind (x : Action σ α) (f : α -> Action σ β) (s : σ) :
    (x >>= f).run s =
      match (x.run s).result with
      | .error fault => ⟨.error fault, (x.run s).state, (x.run s).records⟩
      | .ok a =>
          ⟨((f a).run (x.run s).state).result, ((f a).run (x.run s).state).state,
            (x.run s).records ++ ((f a).run (x.run s).state).records⟩ := rfl

end Action

end Entitlement
