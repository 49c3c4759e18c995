import Entitlement.Action
import Mathlib.Order.Defs.Unbundled

/-!
# What an action does

The effect of an action is its result together with the state that it leaves behind; the journal is
left out.  Effects are computed part by part.

An action moves the state along a relation if every run of it does so, whether it fails or not.  For
a reflexive and transitive relation it is enough to look at the parts of the action, so a property
of all runs of the engine follows from a few facts about its elementary actions.
-/

namespace Entitlement
namespace Action

variable {σ ω α β : Type}

/-- The result of an action and the state that it leaves behind. -/
def effect (x : Action σ α) (s : σ) : Except Fault α × σ :=
  ((x.run s).result, (x.run s).state)

/-!
# Effects of the parts of an action
-/

theorem result_eq_effect (x : Action σ α) (s : σ) : (x.run s).result = (x.effect s).1 := rfl

theorem state_eq_effect (x : Action σ α) (s : σ) : (x.run s).state = (x.effect s).2 := rfl

@[simp] theorem effect_pure (a : α) (s : σ) :
    (Pure.pure a : Action σ α).effect s = (.ok a, s) := rfl

@[simp] theorem effect_fail (fault : Fault) (s : σ) :
    (fail fault : Action σ α).effect s = (.error fault, s) := rfl

@[simp] theorem effect_ofResult (result : Except Fault α) (s : σ) :
    (ofResult result : Action σ α).effect s = (result, s) := rfl

@[simp] theorem effect_attempt (x : Action σ α) (s : σ) :
    (attempt x).effect s = (.ok (x.effect s).1, (x.effect s).2) := rfl

@[simp] theorem effect_read (s : σ) : (read : Action σ σ).effect s = (.ok s, s) := rfl

@[simp] theorem effect_update (f : σ -> σ) (s : σ) : (update f).effect s = (.ok (), f s) := rfl

@[simp] theorem effect_report (component : Component) (level : Level) (message : String) (s : σ) :
    (report component level message).effect s = (.ok (), s) := rfl

@[simp] theorem effect_within (part : ω -> σ) (replace : ω -> σ -> ω) (x : Action σ α) (w : ω) :
    (x.within part replace).effect w =
      ((x.effect (part w)).1, replace w (x.effect (part w)).2) := rfl

theorem effect_bind (x : Action σ α) (f : α -> Action σ β) (s : σ) :
    (x >>= f).effect s =
      match (x.effect s).1 with
      | .error fault => (.error fault, (x.effect s).2)
      | .ok a => (f a).effect (x.effect s).2 := by
  unfold effect
  rw [run_bind]
  cases (x.run s).result with
  | error fault => rfl
  | ok a => rfl

theorem effect_bind_of_ok {x : Action σ α} {s s' : σ} {a : α} (f : α -> Action σ β)
    (h : x.effect s = (.ok a, s')) : (x >>= f).effect s = (f a).effect s' := by
  rw [effect_bind, h]

theorem effect_bind_of_error {x : Action σ α} {s s' : σ} {fault : Fault} (f : α -> Action σ β)
    (h : x.effect s = (.error fault, s')) : (x >>= f).effect s = (.error fault, s') := by
  rw [effect_bind, h]

theorem effect_bind_congr (x : Action σ α) {f g : α -> Action σ β}
    (h : forall a s, (f a).effect s = (g a).effect s) (s : σ) :
    (x >>= f).effect s = (x >>= g).effect s := by
  rw [effect_bind, effect_bind]
  cases (x.effect s).1 with
  | error fault => rfl
  | ok a => exact h a (x.effect s).2

theorem effect_bind_assoc {γ : Type} (x : Action σ α) (f : α -> Action σ β)
    (g : β -> Action σ γ) (s : σ) :
    (x >>= f >>= g).effect s = (x >>= fun a => f a >>= g).effect s := by
  rw [effect_bind, effect_bind, effect_bind]
  cases (x.effect s).1 with
  | error fault => rfl
  | ok a => exact (effect_bind (f a) g _).symm

theorem effect_map (x : Action σ α) (f : α -> β) (s : σ) :
    (do return f (← x) : Action σ β).effect s = ((x.effect s).1.map f, (x.effect s).2) := by
  rw [effect_bind]
  cases (x.effect s).1 with
  | error fault => rfl
  | ok a => rfl

theorem effect_discard (x : Action σ α) (s : σ) :
    (do let _ ← x : Action σ Unit).effect s = ((x.effect s).1.map fun _ => (), (x.effect s).2) :=
  effect_map x (fun _ => ()) s

theorem effect_forEach_cons (x : β) (rest : List β) (f : β -> Action σ Unit) (s : σ) :
    (forEach (x :: rest) f).effect s =
      match ((f x).effect s).1 with
      | .error fault => (.error fault, ((f x).effect s).2)
      | .ok _ => (forEach rest f).effect ((f x).effect s).2 := by
  change (f x >>= fun _ => forEach rest f).effect s = _
  rw [effect_bind]
  cases ((f x).effect s).1 with
  | error fault => rfl
  | ok _ => rfl

theorem effect_forEach_append (xs ys : List β) (f : β -> Action σ Unit) (s : σ) :
    (forEach (xs ++ ys) f).effect s =
      match ((forEach xs f).effect s).1 with
      | .error fault => (.error fault, ((forEach xs f).effect s).2)
      | .ok _ => (forEach ys f).effect ((forEach xs f).effect s).2 := by
  induction xs generalizing s with
  | nil => rfl
  | cons x rest ih =>
      rw [List.cons_append, effect_forEach_cons, effect_forEach_cons]
      rcases (f x).effect s with ⟨result, state⟩
      cases result with
      | error fault => rfl
      | ok _ => exact ih state

theorem forEach_map {γ : Type} (g : γ -> β) (xs : List γ) (f : β -> Action σ Unit) :
    forEach (xs.map g) f = forEach xs fun x => f (g x) := by
  induction xs with
  | nil => rfl
  | cons x rest ih =>
      show Action.bind (f (g x)) (fun _ => forEach (rest.map g) f) = _
      rw [ih]
      rfl

theorem effect_bind_eq_ok {x : Action σ α} {f : α -> Action σ β} {s s' : σ} {b : β}
    (h : (x >>= f).effect s = (.ok b, s')) :
    exists a middle, x.effect s = (.ok a, middle) ∧ (f a).effect middle = (.ok b, s') := by
  rw [effect_bind] at h
  rcases hx : x.effect s with ⟨result, middle⟩
  rw [hx] at h
  cases result with
  | error fault => cases h
  | ok a => exact ⟨a, middle, rfl, h⟩

theorem exists_ok_bind {x : Action σ α} {f : α -> Action σ β} {s : σ}
    (hx : exists a, (x.effect s).1 = .ok a)
    (hf : forall a s', exists b, ((f a).effect s').1 = .ok b) :
    exists b, ((x >>= f).effect s).1 = .ok b := by
  rcases hx with ⟨a, ha⟩
  rw [effect_bind, ha]
  exact hf a (x.effect s).2

theorem result_map (x : Action σ α) (f : α -> β) (s : σ) :
    ((do return f (← x) : Action σ β).effect s).1 = (x.effect s).1.map f := by
  rw [effect_map]

theorem exists_ok_map {x : Action σ α} {s : σ} (h : exists a, (x.effect s).1 = .ok a)
    (f : α -> β) : exists b, ((do return f (← x) : Action σ β).effect s).1 = .ok b := by
  rcases h with ⟨a, ha⟩
  rw [result_map, ha]
  exact ⟨f a, rfl⟩

theorem exists_of_isOk {result : Except Fault α} (h : result.isOk = true) :
    exists a, result = .ok a := by
  cases result with
  | error fault => cases h
  | ok a => exact ⟨a, rfl⟩

theorem eq_ok_of_toOption {result : Except Fault α} {a : α} (h : result.toOption = some a) :
    result = .ok a := by
  cases result with
  | error fault => cases h
  | ok b => exact congrArg Except.ok (Option.some.inj h)

theorem isOk_map (f : α -> β) (result : Except Fault α) : (result.map f).isOk = result.isOk := by
  cases result with
  | error fault => rfl
  | ok a => rfl

def failsWith (sort : Fault -> Bool) : Except Fault α -> Bool
  | .error fault => sort fault
  | .ok _ => false

theorem exists_of_failsWith {sort : Fault -> Bool} {result : Except Fault α}
    (h : failsWith sort result = true) :
    exists fault, result = .error fault ∧ sort fault = true := by
  cases result with
  | error fault => exact ⟨fault, rfl, h⟩
  | ok a => cases h

/-!
# Moving along a relation
-/

/-- Every run of the action, failed or not, leads to a related state. -/
def Moves (R : σ -> σ -> Prop) (x : Action σ α) : Prop :=
  forall s, R s (x.run s).state

section Moves

variable {R : σ -> σ -> Prop} [IsPreorder σ R]

theorem moves_pure (a : α) : Moves R (Pure.pure a : Action σ α) :=
  fun s => refl_of R s

theorem moves_fail (fault : Fault) : Moves R (fail fault : Action σ α) :=
  fun s => refl_of R s

theorem moves_ofResult (result : Except Fault α) : Moves R (ofResult result : Action σ α) :=
  fun s => refl_of R s

theorem moves_report (component : Component) (level : Level) (message : String) :
    Moves R (report component level message : Action σ Unit) :=
  fun s => refl_of R s

theorem Moves.bind {x : Action σ α} {f : α -> Action σ β} (hx : Moves R x)
    (hf : forall a, Moves R (f a)) : Moves R (x >>= f) := by
  intro s
  rw [run_bind]
  have hfirst := hx s
  cases (x.run s).result with
  | error fault => exact hfirst
  | ok a => exact trans_of R hfirst (hf a _)

theorem Moves.map {x : Action σ α} (hx : Moves R x) (f : α -> β) : Moves R (do return f (← x)) :=
  hx.bind fun a => moves_pure (f a)

theorem moves_forEach {xs : List β} {f : β -> Action σ Unit} (hf : forall x, Moves R (f x)) :
    Moves R (forEach xs f) := by
  induction xs with
  | nil => exact moves_pure ()
  | cons x rest ih => exact (hf x).bind fun _ => ih

end Moves

theorem Moves.attempt {R : σ -> σ -> Prop} {x : Action σ α} (hx : Moves R x) : Moves R x.attempt :=
  fun s => hx s

theorem Moves.within {R : σ -> σ -> Prop} {S : ω -> ω -> Prop} {x : Action σ α} {part : ω -> σ}
    {replace : ω -> σ -> ω} (hx : Moves R x)
    (hreplace : forall w s, R (part w) s -> S w (replace w s)) :
    Moves S (x.within part replace) :=
  fun w => hreplace w _ (hx (part w))

end Action
end Entitlement
