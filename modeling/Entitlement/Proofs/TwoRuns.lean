import Entitlement.Proofs.Action

/-!
# Two runs of an action

Two runs are compared through a relation of states.  An action agrees if from related states it
answers the same and leaves related states behind.  It is invisible if the state that it leaves is
related to whatever its first state was related to.  An action on one part of the state agrees if
the relation covers that part and is invisible if it does not; either way it preserves the relation.
-/

namespace Entitlement
namespace Action

variable {σ ω α β : Type}

def Agrees (R : σ -> σ -> Prop) (x : Action σ α) : Prop :=
  forall s s', R s s' -> (x.effect s).1 = (x.effect s').1 ∧ R (x.effect s).2 (x.effect s').2

/-- What the action does to a state is not seen through the relation. -/
def Invisible (R : σ -> σ -> Prop) (x : Action σ α) : Prop :=
  forall s s', R s s' -> R (x.effect s).2 s'

def Preserves (R : σ -> σ -> Prop) (x : Action σ α) : Prop :=
  forall s s', R s s' -> R (x.effect s).2 (x.effect s').2

/-- The action works on one part of the state, which the relation covers if `inside` holds. -/
structure Confined (R : σ -> σ -> Prop) (inside : Prop) (x : Action σ α) : Prop where
  agrees : inside -> x.Agrees R
  invisible : ¬ inside -> x.Invisible R

variable {R : σ -> σ -> Prop} {inside : Prop}

theorem Agrees.preserves {x : Action σ α} (hx : x.Agrees R) : x.Preserves R :=
  fun s s' h => (hx s s' h).2

theorem Invisible.preserves [Std.Symm R] {x : Action σ α} (hx : x.Invisible R) :
    x.Preserves R := by
  intro s s' h
  have hleft := hx s s' h
  exact Std.Symm.symm _ _ (hx s' _ (Std.Symm.symm _ _ hleft))

theorem Confined.preserves [Std.Symm R] {x : Action σ α} (hx : x.Confined R inside) :
    x.Preserves R := by
  by_cases h : inside
  · exact (hx.agrees h).preserves
  · exact (hx.invisible h).preserves

theorem Confined.congr {x : Action σ α} (hx : x.Confined R inside) {other : Prop}
    (hsame : other ↔ inside) : x.Confined R other where
  agrees := fun h => hx.agrees (hsame.mp h)
  invisible := fun h => hx.invisible fun hinside => h (hsame.mpr hinside)

/-!
# Actions that leave the state alone
-/

theorem agrees_of_const {x : Action σ α} {result : Except Fault α}
    (hx : forall s, x.effect s = (result, s)) : x.Agrees R := by
  intro s s' h
  rw [hx, hx]
  exact ⟨rfl, h⟩

theorem invisible_of_state {x : Action σ α} (hx : forall s, (x.effect s).2 = s) :
    x.Invisible R := by
  intro s s' h
  rw [hx]
  exact h

theorem confined_of_const {x : Action σ α} {result : Except Fault α}
    (hx : forall s, x.effect s = (result, s)) : x.Confined R inside where
  agrees := fun _ => agrees_of_const hx
  invisible := fun _ => invisible_of_state fun s => by rw [hx]

theorem confined_pure (a : α) : (Pure.pure a : Action σ α).Confined R inside :=
  confined_of_const (effect_pure a)

theorem confined_ofResult (result : Except Fault α) :
    (ofResult result : Action σ α).Confined R inside :=
  confined_of_const (effect_ofResult result)

theorem confined_report (component : Component) (level : Level) (message : String) :
    (report component level message : Action σ Unit).Confined R inside :=
  confined_of_const (effect_report component level message)

/-!
# Actions in parts

What follows an action may rely on its answer, and on the states that the answer was given in.
-/

theorem Agrees.bind {x : Action σ α} {f : α -> Action σ β} (hx : x.Agrees R)
    (hf : forall a s s', R s s' -> (x.effect s).1 = .ok a -> (f a).Agrees R) :
    (x >>= f).Agrees R := by
  intro s s' h
  have hfirst := hx s s' h
  rw [effect_bind, effect_bind, ← hfirst.1]
  cases hanswer : (x.effect s).1 with
  | error fault => exact ⟨rfl, hfirst.2⟩
  | ok a => exact hf a s s' h hanswer _ _ hfirst.2

theorem Invisible.bind {x : Action σ α} {f : α -> Action σ β} (hx : x.Invisible R)
    (hf : forall a s s', R s s' -> (x.effect s).1 = .ok a -> (f a).Invisible R) :
    (x >>= f).Invisible R := by
  intro s s' h
  have hfirst := hx s s' h
  rw [effect_bind]
  cases hanswer : (x.effect s).1 with
  | error fault => exact hfirst
  | ok a => exact hf a s s' h hanswer _ _ hfirst

/-- If the answer is the same, it is enough that what follows preserves the relation. -/
theorem Preserves.bind {x : Action σ α} {f : α -> Action σ β} (hx : x.Agrees R)
    (hf : forall a s s', R s s' -> (x.effect s).1 = .ok a -> (f a).Preserves R) :
    (x >>= f).Preserves R := by
  intro s s' h
  have hfirst := hx s s' h
  rw [effect_bind, effect_bind, ← hfirst.1]
  cases hanswer : (x.effect s).1 with
  | error fault => exact hfirst.2
  | ok a => exact hf a s s' h hanswer _ _ hfirst.2

theorem Confined.bind {x : Action σ α} {f : α -> Action σ β} (hx : x.Confined R inside)
    (hf : forall a s s', R s s' -> (x.effect s).1 = .ok a -> (f a).Confined R inside) :
    (x >>= f).Confined R inside where
  agrees := fun h =>
    (hx.agrees h).bind fun a s s' hstates hanswer => (hf a s s' hstates hanswer).agrees h
  invisible := fun h =>
    (hx.invisible h).bind fun a s s' hstates hanswer => (hf a s s' hstates hanswer).invisible h

theorem Agrees.map {x : Action σ α} (hx : x.Agrees R) (f : α -> β) :
    Agrees R (do return f (← x)) :=
  hx.bind fun a _ _ _ _ => agrees_of_const (effect_pure (f a))

theorem Invisible.map {x : Action σ α} (hx : x.Invisible R) (f : α -> β) :
    Invisible R (do return f (← x)) :=
  hx.bind fun _ _ _ _ _ => invisible_of_state fun _ => rfl

theorem Confined.map {x : Action σ α} (hx : x.Confined R inside) (f : α -> β) :
    Confined R inside (do return f (← x)) :=
  hx.bind fun a _ _ _ _ => confined_pure (f a)

theorem Preserves.map {x : Action σ α} (hx : x.Preserves R) (f : α -> β) :
    Preserves R (do return f (← x)) := by
  intro s s' h
  rw [effect_map, effect_map]
  exact hx s s' h

/-- The answer of the first part need not be the same if the second part is not seen. -/
theorem Confined.preserves_bind [Std.Symm R] {x : Action σ α} {f : α -> Action σ β}
    (hx : x.Confined R inside) (hf : forall a, (f a).Invisible R) : (x >>= f).Preserves R := by
  by_cases h : inside
  · exact Preserves.bind (hx.agrees h) fun a _ _ _ _ => (hf a).preserves
  · exact ((hx.invisible h).bind fun a _ _ _ _ => hf a).preserves

theorem Agrees.bind_view {γ : Type} {x : Action σ α} {f : α -> Action σ β} {view : β -> γ}
    (hx : x.Agrees R)
    (hf : forall a s s', R s s' -> (x.effect s).1 = .ok a ->
      Agrees R (do return view (← f a))) :
    Agrees R (do return view (← x >>= f)) := by
  have hparts : forall s, (do return view (← x >>= f) : Action σ γ).effect s =
      (x >>= fun a => do return view (← f a)).effect s := by
    intro s
    rw [effect_map, effect_bind, effect_bind]
    cases (x.effect s).1 with
    | error fault => rfl
    | ok a => exact (effect_map (f a) view _).symm
  intro s s' h
  rw [hparts, hparts]
  exact hx.bind hf s s' h

theorem Agrees.map_view {γ : Type} {x : Action σ α} {f : α -> β} {view : β -> γ}
    (hx : Agrees R (do return view (f (← x)))) :
    Agrees R (do return view (← (do return f (← x) : Action σ β))) := by
  have hboth : forall s, (do return view (← (do return f (← x) : Action σ β))).effect s =
      (do return view (f (← x))).effect s := by
    intro s
    rw [effect_map, effect_map, effect_map x (fun a => view (f a))]
    cases (x.effect s).1 with
    | error fault => rfl
    | ok a => rfl
  intro s s' h
  rw [hboth, hboth]
  exact hx s s' h

theorem confined_forEach {xs : List β} {f : β -> Action σ Unit}
    (hf : forall x, (f x).Confined R inside) : (forEach xs f).Confined R inside := by
  induction xs with
  | nil => exact confined_pure ()
  | cons x rest ih => exact (hf x).bind fun _ _ _ _ _ => ih

theorem Confined.attempt {x : Action σ α} (hx : x.Confined R inside) :
    x.attempt.Confined R inside where
  agrees := fun h s s' hstates =>
    ⟨congrArg Except.ok (hx.agrees h s s' hstates).1, (hx.agrees h s s' hstates).2⟩
  invisible := fun h => hx.invisible h

/-- An action on a part of a state is confined if related states have related parts. -/
theorem Confined.within {S : ω -> ω -> Prop} {x : Action σ α} {part : ω -> σ}
    {replace : ω -> σ -> ω} (hx : x.Confined R inside)
    (hpart : forall w w', S w w' -> R (part w) (part w'))
    (hreplace : forall w w' s s', S w w' -> R s s' -> S (replace w s) (replace w' s'))
    (hleave : forall w, replace w (part w) = w) : (x.within part replace).Confined S inside where
  agrees := by
    intro h w w' hworlds
    have hparts := hx.agrees h _ _ (hpart w w' hworlds)
    rw [effect_within, effect_within]
    exact ⟨hparts.1, hreplace w w' _ _ hworlds hparts.2⟩
  invisible := by
    intro h w w' hworlds
    have hparts := hx.invisible h _ _ (hpart w w' hworlds)
    have hreplaced := hreplace w w' _ _ hworlds hparts
    rw [hleave] at hreplaced
    rw [effect_within]
    exact hreplaced

end Action
end Entitlement
