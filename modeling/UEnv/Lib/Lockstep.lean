import Mathlib.Tactic.Common

/-!
# Computations in lockstep

A computation changes a state and may fail. Two of them run in lockstep if from every state they
lead to the same state, and either both fail or both give results that are related.
-/

namespace UEnv.Lockstep

def Run (σ α : Type) := σ → Except String α × σ

variable {σ α β γ δ : Type}

namespace Run

protected def pure (a : α) : Run σ α := fun s => (.ok a, s)

protected def bind (x : Run σ α) (f : α → Run σ β) : Run σ β := fun s =>
  match x s with
  | (.ok a, t) => f a t
  | (.error e, t) => (.error e, t)

instance : Monad (Run σ) where
  pure := Run.pure
  bind := Run.bind

def fail (e : String) : Run σ α := fun s => (.error e, s)

/-- `Result::ok` of what a computation gives. -/
def attempt (x : Run σ α) : Run σ (Option α) := fun s =>
  match x s with
  | (.ok a, t) => (.ok (some a), t)
  | (.error _, t) => (.ok none, t)

end Run

open Run

/-- How two computations that started in one state may end. -/
inductive Agree (rel : α → β → Prop) : Except String α × σ → Except String β × σ → Prop
  | ok {a : α} {b : β} {s : σ} (related : rel a b) : Agree rel (.ok a, s) (.ok b, s)
  | error {e e' : String} {s : σ} : Agree rel (.error e, s) (.error e', s)

def Alike (rel : α → β → Prop) (x : Run σ α) (y : Run σ β) : Prop := ∀ s, Agree rel (x s) (y s)

variable {rel : α → β → Prop} {rel' : γ → δ → Prop} {x : Run σ α} {y : Run σ β}

variable {f : α → Run σ γ} {t : σ}

theorem run_bind_ok {s : σ} {a : α} (ran : x s = (.ok a, t)) : (x >>= f) s = f a t := by
  change Run.bind x f s = _
  rw [Run.bind, ran]

theorem run_bind_error {s : σ} {e : String} (ran : x s = (.error e, t)) :
    (x >>= f) s = (.error e, t) := by
  change Run.bind x f s = _
  rw [Run.bind, ran]

theorem run_bind_eq_ok {s u : σ} {c : γ} :
    (x >>= f) s = (.ok c, u) ↔ ∃ a t, x s = (.ok a, t) ∧ f a t = (.ok c, u) := by
  rcases ran : x s with ⟨result, t⟩
  cases result with
  | error e =>
    rw [run_bind_error ran]
    simp
  | ok a =>
    rw [run_bind_ok ran]
    constructor
    · exact fun rest => ⟨a, t, rfl, rest⟩
    · rintro ⟨a', t', same, rest⟩
      obtain ⟨rfl, rfl⟩ : a = a' ∧ t = t' := by simpa using same
      exact rest

namespace Alike

theorem pure {a : α} {b : β} (related : rel a b) :
    Alike rel (Pure.pure a : Run σ α) (Pure.pure b) :=
  fun _ => .ok related

theorem mono {weaker : α → β → Prop} (alike : Alike rel x y) (imp : ∀ a b, rel a b → weaker a b) :
    Alike weaker x y := by
  intro s
  have agree := alike s
  generalize x s = ended at agree
  generalize y s = ended' at agree
  cases agree with
  | ok related => exact .ok (imp _ _ related)
  | error => exact .error

theorem refl (x : Run σ α) : Alike (· = ·) x x := by
  intro s
  rcases x s with ⟨result, t⟩
  cases result with
  | error e => exact .error
  | ok a => exact .ok rfl

variable {f : α → Run σ γ}

theorem bind {g : β → Run σ δ} (first : Alike rel x y)
    (later : ∀ a b, rel a b → Alike rel' (f a) (g b)) : Alike rel' (x >>= f) (y >>= g) := by
  intro s
  have agree := first s
  generalize left : x s = ended at agree
  generalize right : y s = ended' at agree
  cases agree with
  | ok related =>
    rw [run_bind_ok left, run_bind_ok right]
    exact later _ _ related _
  | error =>
    rw [run_bind_error left, run_bind_error right]
    exact .error

theorem after {g : α → Run σ γ} {rel : γ → γ → Prop} (x : Run σ α)
    (later : ∀ a, Alike rel (f a) (g a)) : Alike rel (x >>= f) (x >>= g) :=
  (refl x).bind fun a _ same => same ▸ later a

theorem attempt (alike : Alike rel x y) :
    Alike (Option.Rel rel) (Run.attempt x) (Run.attempt y) := by
  intro s
  have agree := alike s
  unfold Run.attempt
  generalize x s = ended at agree
  generalize y s = ended' at agree
  cases agree with
  | ok related => exact .ok (.some related)
  | error => exact .ok .none

end Alike

end UEnv.Lockstep
