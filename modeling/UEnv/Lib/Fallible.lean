import Mathlib.Data.List.Basic

/-!
# Fallible computations

Inversion of a bind in `Except`, and the rules for a fold whose step may fail.
-/

namespace UEnv.Fallible

variable {ε α β σ : Type}

@[simp] theorem ok_bind (a : α) (f : α → Except ε β) : (Except.ok a >>= f) = f a := rfl

@[simp] theorem error_bind (e : ε) (f : α → Except ε β) : (Except.error e >>= f) = .error e := rfl

@[simp] theorem map_ok (f : α → β) (a : α) : (Except.ok a : Except ε α).map f = .ok (f a) := rfl

@[simp] theorem map_error (f : α → β) (e : ε) :
    (Except.error e : Except ε α).map f = .error e := rfl

variable {x : Except ε α} {a : α} {f : σ → α → Except ε σ} {s t : σ} {items : List α}

theorem isOk_iff : x.isOk ↔ ∃ a, x = .ok a := by
  cases x <;> simp [Except.isOk, Except.toBool]

theorem not_isOk {e : ε} (failed : x = .error e) : ¬x.isOk := by
  rw [failed]
  exact Bool.false_ne_true

theorem toOption_eq_some : x.toOption = some a ↔ x = .ok a := by
  cases x <;> simp [Except.toOption]

theorem map_eq_ok {f : α → β} {b : β} : x.map f = .ok b ↔ ∃ a, x = .ok a ∧ f a = b := by
  cases x <;> simp [Except.map]

theorem bind_eq_ok {f : α → Except ε β} {b : β} :
    (x >>= f) = .ok b ↔ ∃ a, x = .ok a ∧ f a = .ok b := by
  cases x with
  | error e =>
    refine ⟨?_, ?_⟩
    · intro ran
      cases ran
    · rintro ⟨a, ran, _⟩
      cases ran
  | ok a =>
    refine ⟨fun ran => ⟨a, rfl, ran⟩, ?_⟩
    rintro ⟨a', same, ran⟩
    cases same
    exact ran

theorem foldlM_cons_eq_ok {rest : List α} :
    (a :: rest).foldlM f s = .ok t ↔
      ∃ middle, f s a = .ok middle ∧ rest.foldlM f middle = .ok t := by
  rw [List.foldlM_cons]
  exact bind_eq_ok

/-- Fold rule: what every successful step preserves holds at the end of a successful fold. -/
theorem foldlM_invariant {motive : σ → Prop}
    (step : ∀ s, ∀ a ∈ items, ∀ t, motive s → f s a = .ok t → motive t) (base : motive s)
    (ran : items.foldlM f s = .ok t) : motive t := by
  induction items generalizing s with
  | nil =>
    obtain rfl : s = t := by simpa [pure, Except.pure] using ran
    exact base
  | cons a rest ih =>
    obtain ⟨middle, first, ran⟩ := foldlM_cons_eq_ok.mp ran
    have kept := step s a List.mem_cons_self middle base first
    exact ih (fun s' a' listed => step s' a' (List.mem_cons_of_mem _ listed)) kept ran

/-- Success rule: if an invariant makes every step succeed and every step keeps it, the fold
succeeds. The invariant may depend on what is still to come. -/
theorem foldlM_succeeds {motive : σ → List α → Prop}
    (step : ∀ s a rest, motive s (a :: rest) → ∃ t, f s a = .ok t ∧ motive t rest)
    (base : motive s items) : ∃ t, items.foldlM f s = .ok t ∧ motive t [] := by
  induction items generalizing s with
  | nil => exact ⟨s, rfl, base⟩
  | cons a rest ih =>
    obtain ⟨middle, first, kept⟩ := step s a rest base
    obtain ⟨t, ran, ended⟩ := ih kept
    exact ⟨t, foldlM_cons_eq_ok.mpr ⟨middle, first, ran⟩, ended⟩

theorem foldlM_split {before after : List α} (ran : (before ++ a :: after).foldlM f s = .ok t) :
    ∃ u v, before.foldlM f s = .ok u ∧ f u a = .ok v ∧ after.foldlM f v = .ok t := by
  rw [List.foldlM_append] at ran
  obtain ⟨u, first, ran⟩ := bind_eq_ok.mp ran
  obtain ⟨v, second, ran⟩ := foldlM_cons_eq_ok.mp ran
  exact ⟨u, v, first, second, ran⟩

theorem forall₂_of_mapM {f : α → Except ε β} {answers : List β} (ran : items.mapM f = .ok answers) :
    List.Forall₂ (fun a b => f a = .ok b) items answers := by
  induction items generalizing answers with
  | nil =>
    obtain rfl : [] = answers := by simpa [pure, Except.pure] using ran
    exact .nil
  | cons a rest ih =>
    rw [List.mapM_cons] at ran
    obtain ⟨b, first, ran⟩ := bind_eq_ok.mp ran
    obtain ⟨tail, others, ran⟩ := bind_eq_ok.mp ran
    cases ran
    exact .cons first (ih others)

theorem mapError_ok {ε' : Type} {f : ε → ε'} : x.mapError f = .ok a ↔ x = .ok a := by
  cases x <;> simp [Except.mapError]

theorem forM_ok_iff {f : α → Except ε Unit} :
    items.forM f = .ok () ↔ ∀ item ∈ items, f item = .ok () := by
  induction items with
  | nil => simp [pure, Except.pure]
  | cons first rest ih =>
    show (f first >>= fun _ => rest.forM f) = .ok () ↔ _
    rw [bind_eq_ok, List.forall_mem_cons, ← ih]
    exact ⟨fun ⟨_, first, rest⟩ => ⟨first, rest⟩, fun ⟨first, rest⟩ => ⟨(), first, rest⟩⟩

theorem mapM_ok_iff {f : α → Except ε β} {items : List α} :
    (∃ all, items.mapM f = .ok all) ↔ ∀ item ∈ items, ∃ b, f item = .ok b := by
  induction items with
  | nil => simp [pure, Except.pure]
  | cons first rest ih =>
    rw [List.mapM_cons, List.forall_mem_cons, ← ih]
    simp only [bind_eq_ok]
    constructor
    · rintro ⟨_, b, first, all, rest, _⟩
      exact ⟨⟨b, first⟩, all, rest⟩
    · rintro ⟨⟨b, first⟩, all, rest⟩
      exact ⟨_, b, first, all, rest, rfl⟩

end UEnv.Fallible
