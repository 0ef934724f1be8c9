import Mathlib.Algebra.BigOperators.Group.List.Basic
import Mathlib.Algebra.Order.Ring.Int

/-!
# A counting semaphore with deferred shrinking

An asynchronous semaphore whose target is lowered by background tasks: a task that wants `n`
permits gone waits, collects them as they become free, and forgets them. `net` is the number of
permits once every such task has finished; only `addPermits` and `shrinkAsync` move it.
-/

namespace UEnv

/-- Free permits, permits held by clients, and the shrink tasks that still wait. -/
structure Semaphore where
  available : Nat
  held : Nat
  forgetting : List Nat
  deriving DecidableEq

namespace Semaphore

def new (permits : Nat) : Semaphore := { available := permits, held := 0, forgetting := [] }

def addPermits (s : Semaphore) (n : Nat) : Semaphore := { s with available := s.available + n }

/-- A client takes one permit; it waits while there is none. -/
def acquire (s : Semaphore) : Option Semaphore :=
  if 0 < s.available then some { s with available := s.available - 1, held := s.held + 1 } else none

/-- A client drops its permit. -/
def dropPermit (s : Semaphore) : Option Semaphore :=
  if 0 < s.held then some { s with available := s.available + 1, held := s.held - 1 } else none

/-- Spawn a task that acquires `n` permits and forgets them. -/
def shrinkAsync (s : Semaphore) (n : Nat) : Semaphore :=
  { s with forgetting := s.forgetting ++ [n] }

/-- The `i`-th shrink task gets its permits and forgets them. -/
def forget (s : Semaphore) (i : Nat) : Option Semaphore :=
  match s.forgetting[i]? with
  | none => none
  | some n =>
    if n ≤ s.available then
      some { s with available := s.available - n, forgetting := s.forgetting.eraseIdx i }
    else none

/-- The `i`-th shrink task is handed `n` of the permits it waits for. -/
def assign (s : Semaphore) (i n : Nat) : Option Semaphore :=
  match s.forgetting[i]? with
  | none => none
  | some missing =>
    if n ≤ missing ∧ n ≤ s.available then
      some { s with available := s.available - n, forgetting := s.forgetting.set i (missing - n) }
    else none

/-- Permits added minus permits scheduled to be forgotten. -/
def net (s : Semaphore) : Int := s.available + s.held - s.forgetting.sum

@[simp] theorem net_new (permits : Nat) : (new permits).net = permits := by simp [net, new]

@[simp] theorem net_addPermits (s : Semaphore) (n : Nat) : (s.addPermits n).net = s.net + n := by
  simp only [net, addPermits, Int.natCast_add]
  omega

@[simp] theorem net_shrinkAsync (s : Semaphore) (n : Nat) : (s.shrinkAsync n).net = s.net - n := by
  simp only [net, shrinkAsync, List.sum_append, List.sum_singleton, Int.natCast_add]
  omega

variable {s t : Semaphore}

theorem net_acquire (taken : s.acquire = some t) : t.net = s.net := by
  unfold acquire at taken
  split at taken
  · cases taken
    simp only [net]
    omega
  · cases taken

theorem net_dropPermit (taken : s.dropPermit = some t) : t.net = s.net := by
  unfold dropPermit at taken
  split at taken
  · cases taken
    simp only [net]
    omega
  · cases taken

theorem net_forget {i : Nat} (taken : s.forget i = some t) : t.net = s.net := by
  unfold forget at taken
  split at taken
  · cases taken
  · next n found =>
    split at taken
    · next enough =>
      cases taken
      obtain ⟨bound, rfl⟩ := List.getElem?_eq_some_iff.mp found
      have total : s.forgetting[i] + (s.forgetting.eraseIdx i).sum = s.forgetting.sum :=
        by simp
      simp only [net]
      omega
    · cases taken

theorem net_assign {i n : Nat} (taken : s.assign i n = some t) : t.net = s.net := by
  unfold assign at taken
  split at taken
  · cases taken
  · next missing found =>
    split at taken
    · next enough =>
      cases taken
      obtain ⟨bound, rfl⟩ := List.getElem?_eq_some_iff.mp found
      have before : s.forgetting[i] + (s.forgetting.eraseIdx i).sum = s.forgetting.sum :=
        by simp
      have after : (s.forgetting[i] - n) + (s.forgetting.eraseIdx i).sum =
          (s.forgetting.set i (s.forgetting[i] - n)).sum := by
        rw [List.sum_set, if_pos bound, List.eraseIdx_eq_take_drop_succ, List.sum_append]
        omega
      simp only [net]
      omega
    · cases taken

end Semaphore

end UEnv
