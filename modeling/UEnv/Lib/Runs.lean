import Mathlib.Data.List.Basic

/-!
# Labelled runs of a partial step function

A concurrent program is a `System`: its initial states and one partial step function, whose
label says which atomic segment of which task runs next and with which answer of the
environment. `ReachableWhen` collects the states of the runs all of whose steps meet a side
condition on the label and on the state before the step; `Reachable` puts no condition.
Invariants are proved once per step and carried along every run by `ReachableWhen.invariant`,
and a concrete schedule is a list of labels evaluated by `exec`.
-/

namespace UEnv.Runs

/-- Initial states and a partial step function; `none` means that the label is not enabled. -/
structure System (State Label : Type) where
  init : State → Prop
  step : State → Label → Option State

variable {State Label : Type}

/-- The states of the runs of `sys` in which every step meets `ok`. -/
inductive ReachableWhen (sys : System State Label) (ok : State → Label → Prop) : State → Prop
  | start {s : State} : sys.init s → ReachableWhen sys ok s
  | next {s t : State} {a : Label} :
      ReachableWhen sys ok s → ok s a → sys.step s a = some t → ReachableWhen sys ok t

/-- The states of all runs. -/
def Reachable (sys : System State Label) : State → Prop :=
  ReachableWhen sys (fun _ _ => True)

/-- Execute a schedule; it fails at the first label that is not enabled. -/
def System.exec (sys : System State Label) : State → List Label → Option State
  | s, [] => some s
  | s, a :: rest => (sys.step s a).bind (fun t => sys.exec t rest)

theorem System.exec_append (sys : System State Label) (s : State) (first second : List Label) :
    sys.exec s (first ++ second) = (sys.exec s first).bind fun t => sys.exec t second := by
  induction first generalizing s with
  | nil => rfl
  | cons a rest ih =>
    rw [List.cons_append, System.exec, System.exec, Option.bind_assoc]
    congr 1
    funext t
    exact ih t

/-- The last label of a schedule moves to the front when it commutes with those before it. -/
theorem System.exec_advance {sys : System State Label} {a : Label} {before : List Label}
    (commutes : ∀ b ∈ before, ∀ s t, sys.exec s [b, a] = some t → sys.exec s [a, b] = some t)
    {s t : State} (ran : sys.exec s (before ++ [a]) = some t) :
    sys.exec s (a :: before) = some t := by
  induction before generalizing s with
  | nil => exact ran
  | cons b rest ih =>
    obtain ⟨middle, taken, ran⟩ := Option.bind_eq_some_iff.mp ran
    have later := ih (fun c member => commutes c (List.mem_cons_of_mem _ member)) ran
    obtain ⟨next, taken', ran⟩ := Option.bind_eq_some_iff.mp later
    have pair : sys.exec s [b, a] = some next := by
      rw [System.exec, taken, Option.bind_some, System.exec, taken', Option.bind_some]
      rfl
    have swapped := commutes b List.mem_cons_self s next pair
    have whole := sys.exec_append s [a, b] rest
    rw [swapped, Option.bind_some, ran] at whole
    exact whole

/-- The side condition along a schedule, as long as the schedule runs. -/
def System.Along (sys : System State Label) (ok : State → Label → Prop) :
    State → List Label → Prop
  | _, [] => True
  | s, a :: rest => ok s a ∧ ∀ t ∈ sys.step s a, sys.Along ok t rest

instance System.decidableAlong (sys : System State Label) (ok : State → Label → Prop)
    [∀ s a, Decidable (ok s a)] : ∀ s schedule, Decidable (sys.Along ok s schedule)
  | _, [] => .isTrue trivial
  | s, a :: rest =>
    have : ∀ t, Decidable (sys.Along ok t rest) := fun t => sys.decidableAlong ok t rest
    inferInstanceAs (Decidable (ok s a ∧ ∀ t ∈ sys.step s a, sys.Along ok t rest))

/-- Two side conditions admit the same schedules when they agree wherever an invariant holds that
their steps preserve. -/
theorem System.along_congr {sys : System State Label} {ok ok' : State → Label → Prop}
    {motive : State → Prop}
    (keeps : ∀ s a t, motive s → ok s a → sys.step s a = some t → motive t)
    (same : ∀ s a, motive s → (ok s a ↔ ok' s a)) {s : State} (holds : motive s)
    (schedule : List Label) : sys.Along ok s schedule ↔ sys.Along ok' s schedule := by
  induction schedule generalizing s with
  | nil => exact Iff.rfl
  | cons a rest ih =>
    constructor
    · rintro ⟨here, along⟩
      refine ⟨(same s a holds).mp here, fun t taken => ?_⟩
      exact (ih (keeps s a t holds here taken)).mp (along t taken)
    · rintro ⟨here, along⟩
      have admitted := (same s a holds).mpr here
      refine ⟨admitted, fun t taken => ?_⟩
      exact (ih (keeps s a t holds admitted taken)).mpr (along t taken)

theorem System.Along.mono {sys : System State Label} {ok ok' : State → Label → Prop}
    (admits : ∀ s a, ok s a → ok' s a) (schedule : List Label) {s : State}
    (along : sys.Along ok s schedule) : sys.Along ok' s schedule := by
  induction schedule generalizing s with
  | nil => trivial
  | cons a rest ih => exact ⟨admits s a along.1, fun t taken => ih (along.2 t taken)⟩

theorem System.along_of_forall {sys : System State Label} {ok : Label → Prop}
    {schedule : List Label} (all : ∀ a ∈ schedule, ok a) (s : State) :
    sys.Along (fun _ a => ok a) s schedule := by
  induction schedule generalizing s with
  | nil => trivial
  | cons a rest ih =>
    exact ⟨all a List.mem_cons_self, fun t _ => ih (fun b later =>
      all b (List.mem_cons_of_mem _ later)) t⟩

theorem System.Along.last {sys : System State Label} {ok : State → Label → Prop} {s t : State}
    {schedule : List Label} {a : Label} (along : sys.Along ok s (schedule ++ [a]))
    (ran : sys.exec s schedule = some t) : ok t a := by
  induction schedule generalizing s with
  | nil =>
    cases ran
    exact along.1
  | cons b rest ih =>
    obtain ⟨middle, taken, ran⟩ := Option.bind_eq_some_iff.mp ran
    exact ih (along.2 middle taken) ran

namespace ReachableWhen

variable {sys : System State Label} {ok ok' : State → Label → Prop} {motive : State → Prop}

/-- Run rule: a property of the initial states that every admitted step preserves holds along
every run. The step may use that its source state is itself reached by such a run. -/
theorem invariant (base : ∀ s, sys.init s → motive s)
    (step : ∀ s a t, ReachableWhen sys ok s → motive s → ok s a → sys.step s a = some t → motive t)
    {s : State} (reached : ReachableWhen sys ok s) : motive s := by
  induction reached with
  | start initial => exact base _ initial
  | next before admitted taken ih => exact step _ _ _ before ih admitted taken

theorem mono (weaker : ∀ s a, ok s a → ok' s a) {s : State}
    (reached : ReachableWhen sys ok s) : ReachableWhen sys ok' s := by
  induction reached with
  | start initial => exact .start initial
  | next _ admitted taken ih => exact .next ih (weaker _ _ admitted) taken

theorem of_exec {s t : State} (reached : ReachableWhen sys ok s) (schedule : List Label)
    (along : sys.Along ok s schedule) (ran : sys.exec s schedule = some t) :
    ReachableWhen sys ok t := by
  induction schedule generalizing s with
  | nil =>
    obtain rfl : s = t := by simpa [System.exec] using ran
    exact reached
  | cons a rest ih =>
    obtain ⟨admitted, remaining⟩ := along
    obtain ⟨middle, taken, ran⟩ := Option.bind_eq_some_iff.mp ran
    exact ih (.next reached admitted taken) (remaining middle taken) ran

end ReachableWhen

namespace Reachable

variable {sys : System State Label}

theorem of_when {ok : State → Label → Prop} {s : State} (reached : ReachableWhen sys ok s) :
    Reachable sys s :=
  reached.mono (fun _ _ _ => trivial)

theorem next {s t : State} {a : Label} (reached : Reachable sys s)
    (taken : sys.step s a = some t) : Reachable sys t :=
  ReachableWhen.next reached trivial taken

theorem exec {s t : State} (reached : Reachable sys s) (schedule : List Label)
    (ran : sys.exec s schedule = some t) : Reachable sys t := by
  induction schedule generalizing s with
  | nil =>
    obtain rfl : s = t := by simpa [System.exec] using ran
    exact reached
  | cons a rest ih =>
    obtain ⟨middle, taken, ran⟩ := Option.bind_eq_some_iff.mp ran
    exact ih (reached.next taken) ran

theorem of_exec {s t : State} (initial : sys.init s) (schedule : List Label)
    (ran : sys.exec s schedule = some t) : Reachable sys t :=
  exec (ReachableWhen.start initial) schedule ran

end Reachable

end UEnv.Runs
