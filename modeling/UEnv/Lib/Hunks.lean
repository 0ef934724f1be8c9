import Mathlib.Tactic.Common

/-!
# Edits that may apply in part

A patch is a list of hunks. It is carried out as a whole, where one hunk that does not apply undoes
the others, or hunk by hunk, where those that neither apply nor are in place yet are rejected.
-/

namespace UEnv.Hunks

variable {η σ : Type} (apply : η → σ → Option σ) (placed : η → σ → Prop)

/-- Every hunk in its turn, or nothing. -/
def applyAll : List η → σ → Option σ
  | [], s => some s
  | hunk :: hunks, s => (apply hunk s).bind (applyAll hunks)

/-- The hunks that apply in their turn, and beside the result the ones that are rejected. -/
def applyEach [∀ hunk s, Decidable (placed hunk s)] : List η → σ → σ × List η
  | [], s => (s, [])
  | hunk :: hunks, s =>
    match apply hunk s with
    | some t => applyEach hunks t
    | none =>
      let rest := applyEach hunks s
      (rest.1, if placed hunk s then rest.2 else hunk :: rest.2)

/-- A hunk is in place once it was applied, and later hunks do not touch it. -/
structure Separate (hunks : List η) : Prop where
  takes : ∀ hunk s t, apply hunk s = some t → placed hunk t
  apart : hunks.Pairwise fun one later => ∀ s t,
    apply later s = some t → (placed one t ↔ placed one s)

variable {apply placed}

variable {hunk next : η} {s t : σ}

theorem Separate.tail {hunks : List η} (separate : Separate apply placed (hunk :: hunks)) :
    Separate apply placed hunks :=
  ⟨separate.takes, (List.pairwise_cons.mp separate.apart).2⟩

theorem Separate.skip {hunks : List η} (separate : Separate apply placed (hunk :: next :: hunks)) :
    Separate apply placed (hunk :: hunks) := by
  obtain ⟨apart, later⟩ := List.pairwise_cons.mp separate.apart
  refine ⟨separate.takes, List.pairwise_cons.mpr ⟨?_, (List.pairwise_cons.mp later).2⟩⟩
  exact fun other here => apart other (.tail _ here)

theorem Separate.kept {hunks : List η} (separate : Separate apply placed (hunk :: next :: hunks))
    (applied : apply next s = some t) : placed hunk t ↔ placed hunk s :=
  (List.pairwise_cons.mp separate.apart).1 next (.head _) s t applied

theorem placed_applyAll {hunks : List η} (separate : Separate apply placed (hunk :: hunks))
    (ran : applyAll apply hunks s = some t) : placed hunk t ↔ placed hunk s := by
  induction hunks generalizing s with
  | nil =>
    cases ran
    exact Iff.rfl
  | cons next hunks ih =>
    obtain ⟨u, applied, ran⟩ := Option.bind_eq_some_iff.mp ran
    rw [ih separate.skip ran]
    exact separate.kept applied

theorem placed_of_applyAll {hunks : List η} (separate : Separate apply placed hunks)
    (ran : applyAll apply hunks s = some t) : ∀ hunk ∈ hunks, placed hunk t := by
  induction hunks generalizing s with
  | nil => exact fun hunk impossible => absurd impossible List.not_mem_nil
  | cons first hunks ih =>
    obtain ⟨u, applied, later⟩ := Option.bind_eq_some_iff.mp ran
    intro hunk here
    rcases List.mem_cons.mp here with rfl | here
    · exact (placed_applyAll separate later).mpr (separate.takes _ _ _ applied)
    · exact ih separate.tail later hunk here

section Each

variable [∀ hunk s, Decidable (placed hunk s)]

theorem placed_applyEach {hunk : η} {hunks : List η}
    (separate : Separate apply placed (hunk :: hunks)) (s : σ) :
    placed hunk (applyEach apply placed hunks s).1 ↔ placed hunk s := by
  induction hunks generalizing s with
  | nil => exact Iff.rfl
  | cons next hunks ih =>
    unfold applyEach
    cases applied : apply next s with
    | none => exact ih separate.skip s
    | some t => exact (ih separate.skip t).trans (separate.kept applied)

theorem rejected_mem {hunk : η} {hunks : List η} {s : σ}
    (rejected : hunk ∈ (applyEach apply placed hunks s).2) : hunk ∈ hunks := by
  induction hunks generalizing s with
  | nil => exact rejected
  | cons first hunks ih =>
    unfold applyEach at rejected
    cases applied : apply first s with
    | some t =>
      rw [applied] at rejected
      exact .tail _ (ih rejected)
    | none =>
      rw [applied] at rejected
      dsimp only at rejected
      split at rejected
      · exact .tail _ (ih rejected)
      · rcases List.mem_cons.mp rejected with rfl | rejected
        · exact .head _
        · exact .tail _ (ih rejected)

theorem rejected_iff {hunks : List η} (separate : Separate apply placed hunks) (s : σ) :
    ∀ hunk ∈ hunks, hunk ∈ (applyEach apply placed hunks s).2 ↔
      ¬ placed hunk (applyEach apply placed hunks s).1 := by
  induction hunks generalizing s with
  | nil => exact fun hunk impossible => absurd impossible List.not_mem_nil
  | cons first hunks ih =>
    intro hunk here
    unfold applyEach
    cases applied : apply first s with
    | some t =>
      dsimp only
      by_cases later : hunk ∈ hunks
      · exact ih separate.tail t hunk later
      · obtain rfl := (List.mem_cons.mp here).resolve_right later
        refine iff_of_false (fun rejected => later (rejected_mem rejected)) ?_
        rw [placed_applyEach separate, not_not]
        exact separate.takes _ _ _ applied
    | none =>
      dsimp only
      by_cases later : hunk ∈ hunks
      · rw [← ih separate.tail s hunk later]
        split
        · exact Iff.rfl
        · rename_i missing
          refine ⟨fun rejected => ?_, .tail _⟩
          rcases List.mem_cons.mp rejected with rfl | rejected
          · rw [ih separate.tail s hunk later, placed_applyEach separate]
            exact missing
          · exact rejected
      · obtain rfl := (List.mem_cons.mp here).resolve_right later
        rw [placed_applyEach separate]
        split
        · rename_i held
          exact iff_of_false (fun rejected => later (rejected_mem rejected)) (not_not.mpr held)
        · rename_i missing
          exact iff_of_true (.head _) missing

end Each

end UEnv.Hunks
