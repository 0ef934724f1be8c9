import Mathlib.Data.List.Basic

/-!
# Timelines

A world that changes under a clock, with all that it has been before. What is said about an answer
of the world is said about one of its moments.
-/

namespace UEnv.Timelines

structure Timeline (σ : Type) where
  clock : Nat
  present : σ
  /-- The earlier moments, the latest first. -/
  past : List (Nat × σ)
  ordered : ∀ moment ∈ past, moment.1 ≤ clock

namespace Timeline

variable {σ : Type} (line : Timeline σ)

def start (clock : Nat) (world : σ) : Timeline σ where
  clock := clock
  present := world
  past := []
  ordered := by simp

def moments : List (Nat × σ) := (line.clock, line.present) :: line.past

theorem moments_le_clock : ∀ moment ∈ line.moments, moment.1 ≤ line.clock := by
  intro moment member
  rcases List.mem_cons.mp member with rfl | earlier
  · exact Nat.le_refl _
  · exact line.ordered moment earlier

/-- Time passes. -/
def tick (seconds : Nat) : Timeline σ where
  clock := line.clock + seconds
  present := line.present
  past := line.moments
  ordered moment member := Nat.le_add_right_of_le (line.moments_le_clock moment member)

/-- The world changes. -/
def change (world : σ) : Timeline σ where
  clock := line.clock
  present := world
  past := line.moments
  ordered := line.moments_le_clock

/-- Nothing that was is forgotten, and the clock does not go back. -/
structure Extends (line later : Timeline σ) : Prop where
  moments : line.moments ⊆ later.moments
  clock : line.clock ≤ later.clock

theorem extends_tick (seconds : Nat) : line.Extends (line.tick seconds) :=
  ⟨fun _ member => List.mem_cons_of_mem _ member, Nat.le_add_right _ _⟩

theorem extends_change (world : σ) : line.Extends (line.change world) :=
  ⟨fun _ member => List.mem_cons_of_mem _ member, Nat.le_refl _⟩

/-- The world was so at this time. -/
def Was (time : Nat) (p : σ → Prop) : Prop := ∃ world, (time, world) ∈ line.moments ∧ p world

/-- The world was so at some time of the last `span` seconds before `upto`. -/
def WasWithin (span upto : Nat) (p : σ → Prop) : Prop :=
  ∃ time, time ≤ upto ∧ upto ≤ time + span ∧ line.Was time p

variable {line} {line' : Timeline σ} {p q : σ → Prop} {time span upto : Nat}

theorem was_present (now : p line.present) : line.Was line.clock p :=
  ⟨line.present, List.mem_cons_self, now⟩

theorem Was.le_clock (was : line.Was time p) : time ≤ line.clock := by
  obtain ⟨world, member, -⟩ := was
  exact line.moments_le_clock _ member

theorem Was.extend (ext : line.Extends line') (was : line.Was time p) : line'.Was time p := by
  obtain ⟨world, member, holds⟩ := was
  exact ⟨world, ext.moments member, holds⟩

theorem Was.mono (implies : ∀ world, (time, world) ∈ line.moments → p world → q world)
    (was : line.Was time p) : line.Was time q := by
  obtain ⟨world, member, holds⟩ := was
  exact ⟨world, member, implies world member holds⟩

theorem WasWithin.extend (ext : line.Extends line') (was : line.WasWithin span upto p) :
    line'.WasWithin span upto p := by
  obtain ⟨time, le, near, was⟩ := was
  exact ⟨time, le, near, was.extend ext⟩

theorem Was.within (near : line.clock ≤ time + span) (was : line.Was time p) :
    line.WasWithin span line.clock p :=
  ⟨time, was.le_clock, near, was⟩

end Timeline

end UEnv.Timelines
