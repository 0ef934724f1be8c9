import Mathlib.Data.List.Basic

/-!
# Arrays with a shape

Arrays of any number of dimensions and their comparison entry by entry. Two arrays are broadcast to
one shape first: their dimensions are matched from the last one on, and one that is missing or of
length 1 is repeated.
-/

namespace UEnv.NDArrays

structure NDArray (ν : Type) where
  shape : List Nat
  /-- The entry at a place; it counts within the shape only. -/
  entry : List Nat → ν

/-- The places in a shape. -/
def places : List Nat → List (List Nat)
  | [] => [[]]
  | n :: shape => (List.range n).flatMap fun i => (places shape).map (i :: ·)

def broadcastDim (m n : Nat) : Option Nat :=
  if m = n then some m else if m = 1 then some n else if n = 1 then some m else none

/-- The common shape, for shapes from their last dimension on. -/
def broadcastReversed : List Nat → List Nat → Option (List Nat)
  | [], t => some t
  | s, [] => some s
  | m :: s, n :: t => (broadcastDim m n).bind fun d => (broadcastReversed s t).map (d :: ·)

def broadcastShape (s t : List Nat) : Option (List Nat) :=
  (broadcastReversed s.reverse t.reverse).map List.reverse

/-- The place in an array for one in a shape that it is broadcast to. -/
def pick (shape place : List Nat) : List Nat :=
  (List.zipWith (fun n i => if n = 1 then 0 else i) shape.reverse place.reverse).reverse

/-- All entries are close after both arrays were broadcast. -/
def closeAll {ν : Type} (close : ν → ν → Bool) (a b : NDArray ν) : Bool :=
  match broadcastShape a.shape b.shape with
  | some shape => (places shape).all fun place =>
    close (a.entry (pick a.shape place)) (b.entry (pick b.shape place))
  | none => false

theorem broadcastDim_comm (m n : Nat) : broadcastDim m n = broadcastDim n m := by
  unfold broadcastDim
  by_cases same : m = n
  · rw [if_pos same, if_pos same.symm, same]
  · rw [if_neg same, if_neg (Ne.symm same)]
    by_cases first : m = 1
    · have second : n ≠ 1 := fun second => same (first.trans second.symm)
      rw [if_pos first, if_neg second, if_pos first]
    · rw [if_neg first, if_neg first]

theorem broadcastReversed_comm (s t : List Nat) :
    broadcastReversed s t = broadcastReversed t s := by
  induction s generalizing t with
  | nil => cases t <;> rfl
  | cons m s ih =>
    cases t with
    | nil => rfl
    | cons => rw [broadcastReversed, broadcastReversed, broadcastDim_comm, ih]

theorem broadcastShape_comm (s t : List Nat) : broadcastShape s t = broadcastShape t s := by
  rw [broadcastShape, broadcastReversed_comm, broadcastShape]

@[simp]
theorem broadcastShape_self (s : List Nat) : broadcastShape s s = some s := by
  have reversed : ∀ t : List Nat, broadcastReversed t t = some t := by
    intro t
    induction t with
    | nil => rfl
    | cons n t ih => simp [broadcastReversed, broadcastDim, ih]
  simp [broadcastShape, reversed]

theorem length_of_mem_places {shape place : List Nat} (here : place ∈ places shape) :
    place.length = shape.length := by
  induction shape generalizing place with
  | nil =>
    rw [List.mem_singleton.mp here]
  | cons n shape ih =>
    obtain ⟨i, -, inner⟩ := List.mem_flatMap.mp here
    obtain ⟨rest, found, rfl⟩ := List.mem_map.mp inner
    rw [List.length_cons, List.length_cons, ih found]

theorem pick_self {shape place : List Nat} (here : place ∈ places shape) :
    pick shape place = place := by
  rw [pick, ← List.reverse_zipWith (length_of_mem_places here).symm, List.reverse_reverse]
  induction shape generalizing place with
  | nil => rw [List.mem_singleton.mp here, List.zipWith_nil_left]
  | cons n shape ih =>
    obtain ⟨i, below, inner⟩ := List.mem_flatMap.mp here
    obtain ⟨rest, found, rfl⟩ := List.mem_map.mp inner
    rw [List.zipWith_cons_cons, ih found]
    have only : n = 1 → 0 = i := by
      rintro rfl
      exact (Nat.lt_one_iff.mp (List.mem_range.mp below)).symm
    split
    · rename_i one
      rw [only one]
    · rfl

section Close

variable {ν : Type} {close : ν → ν → Bool}

theorem closeAll_iff_of_shape {a b : NDArray ν} (same : a.shape = b.shape) :
    closeAll close a b = true ↔
      ∀ place ∈ places a.shape, close (a.entry place) (b.entry place) = true := by
  rw [closeAll, ← same, broadcastShape_self]
  dsimp only
  rw [List.all_eq_true]
  refine forall₂_congr fun place here => ?_
  rw [pick_self here]

theorem closeAll_comm (symm : ∀ x y, close x y = close y x) (a b : NDArray ν) :
    closeAll close a b = closeAll close b a := by
  rw [closeAll, closeAll, broadcastShape_comm]
  cases broadcastShape b.shape a.shape with
  | none => rfl
  | some shape =>
    dsimp only
    congr 1
    funext place
    exact symm _ _

end Close

/-- Rows of one shape make an array with one more dimension; without rows the shape is empty. -/
def stack {ν : Type} [Inhabited ν] {n : Nat} (rows : Fin n → Option (NDArray ν)) :
    Option (NDArray ν) :=
  if nonempty : 0 < n then
    (rows ⟨0, nonempty⟩).bind fun first =>
      if (List.finRange n).all fun i => (rows i).any fun row => row.shape = first.shape then
        some
          { shape := n :: first.shape
            entry := fun place =>
              match place with
              | i :: rest =>
                if below : i < n then ((rows ⟨i, below⟩).getD first).entry rest else default
              | [] => default }
      else none
  else some { shape := [0], entry := fun _ => default }

end UEnv.NDArrays
