import Mathlib.Algebra.Order.Ring.Int
import UEnv.Lib.Fallible
import UEnv.Lib.Text

/-!
# Computations that may panic

A run that slices, indexes and adds may panic; a model of its loops may also use up its fuel. Such a
run agrees with a pure one under a condition on the input if it answers the same where the condition
holds and panics elsewhere. Agreement is kept by sequencing, so that the condition of a program is
the conjunction of those of its parts.
-/

namespace UEnv.Panics

open Fallible Text

/-- Why a run stops without an answer. -/
inductive Stop
  | panic
  | fuel
  deriving DecidableEq

abbrev Run (α : Type) := Except Stop α

/-- The answer of an operation that panics without one. -/
def orPanic {α : Type} : Option α → Run α
  | some a => .ok a
  | none => .error .panic

/-- `x + y` on an `i32`, in a build with overflow checks. -/
def addI32 (x y : Int) : Run Int :=
  if -(2 : Int) ^ 31 ≤ x + y ∧ x + y < (2 : Int) ^ 31 then .ok (x + y) else .error .panic

/-- Where the condition holds the run gives the answer that is there, elsewhere it panics. -/
inductive Agrees {α : Type} (x : Run α) (fits : Prop) (y : Option α) : Prop
  | answers (a : α) (holds : fits) (ran : x = .ok a) (same : y = some a)
  | panics (fails : ¬fits) (ran : x = .error .panic)

section Agreement

variable {α β : Type} {x : Run α} {fits fits' : Prop} {y : Option α}

theorem Agrees.ok {a : α} (ran : x = .ok a) : Agrees x True (some a) :=
  .answers a trivial ran rfl

theorem Agrees.congr (agrees : Agrees x fits y) (same : fits ↔ fits') : Agrees x fits' y := by
  cases agrees with
  | answers a holds ran answer => exact .answers a (same.mp holds) ran answer
  | panics fails ran => exact .panics (fun holds => fails (same.mpr holds)) ran

variable {f : α → Run β} {g : α → Option β}

theorem Agrees.bind (agrees : Agrees x fits y)
    (next : ∀ a, fits → y = some a → Agrees (f a) fits' (g a)) :
    Agrees (x >>= f) (fits ∧ fits') (y >>= g) := by
  cases agrees with
  | answers a holds ran answer =>
    rw [ran, answer]
    exact (next a holds answer).congr (by simp [holds])
  | panics fails ran => exact .panics (fun both => fails both.1) (by rw [ran]; rfl)

theorem Agrees.map (agrees : Agrees x fits y) (f : α → β) : Agrees (x.map f) fits (y.map f) := by
  cases agrees with
  | answers a holds ran answer =>
    exact .answers (f a) holds (by rw [ran]; rfl) (by rw [answer]; rfl)
  | panics fails ran => exact .panics fails (by rw [ran]; rfl)

theorem Agrees.after {a : α} {z : Option β} (ran : x = .ok a) (next : Agrees (f a) fits z) :
    Agrees (x >>= f) fits z := by
  rw [ran]
  exact next

theorem Agrees.mapM {p : α → Prop} {items : List α}
    (each : ∀ item ∈ items, Agrees (f item) (p item) (g item)) :
    Agrees (items.mapM f) (∀ item ∈ items, p item) (items.mapM g) := by
  induction items with
  | nil => exact (Agrees.ok rfl).congr (by simp)
  | cons item rest ih =>
    rw [List.mapM_cons, List.mapM_cons]
    refine Agrees.congr (?_ : Agrees _ (p item ∧ (∀ later ∈ rest, p later) ∧ True) _) (by simp)
    refine (each item List.mem_cons_self).bind fun a _ _ => ?_
    exact (ih fun later listed => each later (List.mem_cons_of_mem _ listed)).bind
      fun _ _ _ => Agrees.ok rfl

theorem Agrees.isOk_iff (agrees : Agrees x fits y) : (∃ a, x = .ok a) ↔ fits := by
  cases agrees with
  | answers a holds ran => exact ⟨fun _ => holds, fun _ => ⟨a, ran⟩⟩
  | panics fails ran =>
    refine ⟨fun ⟨a, answered⟩ => ?_, fun holds => absurd holds fails⟩
    rw [ran] at answered
    cases answered

theorem Agrees.terminates (agrees : Agrees x fits y) : x ≠ .error .fuel := by
  cases agrees with
  | answers a holds ran => simp [ran]
  | panics fails ran => simp [ran]

end Agreement

/-! ### Slices by bytes -/

/-- `&text[n..]`. -/
def sliceFrom (n : Nat) (text : List Char) : Option (List Char) :=
  (sliceTo n text).map fun kept => text.drop kept.length

/-- `&text[start..stop]`; it panics when `start` is after `stop`, too. -/
def slice (start stop : Nat) (text : List Char) : Option (List Char) :=
  (sliceTo stop text).bind (sliceFrom start)

/-- `str::find` of a character: the bytes before the first one. -/
def findBy (p : Char → Bool) (text : List Char) : Option Nat :=
  (splitFirst p text).map fun cut => byteLength cut.1

/-- `str::rfind` of a character. -/
def rfindBy (p : Char → Bool) (text : List Char) : Option Nat :=
  (splitLast p text).map fun cut => byteLength cut.1

/-- `str::find` of a text. -/
def findText (needle text : List Char) : Option Nat :=
  (splitAt needle text).map fun cut => byteLength cut.1

theorem byteLength_append (text rest : List Char) :
    byteLength (text ++ rest) = byteLength text + byteLength rest := by
  induction text with
  | nil => simp [byteLength]
  | cons c text ih => rw [List.cons_append, byteLength_cons, byteLength_cons, ih, Nat.add_assoc]

@[simp] theorem byteLength_nil : byteLength [] = 0 := rfl

@[simp] theorem sliceTo_append (kept rest : List Char) :
    sliceTo (byteLength kept) (kept ++ rest) = some kept :=
  sliceTo_eq_some_iff.mpr ⟨List.prefix_append _ _, rfl⟩

@[simp] theorem sliceFrom_append (before rest : List Char) :
    sliceFrom (byteLength before) (before ++ rest) = some rest := by
  simp [sliceFrom]

@[simp] theorem slice_append (before kept rest : List Char) :
    slice (byteLength before) (byteLength (before ++ kept)) (before ++ kept ++ rest) =
      some kept := by
  rw [slice, sliceTo_append, Option.bind_some, sliceFrom_append]

theorem splitFirst_spec {α : Type} {p : α → Bool} {text before after : List α}
    (cut : splitFirst p text = some (before, after)) :
    ∃ c, p c = true ∧ text = before ++ c :: after := by
  induction text generalizing before with
  | nil => cases cut
  | cons c rest ih =>
    rw [splitFirst] at cut
    split at cut
    · next found =>
      obtain ⟨rfl, rfl⟩ : [] = before ∧ rest = after := by simpa using cut
      exact ⟨c, found, rfl⟩
    · obtain ⟨⟨before', after'⟩, inner, same⟩ := Option.map_eq_some_iff.mp cut
      obtain ⟨rfl, rfl⟩ : c :: before' = before ∧ after' = after := by simpa using same
      obtain ⟨d, found, rfl⟩ := ih inner
      exact ⟨d, found, rfl⟩

theorem splitFirst_elim {α : Type} (p : α → Bool) (text : List α) :
    (splitFirst p text).elim text Prod.fst = text.takeWhile fun c => !p c := by
  induction text with
  | nil => rfl
  | cons c rest ih =>
    rw [splitFirst]
    cases found : p c with
    | true => simp [found]
    | false =>
      rw [List.takeWhile_cons_of_pos (by simp [found]), ← ih]
      cases splitFirst p rest <;> rfl

theorem slice_zero (stop : Nat) (text : List Char) : slice 0 stop text = sliceTo stop text := by
  unfold slice
  cases sliceTo stop text with
  | none => rfl
  | some kept =>
    rw [Option.bind_some]
    cases kept <;> rfl

theorem sliceTo_findBy (p : Char → Bool) (text : List Char) :
    sliceTo ((findBy p text).getD (byteLength text)) text =
      some (text.takeWhile fun c => !p c) := by
  rw [← splitFirst_elim, findBy]
  cases cut : splitFirst p text with
  | none => simpa using sliceTo_append text []
  | some both =>
    obtain ⟨before, after⟩ := both
    obtain ⟨c, -, rfl⟩ := splitFirst_spec cut
    exact sliceTo_append before (c :: after)

/-- The text before its last byte ends between characters only if the last one has one byte. -/
theorem sliceTo_before_last (front : List Char) (last : Char) :
    sliceTo (byteLength (front ++ [last]) - 1) (front ++ [last]) =
      if last.utf8Size = 1 then some front else none := by
  have size : byteLength (front ++ [last]) = byteLength front + last.utf8Size := by
    rw [byteLength_append, byteLength_cons, byteLength_nil, Nat.add_zero]
  split
  · next one =>
    rw [size, one, Nat.add_sub_cancel]
    exact sliceTo_append front [last]
  · next wide =>
    have positive := last.utf8Size_pos
    rw [Option.eq_none_iff_forall_not_mem]
    intro kept cut
    obtain ⟨inside, length⟩ := sliceTo_eq_some_iff.mp cut
    rcases List.prefix_concat_iff.mp inside with rfl | shorter
    · omega
    · obtain ⟨rest, rfl⟩ := shorter
      have := byteLength_append kept rest
      omega

theorem splitLast_spec {α : Type} {p : α → Bool} {text before after : List α}
    (cut : splitLast p text = some (before, after)) :
    ∃ c, p c = true ∧ text = before ++ c :: after := by
  obtain ⟨⟨later, earlier⟩, first, same⟩ := Option.map_eq_some_iff.mp cut
  obtain ⟨rfl, rfl⟩ : earlier.reverse = before ∧ later.reverse = after := by simpa using same
  obtain ⟨c, found, split⟩ := splitFirst_spec first
  refine ⟨c, found, ?_⟩
  rw [← List.reverse_reverse text, split]
  simp

theorem splitFirst_append {α : Type} (p : α → Bool) (text rest : List α) :
    splitFirst p (text ++ rest) = ((splitFirst p text).map fun cut => (cut.1, cut.2 ++ rest)).or
        ((splitFirst p rest).map fun cut => (text ++ cut.1, cut.2)) := by
  induction text with
  | nil => simp [splitFirst]
  | cons c text ih =>
    rw [List.cons_append, splitFirst, splitFirst]
    split
    · rfl
    · rw [ih, Option.map_or, Option.map_map, Option.map_map, Option.map_map]
      rfl

theorem splitLast_append {α : Type} (p : α → Bool) (text rest : List α) :
    splitLast p (text ++ rest) = ((splitLast p rest).map fun cut => (text ++ cut.1, cut.2)).or
        ((splitLast p text).map fun cut => (cut.1, cut.2 ++ rest)) := by
  unfold splitLast
  rw [List.reverse_append, splitFirst_append, Option.map_or]
  simp only [Option.map_map]
  congr 2 <;> · funext cut; simp

theorem splitLast_eq_none {α : Type} {p : α → Bool} {text : List α} :
    splitLast p text = none ↔ ∀ c ∈ text, p c = false := by
  have first : ∀ text : List α, splitFirst p text = none ↔ ∀ c ∈ text, p c = false := by
    intro text
    induction text with
    | nil => simp [splitFirst]
    | cons c rest ih =>
      rw [splitFirst]
      cases found : p c <;> simp [found, ih]
  rw [splitLast, Option.map_eq_none_iff, first]
  simp

end UEnv.Panics
