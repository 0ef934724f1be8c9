import Mathlib.Data.List.Sort
import Mathlib.Algebra.Order.Ring.Int

/-!
# Windows of a sorted answer

A query with an incomplete sort key, a limit and an offset answers with a window of the rows, sorted
by the key; rows of one key may come in another order each time. The windows of a page size put
together are all the rows if no two rows of one key lie on both sides of a boundary.
-/

namespace UEnv.Windows

variable {α κ : Type} [LinearOrder κ] (key : α → κ)

/-- An answer of `ORDER BY key DESC`. -/
structure Answers (rows answer : List α) : Prop where
  perm : answer.Perm rows
  sorted : answer.Pairwise fun a b => key b ≤ key a

/-- `LIMIT count OFFSET offset`. -/
def window (offset count : Nat) (answer : List α) : List α := (answer.drop offset).take count

/-- The keys of the rows in the order of every answer. -/
def keysDown (rows : List α) : List κ := (rows.map key).mergeSort fun a b => decide (b ≤ a)

/-- The rows at the places `i` and `i + 1` of an answer have one key. -/
def TiedAt (rows : List α) (i : Nat) : Prop :=
  ∃ k, (keysDown key rows)[i]? = some k ∧ (keysDown key rows)[i + 1]? = some k

variable {key} {rows a b : List α} {i n : Nat}

theorem exists_answer (rows : List α) : ∃ answer, Answers key rows answer := by
  refine ⟨rows.mergeSort fun a b => decide (key b ≤ key a), List.mergeSort_perm .., ?_⟩
  have sorted := @List.pairwise_mergeSort _ (fun a b => decide (key b ≤ key a))
    (fun a b c first second => by simp only [decide_eq_true_eq] at *; exact second.trans first)
    (fun a b => by simpa using le_total (key b) (key a)) rows
  exact sorted.imp fun le => of_decide_eq_true le

section

variable (answers : Answers key rows a)
include answers

theorem Answers.keys : a.map key = keysDown key rows := by
  have sorted : (a.map key).Pairwise fun x y => y ≤ x := List.pairwise_map.mpr answers.sorted
  have sorted' : (keysDown key rows).Pairwise fun x y => y ≤ x := by
    have merged := @List.pairwise_mergeSort _ (fun x y : κ => decide (y ≤ x))
      (fun x y z first second => by simp only [decide_eq_true_eq] at *; exact second.trans first)
      (fun x y => by simpa using le_total y x) (rows.map key)
    exact merged.imp fun le => of_decide_eq_true le
  exact List.Perm.eq_of_pairwise (fun _ _ _ _ le ge => le_antisymm ge le) sorted sorted'
    ((answers.perm.map key).trans (List.mergeSort_perm ..).symm)

theorem Answers.length : a.length = rows.length :=
  answers.perm.length_eq

theorem Answers.descends {j : Nat} (le : i ≤ j) (inside : j < a.length) :
    key (a[j]) ≤ key (a[i]) := by
  rcases Nat.eq_or_lt_of_le le with rfl | less
  · exact le_refl _
  · exact List.pairwise_iff_getElem.mp answers.sorted i j (by omega) inside less

theorem Answers.take_eq_filter (apart : ¬TiedAt key rows i) (inside : i + 1 < a.length) :
    a.take (i + 1) = a.filter fun r => decide (key (a[i + 1]) < key r) := by
  have differs : key a[i] ≠ key a[i + 1] := by
    intro same
    refine apart ⟨key a[i], ?_, ?_⟩
    · rw [← answers.keys, List.getElem?_map, List.getElem?_eq_getElem (by omega)]
      rfl
    · rw [← answers.keys, List.getElem?_map, List.getElem?_eq_getElem inside, same]
      rfl
  have above : ∀ r ∈ a.take (i + 1), key a[i + 1] < key r := by
    intro r taken
    obtain ⟨j, low, rfl⟩ := List.mem_take_iff_getElem.mp taken
    have last : key a[i + 1] < key a[i] :=
      lt_of_le_of_ne (answers.descends (Nat.le_succ i) inside) differs.symm
    exact lt_of_lt_of_le last (answers.descends (by omega) (by omega))
  have below : ∀ r ∈ a.drop (i + 1), ¬key a[i + 1] < key r := by
    intro r dropped
    obtain ⟨j, low, rfl⟩ := List.mem_drop_iff_getElem.mp dropped
    exact not_lt.mpr (answers.descends (Nat.le_add_right _ _) (by omega))
  generalize key a[i + 1] = k at above below
  conv_lhs => rw [← List.append_nil (a.take (i + 1))]
  conv_rhs => rw [← List.take_append_drop (i + 1) a, List.filter_append]
  congr 1
  · refine (List.filter_eq_self.mpr fun r taken => ?_).symm
    exact decide_eq_true (above r taken)
  · refine (List.filter_eq_nil_iff.mpr fun r dropped => ?_).symm
    exact fun less => below r dropped (of_decide_eq_true less)

end

theorem Answers.take_perm (first : Answers key rows a) (second : Answers key rows b)
    (apart : ¬TiedAt key rows i) : (a.take (i + 1)).Perm (b.take (i + 1)) := by
  have whole : a.Perm b := first.perm.trans second.perm.symm
  by_cases inside : i + 1 < a.length
  · have inside' : i + 1 < b.length := whole.length_eq ▸ inside
    have same : key a[i + 1] = key b[i + 1] := by
      have keys := first.keys.trans second.keys.symm
      have here := congrArg (fun l : List κ => l[i + 1]?) keys
      simpa [List.getElem?_eq_getElem inside, List.getElem?_eq_getElem inside'] using here
    rw [first.take_eq_filter apart inside, second.take_eq_filter apart inside', same]
    exact whole.filter _
  · have outside := Nat.not_lt.mp inside
    rw [List.take_of_length_le outside, List.take_of_length_le (whole.length_eq ▸ outside)]
    exact whole

theorem TiedAt.lt_length (tied : TiedAt key rows i) : i + 1 < rows.length := by
  obtain ⟨k, _, next⟩ := tied
  obtain ⟨inside, _⟩ := List.getElem?_eq_some_iff.mp next
  simpa [keysDown] using inside

theorem windows_perm {answers : Nat → List α} (answered : ∀ k, Answers key rows (answers k))
    (first : Answers key rows a) (positive : 0 < n) {m : Nat}
    (apart : ∀ k < m, ¬TiedAt key rows ((k + 1) * n - 1)) :
    ((List.range m).flatMap fun k => window (k * n) n (answers k)).Perm (a.take (m * n)) := by
  have cut : ∀ k ≤ m, ∀ b c, Answers key rows b → Answers key rows c →
      (b.take (k * n)).Perm (c.take (k * n)) := by
    intro k low b c answerB answerC
    cases k with
    | zero =>
      rw [Nat.zero_mul]
      exact List.Perm.refl _
    | succ k =>
      have pos : 0 < (k + 1) * n := Nat.mul_pos (Nat.succ_pos k) positive
      have perm := answerB.take_perm answerC (apart k low)
      rwa [Nat.sub_add_cancel pos] at perm
  induction m with
  | zero =>
    rw [Nat.zero_mul]
    exact List.Perm.refl _
  | succ m ih =>
    have before := ih (fun k low => apart k (by omega)) fun k low => cut k (by omega)
    rw [List.range_succ, List.flatMap_append, List.flatMap_singleton]
    have page : (answers m).take ((m + 1) * n) =
        (answers m).take (m * n) ++ window (m * n) n (answers m) := by
      rw [Nat.succ_mul, List.take_add]
      rfl
    have moved := before.trans (cut m (Nat.le_succ m) _ _ first (answered m))
    refine (moved.append_right _).trans ?_
    rw [← page]
    exact cut (m + 1) (Nat.le_refl _) _ _ (answered m) first

theorem mem_window {row : α} {offset j : Nat} (here : a[j]? = some row) (low : offset ≤ j)
    (high : j < offset + n) : row ∈ window offset n a := by
  refine List.mem_of_getElem? (i := j - offset) ?_
  rw [window, List.getElem?_take_of_lt (by omega), List.getElem?_drop, Nat.add_sub_cancel' low]
  exact here

theorem Answers.swap {before after : List α} {x y : α}
    (answers : Answers key rows (before ++ x :: y :: after)) (same : key x = key y) :
    Answers key rows (before ++ y :: x :: after) where
  perm := ((List.Perm.swap x y after).append_left before).trans answers.perm
  sorted := by
    have sorted : ((before ++ x :: y :: after).map key).Pairwise fun x y => y ≤ x :=
      List.pairwise_map.mpr answers.sorted
    have keys : (before ++ x :: y :: after).map key = (before ++ y :: x :: after).map key := by
      simp [same]
    rw [keys] at sorted
    exact List.pairwise_map.mp sorted

/-- A row before a tied boundary may stand behind it in the answer to the next page. -/
theorem exists_row_twice (positive : 0 < n) {k : Nat} (tied : TiedAt key rows ((k + 1) * n - 1)) :
    ∃ answers : Nat → List α, (∀ j, Answers key rows (answers j)) ∧ ∃ row ∈ rows,
      row ∈ window (k * n) n (answers k) ∧ row ∈ window ((k + 1) * n) n (answers (k + 1)) := by
  obtain ⟨a, first⟩ := @exists_answer _ _ _ key rows
  have bound : k * n + n = (k + 1) * n := (Nat.succ_mul k n).symm
  obtain ⟨key', here, next⟩ := tied
  rw [← first.keys, List.getElem?_map, Option.map_eq_some_iff] at here next
  obtain ⟨x, here, rfl⟩ := here
  obtain ⟨y, next, same⟩ := next
  obtain ⟨inside, rfl⟩ := List.getElem?_eq_some_iff.mp next
  obtain ⟨_, rfl⟩ := List.getElem?_eq_some_iff.mp here
  generalize cut : (k + 1) * n - 1 = i at *
  have split : a = a.take i ++ a[i] :: a[i + 1] :: a.drop (i + 2) := by
    rw [List.getElem_cons_drop, List.getElem_cons_drop, List.take_append_drop]
  have swapped : Answers key rows (a.take i ++ a[i + 1] :: a[i] :: a.drop (i + 2)) :=
    Answers.swap (split ▸ first) same.symm
  refine ⟨fun j => if j = k + 1 then a.take i ++ a[i + 1] :: a[i] :: a.drop (i + 2) else a, ?_,
    a[i], first.perm.mem_iff.mp (List.getElem_mem _), ?_, ?_⟩
  · intro j
    dsimp only
    split
    · exact swapped
    · exact first
  · dsimp only
    rw [if_neg (Nat.ne_of_lt (Nat.lt_succ_self k))]
    exact mem_window here (by omega) (by omega)
  · dsimp only
    rw [if_pos rfl]
    refine @mem_window _ _ _ _ _ (i + 1) ?_ (by omega) (by omega)
    rw [List.getElem?_append_right (by simp), List.length_take_of_le (by omega)]
    simp

end UEnv.Windows
