import Mathlib.Data.List.Nodup
import Mathlib.Algebra.BigOperators.Group.List.Basic
import Mathlib.Algebra.Order.Ring.Int

/-!
# Lists of records searched by a key

A `Vec` of records is often used as a table: `iter().find` by a key, `iter_mut().find` to
update the first record with that key, `retain` to delete. `lookup` and `update` are these
operations, and the lemmas say what they do when no two records share a key, which they all
preserve.
-/

namespace UEnv.Records

variable {α κ : Type} [DecidableEq κ] (key : α → κ)

/-- `iter().find(|r| key(r) == k)`. -/
def lookup (k : κ) (rows : List α) : Option α :=
  rows.find? (fun r => key r = k)

/-- `if let Some(r) = iter_mut().find(p) { *r = f(r) }`. -/
def updateFirst (p : α → Bool) (f : α → α) : List α → List α
  | [] => []
  | r :: rows => if p r then f r :: rows else r :: updateFirst p f rows

/-- Update the first record with key `k`. -/
def update (k : κ) (f : α → α) (rows : List α) : List α :=
  updateFirst (fun r => key r = k) f rows

/-- No two records share a key. -/
def Unique (rows : List α) : Prop := (rows.map key).Nodup

section Lookup

variable {key} {k k' : κ} {rows : List α} {r : α} {f : α → α}

theorem key_of_lookup (found : lookup key k rows = some r) : key r = k := by
  simpa using List.find?_some found

theorem mem_of_lookup (found : lookup key k rows = some r) : r ∈ rows :=
  List.mem_of_find?_eq_some found

theorem lookup_eq_none : lookup key k rows = none ↔ ∀ r ∈ rows, key r ≠ k := by
  simp [lookup, List.find?_eq_none]

@[simp] theorem lookup_nil : lookup key k ([] : List α) = none := rfl

theorem lookup_cons : lookup key k (r :: rows) =
    if key r = k then some r else lookup key k rows := by
  unfold lookup
  by_cases same : key r = k <;> simp [same]

theorem lookup_append {rows' : List α} :
    lookup key k (rows ++ rows') = (lookup key k rows).or (lookup key k rows') := by
  simp [lookup, List.find?_append]

section

variable (unique : Unique key rows)
include unique

theorem lookup_of_mem (member : r ∈ rows) : lookup key (key r) rows = some r := by
  induction rows with
  | nil => cases member
  | cons head tail ih =>
    rw [lookup_cons]
    obtain ⟨fresh, unique⟩ := List.nodup_cons.mp unique
    rcases List.mem_cons.mp member with rfl | member
    · simp
    · have different : key head ≠ key r := fun same =>
        fresh (same ▸ List.mem_map_of_mem member)
      rw [if_neg different, ih unique member]

theorem lookup_eq_some_iff : lookup key k rows = some r ↔ r ∈ rows ∧ key r = k :=
  ⟨fun found => ⟨mem_of_lookup found, key_of_lookup found⟩,
    fun ⟨member, same⟩ => same ▸ lookup_of_mem unique member⟩

theorem lookup_filter (p : α → Bool) :
    lookup key k (rows.filter p) = (lookup key k rows).filter p := by
  induction rows with
  | nil => rfl
  | cons head tail ih =>
    obtain ⟨fresh, unique⟩ := List.nodup_cons.mp unique
    by_cases same : key head = k
    · by_cases kept : p head
      · simp [lookup_cons, same, kept, Option.filter]
      · have absent : lookup key k tail = none := lookup_eq_none.mpr fun r member equal =>
          fresh ((same.trans equal.symm) ▸ List.mem_map_of_mem member)
        simp [lookup_cons, same, kept, ih unique, absent, Option.filter]
    · by_cases kept : p head <;> simp [lookup_cons, same, kept, ih unique]

/-- With unique keys, a search by key and a further condition asks the record of that key. -/
theorem find?_and (p : α → Bool) :
    rows.find? (fun r => decide (key r = k) && p r) = (lookup key k rows).filter p := by
  rw [← lookup_filter unique, lookup, List.find?_filter]
  congr 1
  funext r
  rw [Bool.decide_and, Bool.decide_eq_true, Bool.decide_eq_true, Bool.and_comm]

end

end Lookup

section Update

variable {key} {k k' : κ} {rows : List α} {r : α} {f : α → α}

@[simp] theorem update_nil : update key k f [] = [] := rfl

theorem update_cons :
    update key k f (r :: rows) = if key r = k then f r :: rows else r :: update key k f rows := by
  by_cases same : key r = k <;> simp [update, updateFirst, same]

theorem update_of_absent (absent : lookup key k rows = none) : update key k f rows = rows := by
  induction rows with
  | nil => rfl
  | cons head tail ih =>
    have different : key head ≠ k := lookup_eq_none.mp absent head (by simp)
    rw [lookup_cons, if_neg different] at absent
    rw [update_cons, if_neg different, ih absent]

theorem mem_of_mem_update {r' : α} (member : r' ∈ update key k f rows) :
    r' ∈ rows ∨ ∃ r ∈ rows, r' = f r := by
  induction rows with
  | nil => cases member
  | cons head tail ih =>
    rw [update_cons] at member
    split at member
    · rcases List.mem_cons.mp member with rfl | later
      · exact .inr ⟨head, List.mem_cons_self, rfl⟩
      · exact .inl (List.mem_cons_of_mem _ later)
    · rcases List.mem_cons.mp member with rfl | later
      · exact .inl List.mem_cons_self
      · rcases ih later with kept | ⟨r, old, same⟩
        · exact .inl (List.mem_cons_of_mem _ kept)
        · exact .inr ⟨r, List.mem_cons_of_mem _ old, same⟩

/-- Updating the first record with key `k` and a further property is updating the record found
under `k` when that record has the property. -/
theorem updateFirst_and (found : lookup key k rows = some r) {p : α → Bool} (holds : p r) :
    updateFirst (fun r => decide (key r = k) && p r) f rows = update key k f rows := by
  induction rows with
  | nil => cases found
  | cons head tail ih =>
    rw [lookup_cons] at found
    by_cases same : key head = k
    · rw [if_pos same] at found
      obtain rfl : head = r := Option.some.inj found
      simp [update_cons, updateFirst, same, holds]
    · rw [if_neg same] at found
      simp [update_cons, updateFirst, same, ih found]

theorem update_congr {g : α → α} (found : lookup key k rows = some r) (agree : f r = g r) :
    update key k f rows = update key k g rows := by
  induction rows with
  | nil => rfl
  | cons head tail ih =>
    rw [lookup_cons] at found
    rw [update_cons, update_cons]
    by_cases same : key head = k
    · rw [if_pos same] at found
      obtain rfl : head = r := Option.some.inj found
      simp [same, agree]
    · rw [if_neg same] at found
      simp [same, ih found]

theorem map_key_update (keeps : ∀ r, key (f r) = key r) :
    (update key k f rows).map key = rows.map key := by
  induction rows with
  | nil => rfl
  | cons head tail ih =>
    rw [update_cons]
    split <;> simp [keeps, ih]

theorem Unique.update (unique : Unique key rows) (keeps : ∀ r, key (f r) = key r) :
    Unique key (update key k f rows) := by
  rw [Unique, map_key_update keeps]
  exact unique

omit [DecidableEq κ] in
theorem Unique.filter (unique : Unique key rows) (p : α → Bool) : Unique key (rows.filter p) :=
  unique.sublist (List.filter_sublist.map key)

theorem Unique.append (unique : Unique key rows) (fresh : lookup key (key r) rows = none) :
    Unique key (rows ++ [r]) := by
  rw [Unique, List.map_append, List.nodup_append]
  refine ⟨unique, by simp, fun a inRows b inNew => ?_⟩
  obtain ⟨r', member, rfl⟩ := List.mem_map.mp inRows
  obtain rfl : b = key r := by simpa using inNew
  exact lookup_eq_none.mp fresh r' member

theorem lookup_update (keeps : ∀ r, key (f r) = key r) : lookup key k' (update key k f rows) =
      if k' = k then (lookup key k' rows).map f else lookup key k' rows := by
  induction rows with
  | nil => simp
  | cons head tail ih =>
    rw [update_cons]
    by_cases same : key head = k
    · by_cases asked : k' = k
      · simp [lookup_cons, same, keeps, asked]
      · have other : ¬ k = k' := Ne.symm asked
        simp [lookup_cons, same, keeps, asked, other]
    · rw [if_neg same, lookup_cons, lookup_cons, ih]
      by_cases asked : k' = k
      · simp [asked, same]
      · simp [asked]

theorem mem_update (unique : Unique key rows) (keeps : ∀ r, key (f r) = key r) {r' : α} :
    r' ∈ update key k f rows ↔
      (r' ∈ rows ∧ key r' ≠ k) ∨ ∃ r, lookup key k rows = some r ∧ r' = f r := by
  rw [← and_iff_left (a := r' ∈ update key k f rows) (rfl : key r' = key r'),
    ← lookup_eq_some_iff (unique.update keeps), lookup_update keeps]
  by_cases same : key r' = k
  · simp only [same, if_true, Option.map_eq_some_iff, ne_eq, not_true_eq_false, and_false, false_or]
    exact exists_congr fun r => and_congr_right fun _ => eq_comm
  · rw [if_neg same, lookup_eq_some_iff unique]
    constructor
    · exact fun found => Or.inl ⟨found.1, same⟩
    · rintro (found | ⟨r, found, rfl⟩)
      · exact ⟨found.1, rfl⟩
      · exact absurd ((keeps r).trans (key_of_lookup found)) same

theorem set_eq_update (unique : Unique key rows) (i : Fin rows.length)
    (keeps : key r = key rows[i]) :
    rows.set i r = update key (key rows[i]) (fun _ => r) rows := by
  induction rows with
  | nil => exact i.elim0
  | cons head tail ih =>
    obtain ⟨fresh, unique⟩ := List.nodup_cons.mp unique
    cases i using Fin.cases with
    | zero => simp [update_cons]
    | succ i =>
      have different : key head ≠ key tail[i] := fun same =>
        fresh (same ▸ List.mem_map_of_mem (List.getElem_mem _))
      have rest : tail.set i r = update key (key tail[i]) (fun _ => r) tail := ih unique i keeps
      change head :: tail.set i r = update key (key tail[i]) (fun _ => r) (head :: tail)
      rw [update_cons, if_neg different, rest]

end Update

section Totals

variable {key} {k : κ} {rows : List α} {f : α → α} {weight : α → Nat}

/-- A total over the records splits into the record under `k` and the rest. -/
theorem sum_eq_lookup_add (unique : Unique key rows) (k : κ) (weight : α → Nat) :
    (rows.map weight).sum = ((lookup key k rows).map weight).getD 0 +
        ((rows.filter (fun r => key r ≠ k)).map weight).sum := by
  induction rows with
  | nil => rfl
  | cons head tail ih =>
    obtain ⟨fresh, unique⟩ := List.nodup_cons.mp unique
    by_cases same : key head = k
    · have rest : tail.filter (fun r => key r ≠ k) = tail :=
        List.filter_eq_self.mpr fun r member => by
          simpa using fun equal : key r = k =>
            fresh ((same.trans equal.symm) ▸ List.mem_map_of_mem member)
      simp only [List.map_cons, List.sum_cons, lookup_cons, same, if_true, Option.map_some,
        Option.getD_some, List.filter_cons, ne_eq, not_true_eq_false, decide_false,
        Bool.false_eq_true, if_false]
      rw [rest]
    · simp only [List.map_cons, List.sum_cons, lookup_cons, same, if_false, List.filter_cons, ne_eq,
        not_false_eq_true, decide_true, if_true]
      rw [ih unique]
      exact Nat.add_left_comm _ _ _

theorem filter_ne_update (keeps : ∀ r, key (f r) = key r) :
    (update key k f rows).filter (fun r => key r ≠ k) = rows.filter (fun r => key r ≠ k) := by
  induction rows with
  | nil => rfl
  | cons head =>
    rw [update_cons]
    by_cases same : key head = k <;> simp_all

theorem sum_update (unique : Unique key rows) (keeps : ∀ r, key (f r) = key r) :
    ((update key k f rows).map weight).sum + ((lookup key k rows).map weight).getD 0 =
      (rows.map weight).sum + ((lookup key k rows).map fun r => weight (f r)).getD 0 := by
  rw [sum_eq_lookup_add (unique.update keeps) k, sum_eq_lookup_add unique k,
    filter_ne_update keeps, lookup_update keeps, if_pos rfl]
  cases lookup key k rows with
  | none => rfl
  | some r =>
    simp only [Option.map_some, Option.getD_some]
    omega

omit [DecidableEq κ] in
theorem sum_filter {keep : α → Bool} (weightless : ∀ r ∈ rows, keep r = false → weight r = 0) :
    ((rows.filter keep).map weight).sum = (rows.map weight).sum := by
  induction rows with
  | nil => rfl
  | cons head tail ih =>
    have rest := ih fun r member => weightless r (List.mem_cons_of_mem _ member)
    cases kept : keep head with
    | true => simp [kept, rest]
    | false => simp [kept, rest, weightless head List.mem_cons_self kept]

end Totals

end UEnv.Records
