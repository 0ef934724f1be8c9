import Std.Data.ExtTreeMap.Lemmas
import Mathlib.Data.List.Nodup
import Mathlib.Data.List.Perm.Subperm

/-!
# Finite tables

Lookup in finite maps with decidable keys, stated with `=` on keys, and quantification over the
entries of a table.
-/

namespace UEnv.Tables

variable {κ α : Type} [Ord κ] [Std.TransOrd κ] [Std.LawfulEqOrd κ] [DecidableEq κ]

abbrev Map (κ α : Type) [Ord κ] := Std.ExtTreeMap κ α compare

variable (table : Map κ α)

@[simp]
theorem lookup_insert (k a : κ) (v : α) :
    (table.insert k v)[a]? = if k = a then some v else table[a]? := by
  rw [Std.ExtTreeMap.getElem?_insert]
  simp only [Std.compare_eq_iff_eq]

@[simp]
theorem lookup_erase (k a : κ) : (table.erase k)[a]? = if k = a then none else table[a]? := by
  rw [Std.ExtTreeMap.getElem?_erase]
  simp only [Std.compare_eq_iff_eq]

@[simp]
theorem lookup_insertIfNew (k a : κ) (v : α) :
    (table.insertIfNew k v)[a]? = if k = a ∧ k ∉ table then some v else table[a]? := by
  rw [Std.ExtTreeMap.getElem?_insertIfNew]
  simp only [Std.compare_eq_iff_eq]

@[simp]
theorem lookup_modify (k a : κ) (f : α → α) :
    (table.modify k f)[a]? = if k = a then table[k]?.map f else table[a]? := by
  rw [Std.ExtTreeMap.getElem?_modify]
  simp only [Std.compare_eq_iff_eq]

variable {table}

variable {k a : κ} {v x : α} {entries : List (κ × α)}

omit [DecidableEq κ] in
theorem lookup_insert_cases (present : (table.insert k v)[a]? = some x) :
    (a = k ∧ x = v) ∨ table[a]? = some x := by
  rw [Std.ExtTreeMap.getElem?_insert] at present
  split at present
  · next same =>
    exact Or.inl ⟨(Std.compare_eq_iff_eq.mp same).symm, (Option.some.inj present).symm⟩
  · exact Or.inr present

omit [Std.LawfulEqOrd κ] [DecidableEq κ] in
theorem lookup_of_erase {k : κ} (present : (table.erase k)[a]? = some x) : table[a]? = some x := by
  rw [Std.ExtTreeMap.getElem?_erase] at present
  split at present
  · cases present
  · exact present

variable (table)

omit [Std.LawfulEqOrd κ] [DecidableEq κ] in
theorem contains_iff_lookup (k : κ) : table.contains k = true ↔ ∃ v, table[k]? = some v := by
  rw [Std.ExtTreeMap.contains_eq_isSome_getElem?, Option.isSome_iff_exists]

omit [Std.LawfulEqOrd κ] [DecidableEq κ] in
theorem mem_iff_lookup (k : κ) : k ∈ table ↔ ∃ v, table[k]? = some v := by
  rw [Std.ExtTreeMap.mem_iff_isSome_getElem?, Option.isSome_iff_exists]

omit [DecidableEq κ] in
theorem lookup_filter (keep : κ → α → Bool) (k : κ) :
    (table.filter keep)[k]? = (table[k]?).filter (keep k) :=
  Std.ExtTreeMap.getElem?_filter'

variable {table}

omit [DecidableEq κ] in
theorem lookup_of_filter {keep : κ → α → Bool} (present : (table.filter keep)[k]? = some v) :
    table[k]? = some v ∧ keep k v = true := by
  rw [lookup_filter] at present
  exact Option.filter_eq_some_iff.mp present

theorem insert_comm {k' : κ} (other : k ≠ k') (v v' : α) :
    (table.insert k v).insert k' v' = (table.insert k' v').insert k v := by
  apply Std.ExtTreeMap.ext_getElem?
  intro a
  rw [lookup_insert, lookup_insert, lookup_insert, lookup_insert]
  by_cases here : k = a
  · have there : ¬ k' = a := fun same => other (here.trans same.symm)
    rw [if_neg there, if_pos here, if_pos here]
  · rw [if_neg here, if_neg here]

/-! ### Tables made of a list -/

omit [DecidableEq κ] in
theorem lookup_ofList (unique : (entries.map Prod.fst).Nodup) {k : κ} {v : α}
    (listed : (k, v) ∈ entries) : (Std.ExtTreeMap.ofList entries compare)[k]? = some v := by
  refine Std.ExtTreeMap.getElem?_ofList_of_mem (Std.compare_eq_iff_eq.mpr rfl) ?_ listed
  refine (List.pairwise_map.mp unique).imp ?_
  intro a b other same
  exact other (Std.compare_eq_iff_eq.mp same)

omit [DecidableEq κ] in
theorem size_ofList (unique : (entries.map Prod.fst).Nodup) :
    (Std.ExtTreeMap.ofList entries compare).size = entries.length := by
  refine Std.ExtTreeMap.size_ofList ((List.pairwise_map.mp unique).imp ?_)
  intro a b other same
  exact other (Std.compare_eq_iff_eq.mp same)

theorem mem_ofList {k : κ} :
    k ∈ Std.ExtTreeMap.ofList entries compare ↔ k ∈ entries.map Prod.fst := by
  rw [Std.ExtTreeMap.mem_ofList, List.contains_iff_mem]

omit [Std.LawfulEqOrd κ] [DecidableEq κ] in
theorem nodup_fst_toList (table : Map κ α) : (table.toList.map Prod.fst).Nodup := by
  rw [Std.ExtTreeMap.map_fst_toList_eq_keys]
  exact Std.ExtTreeMap.nodup_keys

theorem ofList_toList (table : Map κ α) : Std.ExtTreeMap.ofList table.toList compare = table := by
  apply Std.ExtTreeMap.ext_getElem?
  intro k
  cases present : table[k]? with
  | some v =>
    exact lookup_ofList (nodup_fst_toList table)
      (Std.ExtTreeMap.mem_toList_iff_getElem?_eq_some.mpr present)
  | none =>
    apply Std.ExtTreeMap.getElem?_eq_none
    intro listed
    obtain ⟨entry, member, rfl⟩ := List.mem_map.mp (mem_ofList.mp listed)
    rw [Std.ExtTreeMap.mem_toList_iff_getElem?_eq_some.mp member] at present
    cases present

/-! ### How many entries have a property -/

omit [DecidableEq κ] [Std.LawfulEqOrd κ] in
/-- The number of the entries whose value has a property. -/
def entryCount (p : α → Bool) (table : Map κ α) : Nat := (table.filter fun _ v => p v).size

section entryCount

variable {p : α → Bool} {k : κ} {v : α}

omit [Std.TransOrd κ] [Std.LawfulEqOrd κ] [DecidableEq κ] in
@[simp]
theorem entryCount_empty : entryCount p (∅ : Map κ α) = 0 := rfl

omit [DecidableEq κ] in
theorem contains_filter : (table.filter fun _ v => p v).contains k = (table[k]?).any p := by
  rw [Std.ExtTreeMap.contains_eq_isSome_getElem?, lookup_filter]
  cases table[k]? with
  | none => rfl
  | some v => cases holds : p v <;> simp [holds]

theorem filter_insert : (table.insert k v).filter (fun _ v => p v) =
      if p v then (table.filter fun _ v => p v).insert k v
      else (table.filter fun _ v => p v).erase k := by
  apply Std.ExtTreeMap.ext_getElem?
  intro a
  rw [lookup_filter, lookup_insert]
  cases holds : p v with
  | true =>
    rw [if_pos rfl, lookup_insert, lookup_filter]
    split
    · rw [Option.filter_some, if_pos holds]
    · rfl
  | false =>
    rw [if_neg Bool.false_ne_true, lookup_erase, lookup_filter]
    split
    · rw [Option.filter_some, holds]
      rfl
    · rfl

theorem filter_erase :
    (table.erase k).filter (fun _ v => p v) = (table.filter fun _ v => p v).erase k := by
  apply Std.ExtTreeMap.ext_getElem?
  intro a
  rw [lookup_filter, lookup_erase, lookup_erase, lookup_filter]
  split <;> rfl

omit [DecidableEq κ] [Std.LawfulEqOrd κ] in
theorem size_erase_add (t : Map κ α) : (t.erase k).size + (t.contains k).toNat = t.size := by
  rw [Std.ExtTreeMap.size_erase]
  cases present : t.contains k with
  | true =>
    have positive : 0 < t.size := by
      rw [Nat.pos_iff_ne_zero]
      intro empty
      rw [← Std.ExtTreeMap.eq_empty_iff_size_eq_zero] at empty
      rw [empty] at present
      cases Std.ExtTreeMap.contains_empty.symm.trans present
    rw [if_pos rfl, Bool.toNat_true]
    omega
  | false => rfl

variable (table p k v) in
theorem entryCount_insert : entryCount p (table.insert k v) + ((table[k]?).any p).toNat =
      entryCount p table + (p v).toNat := by
  unfold entryCount
  rw [filter_insert, ← contains_filter]
  cases holds : p v with
  | true =>
    rw [if_pos rfl, Std.ExtTreeMap.size_insert]
    cases (table.filter fun _ v => p v).contains k <;> rfl
  | false =>
    rw [if_neg Bool.false_ne_true]
    exact size_erase_add _

variable (table p k) in
theorem entryCount_erase :
    entryCount p (table.erase k) + ((table[k]?).any p).toNat = entryCount p table := by
  unfold entryCount
  rw [filter_erase, ← contains_filter]
  exact size_erase_add _

variable {table' : Map κ α}

theorem entryCount_of_inserted (lookups : ∀ a, table'[a]? = if k = a then some v else table[a]?) :
    entryCount p table' + ((table[k]?).any p).toNat = entryCount p table + (p v).toNat := by
  have same : table' = table.insert k v := by
    apply Std.ExtTreeMap.ext_getElem?
    intro a
    rw [lookups, lookup_insert]
  rw [same, entryCount_insert]

theorem entryCount_of_erased (lookups : ∀ a, table'[a]? = if k = a then none else table[a]?) :
    entryCount p table' + ((table[k]?).any p).toNat = entryCount p table := by
  have same : table' = table.erase k := by
    apply Std.ExtTreeMap.ext_getElem?
    intro a
    rw [lookups, lookup_erase]
  rw [same, entryCount_erase]

omit [DecidableEq κ] [Std.LawfulEqOrd κ] in
theorem entryCount_eq_length :
    entryCount p table = (table.toList.filter fun entry => p entry.2).length := by
  rw [entryCount, ← Std.ExtTreeMap.length_toList, Std.ExtTreeMap.toList_filter]

omit [DecidableEq κ] [Std.LawfulEqOrd κ] in
theorem entryCount_add_le {q r : α → Bool} (apart : ∀ v, p v = true → q v = false)
    (left : ∀ v, p v = true → r v = true) (right : ∀ v, q v = true → r v = true) :
    entryCount p table + entryCount q table ≤ entryCount r table := by
  simp only [entryCount_eq_length]
  induction table.toList with
  | nil => exact Nat.le_refl _
  | cons entry rest ih =>
    cases holds : p entry.2 with
    | true =>
      simp only [List.filter_cons, holds, apart _ holds, left _ holds, if_true,
        Bool.false_eq_true, if_false, List.length_cons]
      omega
    | false =>
      cases other : q entry.2 with
      | true =>
        simp only [List.filter_cons, holds, other, right _ other, if_true,
          Bool.false_eq_true, if_false, List.length_cons]
        omega
      | false =>
        simp only [List.filter_cons, holds, other, Bool.false_eq_true, if_false]
        split
        · exact Nat.le_succ_of_le ih
        · exact ih

omit [DecidableEq κ] in
theorem exists_of_entryCount_pos (table : Map κ α) (positive : 0 < entryCount p table) :
    ∃ (k : κ) (v : α), table[k]? = some v ∧ p v = true := by
  rw [entryCount_eq_length] at positive
  obtain ⟨entry, member⟩ := List.exists_mem_of_length_pos positive
  obtain ⟨member, holds⟩ := List.mem_filter.mp member
  exact ⟨entry.1, entry.2, Std.ExtTreeMap.mem_toList_iff_getElem?_eq_some.mp member, holds⟩

end entryCount

omit [DecidableEq κ] in
theorem size_le_length {keys : List κ} (covered : ∀ k ∈ table, k ∈ keys) :
    table.size ≤ keys.length := by
  rw [← Std.ExtTreeMap.length_keys]
  exact (List.subperm_of_subset Std.ExtTreeMap.nodup_keys
    fun k member => covered k (Std.ExtTreeMap.mem_keys.mp member)).length_le

variable (table)

/-- A property of every entry is decided on the list of the entries. -/
instance decidableForallEntries (P : κ → α → Prop) [∀ k v, Decidable (P k v)] :
    Decidable (∀ k v, table[k]? = some v → P k v) :=
  decidable_of_iff (∀ entry ∈ table.toList, P entry.1 entry.2)
    ⟨fun all k v present =>
        all (k, v) (Std.ExtTreeMap.mem_toList_iff_getElem?_eq_some.mpr present),
      fun all entry member =>
        all entry.1 entry.2 (Std.ExtTreeMap.mem_toList_iff_getElem?_eq_some.mp member)⟩

end UEnv.Tables
