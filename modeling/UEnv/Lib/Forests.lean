import UEnv.Lib.Records

/-!
# Forests kept as a list of nodes

A node names its parent by a key and caches the number of the nodes that name it. A forest is well
formed when the keys are unique, every parent but the one of the root exists, and the cached
numbers are right. An insertion counts the children of one parent again; `WellFormedBut` says
which counts may be stale meanwhile.
-/

namespace UEnv.Forests

open Records

/-- How a record is a node of a forest. -/
structure Links (α κ : Type) where
  key : α → κ
  parent : α → κ
  count : α → Nat
  setCount : Nat → α → α
  key_setCount : ∀ n a, key (setCount n a) = key a
  parent_setCount : ∀ n a, parent (setCount n a) = parent a
  count_setCount : ∀ n a, count (setCount n a) = n

namespace Links

variable {α κ : Type} [DecidableEq κ] (L : Links α κ)

/-- What the forest sees of a node. -/
def ties (node : α) : κ × κ × Nat := (L.key node, L.parent node, L.count node)

/-- The number of the nodes under a key. -/
def children (k : κ) (nodes : List α) : Nat := nodes.countP fun c => L.parent c = k

/-- Add a node and count the children of its parent. -/
def push (node : α) (nodes : List α) : List α :=
  update L.key (L.parent node) (L.setCount (L.children (L.parent node) (nodes ++ [node])))
    (nodes ++ [node])

/-- A forest whose counts are right but for some keys. -/
structure WellFormedBut (stale : κ → Prop) (root : κ) (nodes : List α) : Prop where
  unique : Unique L.key nodes
  parents : ∀ n ∈ nodes, L.key n ≠ root → ∃ m ∈ nodes, L.key m = L.parent n
  counts : ∀ n ∈ nodes, ¬ stale (L.key n) → L.count n = L.children (L.key n) nodes

variable {L} {stale stale' : κ → Prop} {root : κ} {nodes nodes' : List α} {node : α}

theorem children_append (k : κ) :
    L.children k (nodes ++ [node]) = L.children k nodes + if L.parent node = k then 1 else 0 := by
  unfold children
  rw [List.countP_append, List.countP_singleton]
  simp

theorem children_eq_of_ties (same : nodes'.map L.ties = nodes.map L.ties) (k : κ) :
    L.children k nodes' = L.children k nodes := by
  have counted : ∀ l : List α,
      L.children k l = (l.map L.ties).countP fun t => decide (t.2.1 = k) := by
    intro l
    rw [List.countP_map]
    rfl
  rw [counted, counted, same]

variable {k : κ}

theorem children_eq_zero (absent : ∀ n ∈ nodes, L.parent n ≠ k) : L.children k nodes = 0 := by
  unfold children
  rw [List.countP_eq_zero]
  intro n member
  simpa using absent n member

theorem WellFormedBut.congr (wf : L.WellFormedBut stale root nodes)
    (same : nodes'.map L.ties = nodes.map L.ties) : L.WellFormedBut stale root nodes' := by
  have keys : nodes'.map L.key = nodes.map L.key := by
    have fst := congrArg (List.map Prod.fst) same
    rw [List.map_map, List.map_map] at fst
    exact fst
  have twin : ∀ n ∈ nodes', ∃ m ∈ nodes, L.ties m = L.ties n := by
    intro n member
    have image : L.ties n ∈ nodes'.map L.ties := List.mem_map_of_mem member
    rw [same] at image
    exact List.mem_map.mp image
  refine ⟨?_, ?_, ?_⟩
  · show (nodes'.map L.key).Nodup
    rw [keys]
    exact wf.unique
  · intro n member other
    obtain ⟨m, here, tied⟩ := twin n member
    obtain ⟨key, parent, _⟩ :
        L.key m = L.key n ∧ L.parent m = L.parent n ∧ L.count m = L.count n := by
      simpa [ties] using tied
    obtain ⟨p, present, named⟩ := wf.parents m here (by rw [key]; exact other)
    have image : L.key p ∈ nodes'.map L.key := by
      rw [keys]
      exact List.mem_map_of_mem present
    obtain ⟨q, present', same'⟩ := List.mem_map.mp image
    exact ⟨q, present', by rw [same', named, parent]⟩
  · intro n member fresh
    obtain ⟨m, here, tied⟩ := twin n member
    obtain ⟨key, _, count⟩ :
        L.key m = L.key n ∧ L.parent m = L.parent n ∧ L.count m = L.count n := by
      simpa [ties] using tied
    rw [← count, wf.counts m here (by rw [key]; exact fresh), key, children_eq_of_ties same]

theorem WellFormedBut.mono (wf : L.WellFormedBut stale root nodes)
    (weaker : ∀ k, stale k → stale' k) : L.WellFormedBut stale' root nodes :=
  ⟨wf.unique, wf.parents, fun n member fresh =>
    wf.counts n member fun stale => fresh (weaker _ stale)⟩

theorem children_recount {k' : κ} {c : Nat} :
    L.children k (update L.key k' (L.setCount c) nodes) = L.children k nodes := by
  unfold children
  induction nodes with
  | nil => rfl
  | cons n rest ih =>
    rw [update_cons]
    split
    · rw [List.countP_cons, List.countP_cons, L.parent_setCount]
    · rw [List.countP_cons, List.countP_cons, ih]

/-- No node hangs under a key that no node has, when the parent of the root is none. -/
theorem WellFormedBut.childless (wf : L.WellFormedBut stale root nodes)
    (fresh : lookup L.key k nodes = none) (top : ∀ n ∈ nodes, L.key n = root → L.parent n ≠ k) :
    ∀ n ∈ nodes, L.parent n ≠ k := by
  intro n member under
  by_cases isRoot : L.key n = root
  · exact top n member isRoot under
  · obtain ⟨m, present, named⟩ := wf.parents n member isRoot
    exact lookup_eq_none.mp fresh m present (named.trans under)

theorem map_key_push : (L.push node nodes).map L.key = (nodes ++ [node]).map L.key :=
  map_key_update (L.key_setCount _)

theorem mem_push {n : α} (member : n ∈ L.push node nodes) :
    ∃ r ∈ nodes ++ [node], n = r ∨ ∃ c, n = L.setCount c r := by
  unfold push at member
  generalize L.children (L.parent node) (nodes ++ [node]) = c at member
  generalize nodes ++ [node] = rows at member ⊢
  induction rows with
  | nil => cases member
  | cons r rest ih =>
    rw [update_cons] at member
    split at member
    · rcases List.mem_cons.mp member with rfl | old
      · exact ⟨r, List.mem_cons_self, Or.inr ⟨c, rfl⟩⟩
      · exact ⟨n, List.mem_cons_of_mem _ old, Or.inl rfl⟩
    · rcases List.mem_cons.mp member with rfl | later
      · exact ⟨n, List.mem_cons_self, Or.inl rfl⟩
      · obtain ⟨r', old, same⟩ := ih later
        exact ⟨r', List.mem_cons_of_mem _ old, same⟩

/-- A pushed leaf under a known parent keeps the forest well formed, and the count of the parent is
right afterwards. -/
theorem WellFormedBut.push (wf : L.WellFormedBut stale root nodes)
    (fresh : lookup L.key (L.key node) nodes = none)
    (known : ∃ m ∈ nodes, L.key m = L.parent node) (leaf : L.count node = 0)
    (top : ∀ n ∈ nodes, L.key n = root → L.parent n ≠ L.key node) :
    L.WellFormedBut (fun k => stale k ∧ k ≠ L.parent node) root (L.push node nodes) := by
  have unique : Unique L.key (nodes ++ [node]) := wf.unique.append fresh
  have apart : L.parent node ≠ L.key node := by
    obtain ⟨m, present, named⟩ := known
    rw [← named]
    exact lookup_eq_none.mp fresh m present
  have members : ∀ n ∈ L.push node nodes, (n ∈ nodes ++ [node] ∧ L.key n ≠ L.parent node) ∨
      (L.key n = L.parent node ∧ L.count n = L.children (L.parent node) (nodes ++ [node]) ∧
        ∃ r ∈ nodes ++ [node], L.key n = L.key r ∧ L.parent n = L.parent r) := by
    intro n member
    rcases (mem_update unique (L.key_setCount _)).mp member with old | ⟨r, found, rfl⟩
    · exact Or.inl old
    · exact Or.inr ⟨(L.key_setCount _ _).trans (key_of_lookup found), L.count_setCount _ _,
        r, mem_of_lookup found, L.key_setCount _ _, L.parent_setCount _ _⟩
  have keyed : ∀ m ∈ nodes ++ [node], ∃ n ∈ L.push node nodes, L.key n = L.key m := by
    intro m member
    have image : L.key m ∈ (nodes ++ [node]).map L.key := List.mem_map_of_mem member
    rw [← map_key_push] at image
    exact List.mem_map.mp image
  have parented : ∀ r ∈ nodes ++ [node], L.key r ≠ root →
      ∃ m ∈ nodes ++ [node], L.key m = L.parent r := by
    intro r member other
    rcases List.mem_append.mp member with old | new
    · obtain ⟨m, present, named⟩ := wf.parents r old other
      exact ⟨m, List.mem_append_left _ present, named⟩
    · obtain rfl := List.mem_singleton.mp new
      obtain ⟨m, present, named⟩ := known
      exact ⟨m, List.mem_append_left _ present, named⟩
  refine ⟨unique.update (L.key_setCount _), ?_, ?_⟩
  · intro n member other
    obtain ⟨r, present, key, parent⟩ : ∃ r ∈ nodes ++ [node], L.key n = L.key r ∧
        L.parent n = L.parent r := by
      rcases members n member with old | ⟨_, _, twin⟩
      · exact ⟨n, old.1, rfl, rfl⟩
      · exact twin
    rw [key] at other
    rw [parent]
    obtain ⟨m, there, named⟩ := parented r present other
    obtain ⟨q, here, same⟩ := keyed m there
    exact ⟨q, here, same.trans named⟩
  · intro n member right
    unfold Links.push
    rw [children_recount]
    rcases members n member with ⟨old, other⟩ | ⟨key, count, _⟩
    · rw [children_append, if_neg (Ne.symm other), Nat.add_zero]
      rcases List.mem_append.mp old with old | new
      · exact wf.counts n old fun stale => right ⟨stale, other⟩
      · obtain rfl := List.mem_singleton.mp new
        rw [leaf, children_eq_zero (wf.childless fresh top)]
    · rw [count, key]

/-- Dropping nodes under which nothing that stays hangs leaves the counts of their parents stale. -/
theorem WellFormedBut.filter (wf : L.WellFormedBut (fun _ => False) root nodes) (keep : α → Bool)
    (held : ∀ n ∈ nodes, keep n = true → ∀ m ∈ nodes, L.key m = L.parent n → keep m = true)
    (dropped : ∀ n ∈ nodes, keep n = false → stale (L.parent n)) :
    L.WellFormedBut stale root (nodes.filter keep) := by
  refine ⟨wf.unique.filter keep, ?_, ?_⟩
  · intro n member other
    obtain ⟨here, kept⟩ := List.mem_filter.mp member
    obtain ⟨m, present, named⟩ := wf.parents n here other
    exact ⟨m, List.mem_filter.mpr ⟨present, held n here kept m present named⟩, named⟩
  · intro n member fresh
    obtain ⟨here, _⟩ := List.mem_filter.mp member
    rw [wf.counts n here (fun impossible => impossible)]
    unfold children
    rw [List.countP_filter]
    apply List.countP_congr
    intro c present
    cases kept : keep c with
    | true => simp
    | false =>
      have away : L.parent c ≠ L.key n := fun under => fresh (under ▸ dropped c present kept)
      simp [away]

end Links

end UEnv.Forests
