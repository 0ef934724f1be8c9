import Mathlib.Data.List.Basic

/-!
# Fields and lines

A text of fields with a separator between them can be read back from an end whose fields do not hold
the separator. Lines that may hold a line feed of their own can still be told apart when no line is
the first part of another one, followed by the start of a line.
-/

namespace UEnv.Lines

variable {α : Type} {sep nl : α}

variable {a a' b b' : List α}

theorem first_inj (clean : sep ∉ a) (clean' : sep ∉ a') (same : a ++ sep :: b = a' ++ sep :: b') :
    a = a' ∧ b = b' := by
  induction a generalizing a' with
  | nil =>
    cases a' with
    | nil => exact ⟨rfl, (List.cons.inj same).2⟩
    | cons =>
      obtain ⟨rfl, _⟩ := List.cons.inj same
      exact absurd List.mem_cons_self clean'
  | cons c a ih =>
    cases a' with
    | nil =>
      obtain ⟨rfl, _⟩ := List.cons.inj same
      exact absurd List.mem_cons_self clean
    | cons =>
      obtain ⟨rfl, tails⟩ := List.cons.inj same
      obtain ⟨rfl, rest⟩ := ih (fun held => clean (List.mem_cons_of_mem _ held))
        (fun held => clean' (List.mem_cons_of_mem _ held)) tails
      exact ⟨rfl, rest⟩

theorem last_inj (clean : sep ∉ b) (clean' : sep ∉ b') (same : a ++ sep :: b = a' ++ sep :: b') :
    a = a' ∧ b = b' := by
  have reversed := congrArg List.reverse same
  simp only [List.reverse_append, List.reverse_cons, List.append_assoc, List.singleton_append]
    at reversed
  obtain ⟨rest, first⟩ := first_inj (by simpa using clean) (by simpa using clean') reversed
  exact ⟨List.reverse_injective first, List.reverse_injective rest⟩

theorem starts_with {text : List α} (clean : sep ∉ a) (same : a ++ sep :: b = text ++ sep :: b') :
    ∃ rest, text = a ++ rest ∧
      (rest = [] ∨ ∃ q, rest = sep :: q) := by
  rcases List.append_eq_append_iff.mp same with ⟨rest, longer, follows⟩ | ⟨rest, longer, follows⟩
  · refine ⟨rest, longer, ?_⟩
    cases rest with
    | nil => exact .inl rfl
    | cons c q => exact .inr ⟨q, by rw [(List.cons.inj follows).1]⟩
  · cases rest with
    | nil => exact ⟨[], by rw [longer, List.append_nil, List.append_nil], .inl rfl⟩
    | cons =>
      rw [longer, (List.cons.inj follows).1] at clean
      exact absurd (List.mem_append_right _ List.mem_cons_self) clean

/-- Each line with a line feed after it. -/
def unlines (nl : α) (lines : List (List α)) : List α := lines.flatMap (· ++ [nl])

/-- `line` is the first part of `longer` up to a line feed, and the rest of `longer` can be read as
the start of `next`. -/
def Cuts (nl : α) (line next longer : List α) : Prop :=
  ∃ rest, longer = line ++ nl :: rest ∧ ∃ r r', next ++ nl :: r = rest ++ nl :: r'

theorem unlines_cons (nl : α) (line : List α) (lines : List (List α)) :
    unlines nl (line :: lines) = line ++ nl :: unlines nl lines := by
  simp [unlines]

theorem unlines_inj {lines lines' : List (List α)}
    (whole : ∀ line ∈ lines, ∀ next ∈ lines, ∀ longer ∈ lines', ¬Cuts nl line next longer)
    (whole' : ∀ line ∈ lines', ∀ next ∈ lines', ∀ longer ∈ lines, ¬Cuts nl line next longer)
    (same : unlines nl lines = unlines nl lines') : lines = lines' := by
  -- a line that is cut by the first line of the other text has its rest in the other text
  have cut : ∀ {line longer : List α} {rest rest' : List (List α)} {tail : List α},
      (∀ next ∈ line :: rest, ¬Cuts nl line next longer) →
      longer = line ++ nl :: tail → unlines nl rest = tail ++ nl :: unlines nl rest' → False := by
    intro line longer rest rest' tail apart split follows
    cases rest with
    | nil =>
      have empty : ([] : List α) = tail ++ nl :: unlines nl rest' := follows
      simp at empty
    | cons next rest =>
      rw [unlines_cons] at follows
      exact apart next (by simp) ⟨tail, split, _, _, follows⟩
  induction lines generalizing lines' with
  | nil =>
    cases lines' with
    | nil => rfl
    | cons => simp [unlines] at same
  | cons line rest ih =>
    cases lines' with
    | nil => simp [unlines] at same
    | cons line' rest' =>
      rw [unlines_cons, unlines_cons] at same
      rcases List.append_eq_append_iff.mp same with
        ⟨tail, longer, follows⟩ | ⟨tail, longer, follows⟩
      · cases tail with
        | nil =>
          rw [List.append_nil] at longer
          subst longer
          rw [ih (fun l m n k o p => whole l (.tail _ m) n (.tail _ k) o (.tail _ p))
            (fun l m n k o p => whole' l (.tail _ m) n (.tail _ k) o (.tail _ p))
            (List.cons.inj follows).2]
        | cons c tail =>
          obtain ⟨rfl, after⟩ := List.cons.inj follows
          exact (cut (fun next m => whole line List.mem_cons_self next m line' List.mem_cons_self)
            longer after).elim
      · cases tail with
        | nil =>
          rw [List.append_nil] at longer
          subst longer
          rw [ih (fun l m n k o p => whole l (.tail _ m) n (.tail _ k) o (.tail _ p))
            (fun l m n k o p => whole' l (.tail _ m) n (.tail _ k) o (.tail _ p))
            (List.cons.inj follows).2.symm]
        | cons c tail =>
          obtain ⟨rfl, after⟩ := List.cons.inj follows
          exact (cut (fun next m => whole' line' List.mem_cons_self next m line List.mem_cons_self)
            longer after).elim

end UEnv.Lines
