import Mathlib.Data.List.Basic

/-!
# Paths as texts

Unix paths: what `Path::components`, `PathBuf::join` and `Path::file_name` make of a text, and
where a path leads when its dots are resolved by the text alone.
-/

namespace UEnv.Paths

abbrev PathText := List Char

/-- A component; the root is told by `isAbsolute`, and a `.` is dropped. -/
inductive Component
  | parentDir
  | normal (name : List Char)
  deriving DecidableEq

/-- What stands between two slashes. -/
def component (piece : List Char) : Option Component :=
  if piece = [] ∨ piece = ['.'] then none
  else if piece = ['.', '.'] then some .parentDir
  else some (.normal piece)

/-- `Path::components`, but for the root and a `.` at the front. -/
def components (path : PathText) : List Component := (path.splitOnP (· == '/')).filterMap component

/-- `Path::is_absolute`. -/
def isAbsolute (path : PathText) : Bool := path.head? == some '/'

/-- `Path::join`. -/
def join (base other : PathText) : PathText :=
  if isAbsolute other then other
  else if base = [] ∨ base.getLast? = some '/' then base ++ other
  else base ++ '/' :: other

/-- `Path::file_name`. -/
def fileName (path : PathText) : Option (List Char) :=
  match (components path).getLast? with
  | some (.normal name) => some name
  | _ => none

/-- `Path::starts_with`, component by component. -/
def startsWith (path base : PathText) : Bool :=
  isAbsolute path == isAbsolute base && (components base).isPrefixOf (components path)

/-- One component, from a directory below the root. -/
def walk (dir : List (List Char)) : Component → List (List Char)
  | .parentDir => dir.dropLast
  | .normal name => dir ++ [name]

/-- The names from the root to what a path leads to. -/
def resolve (cwd : List (List Char)) (path : PathText) : List (List Char) :=
  (components path).foldl walk (if isAbsolute path then [] else cwd)

/-- A path leads strictly below a directory. -/
def Inside (cwd : List (List Char)) (path dir : PathText) : Prop :=
  ∃ names, names ≠ [] ∧ resolve cwd path = resolve cwd dir ++ names

/-- The names below a start from which the components never climb; `none` if they do. -/
def descend (below : List (List Char)) : List Component → Option (List (List Char))
  | [] => some below
  | .normal name :: rest => descend (below ++ [name]) rest
  | .parentDir :: rest => if below = [] then none else descend below.dropLast rest

/-- A relative path that ends below its start and never climbs above it. -/
def Descends (path : PathText) : Prop :=
  isAbsolute path = false ∧ ∃ names, names ≠ [] ∧ descend [] (components path) = some names

theorem walk_of_descend {components : List Component} {dir below names : List (List Char)}
    (descends : descend below components = some names) :
    components.foldl walk (dir ++ below) = dir ++ names := by
  induction components generalizing below with
  | nil =>
    cases descends
    rfl
  | cons c rest ih =>
    cases c with
    | normal =>
      rw [List.foldl_cons, walk, List.append_assoc]
      exact ih descends
    | parentDir =>
      rw [descend] at descends
      split at descends
      · cases descends
      · next some =>
        rw [List.foldl_cons, walk, List.dropLast_append_of_ne_nil some]
        exact ih descends

theorem descend_of_normal {components : List Component}
    (normal : ∀ c ∈ components, c ≠ .parentDir) (below : List (List Char)) :
    ∃ names, descend below components = some (below ++ names) ∧
      names.length = components.length := by
  induction components generalizing below with
  | nil => exact ⟨[], by rw [List.append_nil]; rfl, rfl⟩
  | cons c rest ih =>
    cases c with
    | parentDir => exact absurd rfl (normal _ List.mem_cons_self)
    | normal name =>
      obtain ⟨names, ended, length⟩ :=
        ih (fun c member => normal c (List.mem_cons_of_mem _ member)) (below ++ [name])
      refine ⟨name :: names, ?_, congrArg Nat.succ length⟩
      rw [descend, ended, List.append_assoc]
      rfl

variable {other : PathText}

theorem components_join (base : PathText) (relative : isAbsolute other = false) :
    components (join base other) = components base ++ components other := by
  unfold join
  rw [relative, if_neg Bool.false_ne_true]
  split
  · next ended =>
    rcases ended with rfl | ended
    · rfl
    · -- the slash at the end of the base is the one between the two
      obtain ⟨front, rfl⟩ := List.getLast?_eq_some_iff.mp ended
      unfold components
      rw [List.append_assoc, List.singleton_append, List.splitOnP_append_cons _ _ rfl,
        List.splitOnP_append_cons _ _ rfl, List.filterMap_append, List.filterMap_append]
      simp [component]
  · unfold components
    rw [List.splitOnP_append_cons _ _ rfl, List.filterMap_append]

theorem isAbsolute_join (base : PathText) (relative : isAbsolute other = false) :
    isAbsolute (join base other) = isAbsolute base := by
  unfold join
  rw [relative, if_neg Bool.false_ne_true]
  cases base with
  | nil => exact relative
  | cons =>
    split
    · rfl
    · rfl

theorem inside_join (cwd : List (List Char)) (dir : PathText) {entry : PathText}
    (descends : Descends entry) : Inside cwd (join dir entry) dir := by
  obtain ⟨relative, names, some, ended⟩ := descends
  refine ⟨names, some, ?_⟩
  unfold resolve
  rw [components_join dir relative, isAbsolute_join dir relative, List.foldl_append]
  have walked := @walk_of_descend (components entry) (resolve cwd dir) [] names ended
  rw [List.append_nil] at walked
  exact walked

end UEnv.Paths
