import UEnv.Worker.Recycling

/-!
# The patch of an evaluation

The difference that `evaluate` records for a session, against the program that the session's work
tree holds. The grader in the session runs on the work tree; one that is started outside is handed
the instance and the difference.
-/

namespace UEnv.Worker

open Git Runs SweSession

variable {κ : Type} [DecidableEq κ]

/-- The `model_diff` of `evaluate`: `git diff` in the workspace, and nothing where it does not
run. -/
def modelDiff (ran : Bool) (text : κ → Bool) (repo : Repository κ) : List (Change κ) :=
  if ran then repo.diff text else []

/-- The files of a freshly provisioned sandbox to which a difference is applied. -/
def patched (tools : Tools κ) (inst : SweInstance) (image : Repository κ)
    (changes : List (Change κ)) : Option (Files κ) :=
  (provision tools inst image).bind fun fresh => apply changes fresh.work

/-- Where `git diff` runs, each path of the index is in the fresh sandbox as in the index, and its
old and new contents are text if it has changed, and any other path is as in the fresh sandbox;
where it does not run, nothing has changed. -/
def Collects (ran : Bool) (text : κ → Bool) (fresh repo : Repository κ) : Prop :=
  if ran then ∀ path, repo.Carries text fresh.work path else repo.work = fresh.work

theorem patched_modelDiff_iff {tools : Tools κ} {inst : SweInstance} {image fresh : Repository κ}
    (provisioned : provision tools inst image = some fresh) (ran : Bool) (text : κ → Bool)
    (repo : Repository κ) :
    patched tools inst image (modelDiff ran text repo) = some repo.work ↔
      Collects ran text fresh repo := by
  rw [patched, provisioned, Option.bind_some]
  unfold modelDiff Collects
  cases ran with
  | false =>
    have unchanged : apply [] fresh.work = some fresh.work := rfl
    simpa [unchanged] using eq_comm
  | true => simpa using apply_diff_iff text repo fresh.work

end UEnv.Worker
