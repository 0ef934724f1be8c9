import Mathlib.Logic.Basic

/-!
# Programs of operations with others in between

A program performs operations one at a time and goes on with what they return. What an operation
does is up to the world and to the environment, which chooses among its faults. Between two
operations others may change the world as far as `rely` allows, and the program changes it only as
`guarantee` allows.
-/

namespace UEnv.RelyGuarantee

/-- A program that ends with a value or with an error. -/
inductive Prog {Op : Type} (Answer : Op → Type) (ε β : Type)
  | pure (b : β)
  | throw (e : ε)
  | op (o : Op) (next : Answer o → Prog Answer ε β)

variable {Op : Type} {Answer : Op → Type} {ε β γ W F : Type}

namespace Prog

def bind (p : Prog Answer ε β) (f : β → Prog Answer ε γ) : Prog Answer ε γ :=
  match p with
  | .pure b => f b
  | .throw e => .throw e
  | .op o next => .op o fun a => (next a).bind f

instance : Monad (Prog Answer ε) where
  pure := .pure
  bind := bind

/-- One operation; the program goes on with its answer. -/
def perform (o : Op) : Prog Answer ε (Answer o) := .op o .pure

/-- A program without operations. -/
def ofExcept : Except ε β → Prog Answer ε β
  | .ok b => .pure b
  | .error e => .throw e

end Prog

/-- What operations do under the faults of the environment, and which faults are considered. -/
structure Machine {Op : Type} (Answer : Op → Type) (W F : Type) where
  exec : (o : Op) → F → W → Answer o × W
  admits : (o : Op) → F → W → Prop

/-- What a program relies on and what it guarantees. -/
structure Contract (W : Type) where
  rely : W → W → Prop
  guarantee : W → W → Prop
  rely_refl : ∀ w, rely w w
  rely_trans : ∀ {u v w}, rely u v → rely v w → rely u w

variable (m : Machine Answer W F) (c : Contract W)

/-- Every operation of the program keeps to the contract, and its end meets `post`. -/
def Ensures (post : Except ε β → W → Prop) : Prog Answer ε β → W → Prop
  | .pure b, w => ∀ v, c.rely w v → post (.ok b) v
  | .throw e, w => ∀ v, c.rely w v → post (.error e) v
  | .op o next, w => ∀ v, c.rely w v → ∀ f, m.admits o f v →
      c.guarantee v (m.exec o f v).2 ∧ Ensures post (next (m.exec o f v).1) (m.exec o f v).2

namespace Ensures

variable {m : Machine Answer W F} {c : Contract W} {post post' : Except ε β → W → Prop}
variable {p : Prog Answer ε β} {w v : W}

theorem rely (ensured : Ensures m c post p w) (acted : c.rely w v) : Ensures m c post p v := by
  cases p with
  | pure b => exact fun u later => ensured u (c.rely_trans acted later)
  | throw e => exact fun u later => ensured u (c.rely_trans acted later)
  | op => exact fun u later => ensured u (c.rely_trans acted later)

theorem pure_post {b : β} (ensured : Ensures m c post (.pure b) w) : post (.ok b) w :=
  ensured w (c.rely_refl w)

theorem throw_post {e : ε} (ensured : Ensures m c post (.throw e) w) : post (.error e) w :=
  ensured w (c.rely_refl w)

theorem step {o : Op} {next : Answer o → Prog Answer ε β} {f : F}
    (ensured : Ensures m c post (.op o next) w) (admitted : m.admits o f w) :
    c.guarantee w (m.exec o f w).2 ∧
      Ensures m c post (next (m.exec o f w).1) (m.exec o f w).2 :=
  ensured w (c.rely_refl w) f admitted

theorem bind {p : Prog Answer ε γ} {f : γ → Prog Answer ε β} {middle : Except ε γ → W → Prop}
    (first : Ensures m c middle p w) (ok : ∀ a u, middle (.ok a) u → Ensures m c post (f a) u)
    (error : ∀ e u, middle (.error e) u → Ensures m c post (.throw e) u) :
    Ensures m c post (p >>= f) w := by
  induction p generalizing w with
  | pure a => exact ok a w first.pure_post
  | throw e => exact error e w first.throw_post
  | op o next ih =>
    intro v acted g admitted
    obtain ⟨kept, later⟩ := first v acted g admitted
    exact ⟨kept, ih _ later⟩

end Ensures

end UEnv.RelyGuarantee
