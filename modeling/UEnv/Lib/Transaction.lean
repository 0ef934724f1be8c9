import Mathlib.Logic.Basic

/-!
# Sessions on a transactional store

A connection runs statements one by one. Outside a transaction a statement is durable at once;
inside, it works on a copy that a commit makes durable and an error drops. Any statement may be
refused by the engine: the connection carries the refusals to come.

`Runs` and `Atomic` say that a session computes a function of the store. They hold for every
pattern of refusals, and a session that `Atomic` describes never leaves a part of its effects.
-/

namespace UEnv.Transaction

variable {ε σ α β : Type}

/-- A connection; `faults` says which of the next statements are refused. -/
structure Connection (ε σ : Type) where
  durable : σ
  working : Option σ := none
  faults : List (Option ε) := []

abbrev Session (ε σ α : Type) := EStateM ε (Connection ε σ) α

namespace Connection

/-- What a statement sees. -/
def current (c : Connection ε σ) : σ := c.working.getD c.durable

/-- Where the effect of a statement goes. -/
def write (c : Connection ε σ) (s : σ) : Connection ε σ :=
  match c.working with
  | none => { c with durable := s }
  | some _ => { c with working := some s }

def next (c : Connection ε σ) : Connection ε σ := { c with faults := c.faults.tail }

/-- The refusal of the next statement. -/
def fault (c : Connection ε σ) : Option ε := c.faults.head?.join

variable {c : Connection ε σ}

theorem fault_of_faultless (faultless : c.faults = []) : c.fault = none := by
  unfold fault
  rw [faultless]
  rfl

theorem next_faultless (faultless : c.faults = []) : c.next.faults = [] := by
  unfold next
  rw [faultless]
  rfl

end Connection

/-- One statement. -/
def statement (f : σ → Except ε (α × σ)) : Session ε σ α := fun c =>
  match c.fault with
  | some e => .error e c.next
  | none =>
    match f c.current with
    | .ok (a, s) => .ok a (c.next.write s)
    | .error e => .error e c.next

/-- `let tx = conn.transaction()?; …; tx.commit()?`, where an early return drops the transaction. -/
def transaction (body : Session ε σ α) : Session ε σ α := fun c =>
  match c.fault with
  | some e => .error e c.next
  | none =>
    match body { c.next with working := some c.durable } with
    | .error e c => .error e { c with working := none }
    | .ok a c =>
      match c.fault with
      | some e => .error e { c.next with working := none }
      | none => .ok a { c.next with durable := c.current, working := none }

/-- Inside a transaction the session computes `spec` on the working copy. -/
def Runs (body : Session ε σ α) (spec : σ → Except ε (α × σ)) : Prop :=
  ∀ (c : Connection ε σ) (s : σ), c.working = some s →
    match body c with
    | .ok a c' => c'.durable = c.durable ∧ (∃ s', c'.working = some s' ∧ spec s = .ok (a, s')) ∧
        (c.faults = [] → c'.faults = [])
    | .error e c' => c'.durable = c.durable ∧
        (c.faults = [] → spec s = .error e ∧ c'.faults = [])

/-- Outside a transaction the session computes `spec` on the store, or fails and leaves the store
as it was; without refusals it fails only where `spec` does. -/
def Atomic (body : Session ε σ α) (spec : σ → Except ε (α × σ)) : Prop :=
  ∀ c : Connection ε σ, c.working = none →
    match body c with
    | .ok a c' => c'.working = none ∧ spec c.durable = .ok (a, c'.durable) ∧
        (c.faults = [] → c'.faults = [])
    | .error e c' => c'.working = none ∧ c'.durable = c.durable ∧
        (c.faults = [] → spec c.durable = .error e ∧ c'.faults = [])

section Runs

variable {body : Session ε σ α} {spec spec' : σ → Except ε (α × σ)}

theorem Runs.pure (a : α) : Runs (ε := ε) (σ := σ) (Pure.pure a) (fun s => .ok (a, s)) := by
  intro c s open_
  exact ⟨rfl, ⟨s, open_, rfl⟩, fun faultless => faultless⟩

theorem Runs.throw (e : ε) : Runs (σ := σ) (α := α) (MonadExcept.throw e) (fun _ => .error e) := by
  intro c s _
  exact ⟨rfl, fun faultless => ⟨rfl, faultless⟩⟩

theorem Runs.statement (f : σ → Except ε (α × σ)) : Runs (statement f) f := by
  intro c s open_
  have seen : c.current = s := by
    unfold Connection.current
    rw [open_]
    rfl
  unfold Transaction.statement
  rw [seen]
  cases refused : c.fault with
  | some e =>
    refine ⟨rfl, ?_⟩
    intro faultless
    rw [Connection.fault_of_faultless faultless] at refused
    cases refused
  | none =>
    cases ran : f s with
    | error e => exact ⟨rfl, fun faultless => ⟨rfl, Connection.next_faultless faultless⟩⟩
    | ok answer =>
      have written : c.next.write answer.2 = { c.next with working := some answer.2 } := by
        unfold Connection.write Connection.next
        simp only [open_]
      simp only [written]
      exact ⟨rfl, ⟨answer.2, rfl, rfl⟩, Connection.next_faultless⟩

theorem Runs.bind {next : α → Session ε σ β} {spec₂ : α → σ → Except ε (β × σ)}
    (first : Runs body spec) (second : ∀ a, Runs (next a) (spec₂ a)) :
    Runs (body >>= next) (fun s => spec s >>= fun answer => spec₂ answer.1 answer.2) := by
  intro c s open_
  have one := first c s open_
  change match EStateM.bind body next c with
    | .ok a c' => _
    | .error e c' => _
  unfold EStateM.bind
  cases ran : body c with
  | error =>
    rw [ran] at one
    refine ⟨one.1, ?_⟩
    intro faultless
    obtain ⟨failed, faultless'⟩ := one.2 faultless
    refine ⟨?_, faultless'⟩
    simp only [failed]
    rfl
  | ok a c' =>
    rw [ran] at one
    obtain ⟨kept, ⟨s', open', spec_ok⟩, faultless'⟩ := one
    have two := second a c' s' open'
    simp only
    cases ran₂ : next a c' with
    | error =>
      rw [ran₂] at two
      refine ⟨two.1.trans kept, ?_⟩
      intro faultless
      simp only [spec_ok]
      exact two.2 (faultless' faultless)
    | ok =>
      rw [ran₂] at two
      obtain ⟨kept₂, ⟨s'', open'', spec₂_ok⟩, faultless''⟩ := two
      refine ⟨kept₂.trans kept, ⟨s'', open'', ?_⟩,
        fun faultless => faultless'' (faultless' faultless)⟩
      simp only [spec_ok]
      exact spec₂_ok

end Runs

section Atomic

variable {body : Session ε σ α} {spec spec' : σ → Except ε (α × σ)}

theorem Atomic.congr (atomic : Atomic body spec) (same : ∀ s, spec s = spec' s) :
    Atomic body spec' := by
  obtain rfl : spec = spec' := funext same
  exact atomic

theorem Atomic.pure (a : α) : Atomic (ε := ε) (σ := σ) (Pure.pure a) (fun s => .ok (a, s)) := by
  intro c closed
  exact ⟨closed, rfl, fun faultless => faultless⟩

theorem Atomic.throw (e : ε) :
    Atomic (σ := σ) (α := α) (MonadExcept.throw e) (fun _ => .error e) := by
  intro c closed
  exact ⟨closed, rfl, fun faultless => ⟨rfl, faultless⟩⟩

theorem Atomic.statement (f : σ → Except ε (α × σ)) : Atomic (statement f) f := by
  intro c closed
  have seen : c.current = c.durable := by
    unfold Connection.current
    rw [closed]
    rfl
  unfold Transaction.statement
  rw [seen]
  cases refused : c.fault with
  | some e =>
    refine ⟨closed, rfl, ?_⟩
    intro faultless
    rw [Connection.fault_of_faultless faultless] at refused
    cases refused
  | none =>
    cases ran : f c.durable with
    | error e => exact ⟨closed, rfl, fun faultless => ⟨rfl, Connection.next_faultless faultless⟩⟩
    | ok answer =>
      have written : c.next.write answer.2 = { c.next with durable := answer.2 } := by
        unfold Connection.write Connection.next
        simp only [closed]
      dsimp only
      rw [written]
      exact ⟨closed, rfl, Connection.next_faultless⟩

theorem Atomic.transaction (runs : Runs body spec) : Atomic (transaction body) spec := by
  intro c closed
  unfold Transaction.transaction
  cases refused : c.fault with
  | some e =>
    refine ⟨closed, rfl, ?_⟩
    intro faultless
    rw [Connection.fault_of_faultless faultless] at refused
    cases refused
  | none =>
    have inside := runs { c.next with working := some c.durable } c.durable rfl
    dsimp only
    cases ran : body { c.next with working := some c.durable } with
    | error e c' =>
      rw [ran] at inside
      exact ⟨rfl, inside.1, fun faultless => inside.2 (Connection.next_faultless faultless)⟩
    | ok a c' =>
      rw [ran] at inside
      obtain ⟨kept, ⟨s', open', spec_ok⟩, faultless'⟩ := inside
      dsimp only
      cases dropped : c'.fault with
      | some e =>
        refine ⟨rfl, kept, ?_⟩
        intro faultless
        rw [Connection.fault_of_faultless (faultless' (Connection.next_faultless faultless))]
          at dropped
        cases dropped
      | none =>
        have seen : c'.current = s' := by
          unfold Connection.current
          rw [open']
          rfl
        refine ⟨rfl, ?_, ?_⟩
        · rw [spec_ok, seen]
        · intro faultless
          exact Connection.next_faultless (faultless' (Connection.next_faultless faultless))

theorem Atomic.after_read {f : σ → Except ε (α × σ)} {next : α → Session ε σ β}
    {spec₂ : α → σ → Except ε (β × σ)} (reads : ∀ s a s', f s = .ok (a, s') → s' = s)
    (second : ∀ a, Atomic (next a) (spec₂ a)) :
    Atomic (Transaction.statement f >>= next)
      (fun s => f s >>= fun answer => spec₂ answer.1 answer.2) := by
  intro c closed
  have one := Atomic.statement f c closed
  change match EStateM.bind (Transaction.statement f) next c with
    | .ok a c' => _
    | .error e c' => _
  unfold EStateM.bind
  cases ran : Transaction.statement f c with
  | error =>
    rw [ran] at one
    obtain ⟨closed', kept, failed⟩ := one
    refine ⟨closed', kept, ?_⟩
    intro faultless
    obtain ⟨failed, faultless'⟩ := failed faultless
    refine ⟨?_, faultless'⟩
    simp only [failed]
    rfl
  | ok a c' =>
    rw [ran] at one
    obtain ⟨closed', read, faultless'⟩ := one
    have same : c'.durable = c.durable := reads _ _ _ read
    have two := second a c' closed'
    simp only
    cases ran₂ : next a c' with
    | error =>
      rw [ran₂] at two
      obtain ⟨closed'', kept, failed⟩ := two
      refine ⟨closed'', kept.trans same, ?_⟩
      intro faultless
      simp only [read]
      exact failed (faultless' faultless)
    | ok =>
      rw [ran₂] at two
      obtain ⟨closed'', spec_ok, faultless''⟩ := two
      refine ⟨closed'', ?_, fun faultless => faultless'' (faultless' faultless)⟩
      simp only [read]
      exact spec_ok

end Atomic

/-- The statements inside a transaction. -/
inductive Script (ε σ α : Type) : Type 1
  | done (a : α)
  | fail (e : ε)
  | step {β : Type} (f : σ → Except ε (β × σ)) (next : β → Script ε σ α)

namespace Script

def bind (script : Script ε σ α) (k : α → Script ε σ β) : Script ε σ β :=
  match script with
  | .done a => k a
  | .fail e => .fail e
  | .step f next => .step f fun b => (next b).bind k

instance : Monad (Script ε σ) where
  pure := .done
  bind := Script.bind

/-- A statement that changes the store. -/
def exec (f : σ → Except ε σ) : Script ε σ Unit :=
  .step (fun s => (f s).map fun s => ((), s)) .done

/-- A statement that reads. -/
def query (f : σ → α) : Script ε σ α := .step (fun s => .ok (f s, s)) .done

/-- The statements one by one. -/
def run : Script ε σ α → Session ε σ α
  | .done a => pure a
  | .fail e => throw e
  | .step f next => statement f >>= fun b => (next b).run

/-- What the statements compute. -/
def denote : Script ε σ α → σ → Except ε (α × σ)
  | .done a => fun s => .ok (a, s)
  | .fail e => fun _ => .error e
  | .step f next => fun s => f s >>= fun answer => (next answer.1).denote answer.2

theorem runs (script : Script ε σ α) : Runs script.run script.denote := by
  induction script with
  | done a => exact Runs.pure a
  | fail e => exact Runs.throw e
  | step f next ih => exact Runs.bind (Runs.statement f) ih

@[simp] theorem denote_pure (a : α) (s : σ) : (pure a : Script ε σ α).denote s = .ok (a, s) := rfl

@[simp] theorem denote_fail (e : ε) (s : σ) : (fail e : Script ε σ α).denote s = .error e := rfl

@[simp] theorem denote_exec (f : σ → Except ε σ) (s : σ) :
    (exec f).denote s = (f s).map fun s => ((), s) := by
  change ((f s).map fun s => ((), s)) >>= (fun answer => .ok (answer.1, answer.2)) = _
  cases f s with
  | error e => rfl
  | ok s' => rfl

@[simp] theorem denote_query (f : σ → α) (s : σ) :
    (query f : Script ε σ α).denote s = .ok (f s, s) := rfl

@[simp] theorem denote_bind (script : Script ε σ α) (k : α → Script ε σ β) (s : σ) :
    (script >>= k).denote s = script.denote s >>= fun answer => (k answer.1).denote answer.2 := by
  change (script.bind k).denote s = _
  induction script generalizing s with
  | done a => rfl
  | fail e => rfl
  | step f next ih =>
    simp only [Script.bind, denote]
    cases f s with
    | error e => rfl
    | ok answer => exact ih answer.1 answer.2

end Script

/-- A command: reads outside a transaction, then at most one statement or transaction to write. -/
inductive Procedure (ε σ α : Type) : Type 1
  | done (a : α)
  | fail (e : ε)
  | read {β : Type} (f : σ → Except ε β) (next : β → Procedure ε σ α)
  | single (f : σ → Except ε (α × σ))
  | tx (script : Script ε σ α)

namespace Procedure

def run : Procedure ε σ α → Session ε σ α
  | .done a => pure a
  | .fail e => throw e
  | .read f next => statement (fun s => (f s).map fun b => (b, s)) >>= fun b => (next b).run
  | .single f => statement f
  | .tx script => transaction script.run

def denote : Procedure ε σ α → σ → Except ε (α × σ)
  | .done a => fun s => .ok (a, s)
  | .fail e => fun _ => .error e
  | .read f next => fun s => f s >>= fun b => (next b).denote s
  | .single f => f
  | .tx script => script.denote

theorem atomic (procedure : Procedure ε σ α) : Atomic procedure.run procedure.denote := by
  induction procedure with
  | done a => exact Atomic.pure a
  | fail e => exact Atomic.throw e
  | read f next ih =>
    refine (Atomic.after_read ?_ ih).congr ?_
    · intro s a s' read
      cases ran : f s with
      | error e =>
        rw [ran] at read
        cases read
      | ok b =>
        rw [ran] at read
        exact (Prod.mk.inj (Except.ok.inj read)).2.symm
    · intro s
      change ((f s).map fun b => (b, s)) >>= (fun answer => (next answer.1).denote answer.2) =
        f s >>= fun b => (next b).denote s
      cases f s with
      | error e => rfl
      | ok b => rfl
  | single f => exact Atomic.statement f
  | tx script => exact Atomic.transaction script.runs

/-- The error of a call, if it fails, and the connection after it. -/
def call (procedure : Procedure ε σ α) (c : Connection ε σ) : Option ε × Connection ε σ :=
  match procedure.run c with
  | .ok _ c => (none, c)
  | .error e c => (some e, c)

/-- What a call does to the store, when the answer of the command does not matter. -/
def Effect (spec : σ → Except ε σ) (c : Connection ε σ) (outcome : Option ε × Connection ε σ) :
    Prop :=
  outcome.2.working = none ∧
    match outcome.1 with
    | none => spec c.durable = .ok outcome.2.durable
    | some e => outcome.2.durable = c.durable ∧ (c.faults = [] → spec c.durable = .error e)

theorem call_effect {procedure : Procedure ε σ α} {spec : σ → Except ε σ}
    (computes : ∀ s, (procedure.denote s).map Prod.snd = spec s) {c : Connection ε σ}
    (closed : c.working = none) : Effect spec c (procedure.call c) := by
  have atomic := procedure.atomic c closed
  unfold call Effect
  rw [← computes]
  cases ran : procedure.run c with
  | ok =>
    rw [ran] at atomic
    obtain ⟨closed', done, _⟩ := atomic
    refine ⟨closed', ?_⟩
    simp only [done]
    rfl
  | error =>
    rw [ran] at atomic
    obtain ⟨closed', kept, failed⟩ := atomic
    refine ⟨closed', kept, ?_⟩
    intro faultless
    rw [(failed faultless).1]
    rfl

end Procedure

end UEnv.Transaction
