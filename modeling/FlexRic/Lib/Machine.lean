import Mathlib.Logic.Basic

/-!
# FlexRic.Lib.Machine

Programs whose steps can fail, and what holds along their runs.

An `Outcome` is what one atomic step of a C program can do: hand over a
value, fail an assertion (the process ends), or find itself unable to move
(a lock is taken, the event cannot occur).  A `Machine` is an initial state
and a step function into `Outcome`.  `ReachedBy C` are the states of the
runs all of whose steps meet the condition `C`; `Reachable` puts no
condition.  Invariants are proved once over `ReachedBy` with
`ReachedBy.invariant`; concrete runs come from evaluating `runMeeting`.
-/

namespace FlexRic

universe u v w

/-! ## Outcomes -/

/-- The result of one atomic step. -/
inductive Outcome (α : Type u) where
  /-- the step hands over a value -/
  | next (a : α)
  /-- an assertion failed: the process is gone -/
  | abort (msg : String)
  /-- the step cannot be taken now -/
  | blocked
  deriving DecidableEq

namespace Outcome

variable {α : Type u} {β : Type v}

def bind (x : Outcome α) (f : α → Outcome β) : Outcome β :=
  match x with
  | next a => f a
  | abort m => abort m
  | blocked => blocked

instance : Monad Outcome where
  pure := next
  bind := bind

/-- C's `assert(c && msg)`. -/
def assert (c : Bool) (msg : String) : Outcome PUnit.{u + 1} :=
  if c then next ⟨⟩ else abort msg

/-- The step needs `c` to be taken at all. -/
def await (c : Bool) : Outcome PUnit.{u + 1} := if c then next ⟨⟩ else blocked

/-- Read an optional value, or fail the assertion that it is there. -/
def expect (o : Option α) (msg : String) : Outcome α :=
  match o with
  | some a => next a
  | none => abort msg

/-- Read an optional value, or wait for it. -/
def awaitSome (o : Option α) : Outcome α :=
  match o with
  | some a => next a
  | none => blocked

/-- The process ended in this step. -/
def Aborts (x : Outcome α) : Prop := ∃ m, x = abort m

/-- The value the step hands over, if it does. -/
def toOption : Outcome α → Option α
  | next a => some a
  | _ => none

def aborted : Outcome α → Bool
  | abort _ => true
  | _ => false

/- `o.toOption` and `o.aborted` are for evaluation; the two lemmas below
carry what was evaluated back to `Outcome`. -/

/-- What goes on has a value. -/
theorem toOption_eq_some {x : Outcome α} {a : α} : x.toOption = some a ↔ x = next a := by
  cases x <;> simp [toOption]

/-- An abort that is computed is one. -/
theorem aborts_of_aborted {x : Outcome α} (h : x.aborted = true) : x.Aborts := by
  cases x with
  | next a => simp [aborted] at h
  | abort m => exact ⟨m, rfl⟩
  | blocked => simp [aborted] at h

/-- If the step can be taken, the process goes on, in a state with `P`. -/
def Meets (P : α → Prop) : Outcome α → Prop
  | next a => P a
  | abort _ => False
  | blocked => True

/-- The result of a step is what the property is about. -/
theorem Meets.of_next {P : α → Prop} {x : Outcome α} {a : α} (h : x = next a) :
    x.Meets P ↔ P a := by
  rw [h, Meets]

/-- What meets a property does not abort. -/
theorem Meets.not_aborts {P : α → Prop} {x : Outcome α} (h : x.Meets P) : ¬ x.Aborts := by
  rintro ⟨m, rfl⟩
  exact h

/-- What goes on does not abort. -/
theorem not_aborts_of_next {x : Outcome α} {a : α} (h : x = next a) : ¬ x.Aborts := by
  rintro ⟨m, hm⟩
  rw [h] at hm
  cases hm

/-! ### Taking a sequence of steps apart -/

@[simp] theorem pure_eq (a : α) : (pure a : Outcome α) = next a := rfl

@[simp] theorem next_bind (a : α) {γ : Type u} (f : α → Outcome γ) : (next a >>= f) = f a := rfl

@[simp] theorem abort_bind (m : String) {γ : Type u} (f : α → Outcome γ) :
    (abort m >>= f) = abort m := rfl

@[simp] theorem blocked_bind {γ : Type u} (f : α → Outcome γ) :
    ((blocked : Outcome α) >>= f) = blocked := rfl

/-- **A sequence goes on** if both its parts do. -/
@[simp] theorem bind_eq_next {γ : Type u} {x : Outcome α} {f : α → Outcome γ} {c : γ} :
    (x >>= f) = next c ↔ ∃ a, x = next a ∧ f a = next c := by
  cases x <;> simp

@[simp] theorem next_inj {a b : α} : (next a : Outcome α) = next b ↔ a = b :=
  ⟨fun h => by injection h, fun h => by rw [h]⟩

/-- An assertion goes on if its condition holds. -/
@[simp] theorem assert_eq_next {c : Bool} {m : String} {x : PUnit.{u + 1}} :
    assert c m = next x ↔ c = true := by
  cases c <;> simp [assert]

theorem assert_of {c : Bool} {m : String} (h : c = true) :
    assert c m = next (⟨⟩ : PUnit.{u + 1}) := by
  rw [h]
  rfl

theorem await_of {c : Bool} (h : c = true) : await c = next (⟨⟩ : PUnit.{u + 1}) := by
  rw [h]
  rfl

/-- A wait goes on when its condition holds. -/
@[simp] theorem await_eq_next {c : Bool} {x : PUnit.{u + 1}} : await c = next x ↔ c = true := by
  cases c <;> simp [await]

@[simp] theorem expect_eq_next {o : Option α} {m : String} {a : α} :
    expect o m = next a ↔ o = some a := by
  cases o <;> simp [expect]

/-- A wait for a value goes on with the value. -/
@[simp] theorem awaitSome_eq_next {o : Option α} {a : α} :
    awaitSome o = next a ↔ o = some a := by
  cases o <;> simp [awaitSome]

/-- A sequence of steps ends the process in its first or in a later step. -/
theorem bind_aborts {γ : Type u} {x : Outcome α} {f : α → Outcome γ} :
    (x >>= f).Aborts ↔ x.Aborts ∨ ∃ a, x = next a ∧ (f a).Aborts := by
  cases x <;> simp [Aborts]

/-- An assertion aborts if its condition does not hold. -/
@[simp] theorem assert_aborts {c : Bool} {m : String} : (assert.{u} c m).Aborts ↔ c = false := by
  cases c <;> simp [assert, Aborts]

theorem assert_bind_aborts {γ : Type u} {c : Bool} {m : String} {f : PUnit → Outcome γ} :
    (assert c m >>= f).Aborts ↔ c = false ∨ (f ⟨⟩).Aborts := by
  cases c <;> simp [assert, Aborts]

/-- A wait does not abort. -/
@[simp] theorem await_not_aborts {c : Bool} : ¬ (await.{u} c).Aborts := by
  cases c <;> simp [await, Aborts]

@[simp] theorem expect_aborts {o : Option α} {m : String} : (expect o m).Aborts ↔ o = none := by
  cases o <;> simp [expect, Aborts]

@[simp] theorem awaitSome_not_aborts {o : Option α} : ¬ (awaitSome o).Aborts := by
  cases o <;> simp [awaitSome, Aborts]

@[simp] theorem next_not_aborts {a : α} : ¬ (next a : Outcome α).Aborts := by
  simp [Aborts]

@[simp] theorem abort_aborts {m : String} : (abort m : Outcome α).Aborts := ⟨m, rfl⟩

@[simp] theorem blocked_not_aborts : ¬ (blocked : Outcome α).Aborts := by
  simp [Aborts]

end Outcome

/-! ## Machines and their runs -/

/-- A state machine: where it starts and what one event does to a state. -/
structure Machine (σ : Type u) (ε : Type v) where
  init : σ
  step : σ → ε → Outcome σ

namespace Machine

variable {σ : Type u} {ε : Type v} {M : Machine σ ε} {C D : σ → ε → Prop}

/-- The states of the runs whose steps all meet the condition `C`, a
condition on the state before the step and on the event. -/
inductive ReachedBy (M : Machine σ ε) (C : σ → ε → Prop) : σ → Prop
  | init : ReachedBy M C M.init
  | step {s s' : σ} {e : ε} :
      ReachedBy M C s → C s e → M.step s e = .next s' → ReachedBy M C s'

/-- The states of all runs. -/
def Reachable (M : Machine σ ε) : σ → Prop := M.ReachedBy fun _ _ => True

/-- A predicate that holds initially and that every step meeting the
condition preserves holds in every state of such runs. -/
theorem ReachedBy.invariant {P : σ → Prop} {s : σ} (h : M.ReachedBy C s) (h0 : P M.init)
    (hstep : ∀ s e s', M.ReachedBy C s → P s → C s e → M.step s e = .next s' → P s') :
    P s := by
  induction h with
  | init => exact h0
  | step hr hc hs ih => exact hstep _ _ _ hr ih hc hs

/-- A weaker condition admits more runs. -/
theorem ReachedBy.mono {s : σ} (h : M.ReachedBy C s) (hCD : ∀ s e, C s e → D s e) :
    M.ReachedBy D s := by
  induction h with
  | init => exact .init
  | step _ hc hs ih => exact .step ih (hCD _ _ hc) hs

/-- A run under a condition is a run. -/
theorem ReachedBy.reachable {s : σ} (h : M.ReachedBy C s) : M.Reachable s :=
  h.mono fun _ _ _ => trivial

theorem Reachable.init : M.Reachable M.init := ReachedBy.init

/-- The invariant rule over all runs. -/
theorem Reachable.invariant {P : σ → Prop} {s : σ} (h : M.Reachable s) (h0 : P M.init)
    (hstep : ∀ s e s', M.Reachable s → P s → M.step s e = .next s' → P s') : P s :=
  ReachedBy.invariant h h0 fun s e s' hr hp _ hs => hstep s e s' hr hp hs

/-! ### Simulation

A machine whose steps are steps of another one, or leave the other's state
as it is, has no runs the other does not have. -/

variable {σ₂ : Type u} {ε₂ : Type w} {N : Machine σ₂ ε₂} {E : σ₂ → ε₂ → Prop}

/-- **Simulation**: where each step is matched by the other machine, so is each run. -/
theorem ReachedBy.simulation {f : σ → σ₂} (hinit : N.ReachedBy E (f M.init))
    (hstep : ∀ s e s', M.ReachedBy C s → C s e → M.step s e = .next s' →
      f s' = f s ∨ ∃ d, E (f s) d ∧ N.step (f s) d = .next (f s'))
    {s : σ} (h : M.ReachedBy C s) : N.ReachedBy E (f s) := by
  induction h with
  | init => exact hinit
  | step hr hc hs ih =>
    obtain heq | ⟨d, hd, hn⟩ := hstep _ _ _ hr hc hs
    · rw [heq]
      exact ih
    · exact .step ih hd hn

/-! ### Evaluating a run -/

/-- The state a list of events leads to, if each of them can be taken and
meets the condition. -/
def runMeeting (M : Machine σ ε) (C : σ → ε → Prop) [∀ s e, Decidable (C s e)] :
    σ → List ε → Option σ
  | s, [] => some s
  | s, e :: es =>
    if C s e then (M.step s e).toOption.bind fun s' => M.runMeeting C s' es else none

/-- A run without a condition on its steps. -/
def run (M : Machine σ ε) (s : σ) (es : List ε) : Option σ := M.runMeeting (fun _ _ => True) s es

theorem run_cons {s s' : σ} {e : ε} (es : List ε) (h : M.step s e = .next s') :
    M.run s (e :: es) = M.run s' es := by
  rw [run, runMeeting, if_pos trivial, h]
  rfl

/-- A run takes its first step first. -/
theorem run_cons_eq_some {s s' : σ} {e : ε} {es : List ε} :
    M.run s (e :: es) = some s' ↔ ∃ s₁, M.step s e = .next s₁ ∧ M.run s₁ es = some s' := by
  rw [run, runMeeting, if_pos trivial, Option.bind_eq_some_iff]
  simp only [Outcome.toOption_eq_some]
  rfl

/-- A run whose steps are all checked meets the condition. -/
theorem ReachedBy.of_runMeeting [∀ s e, Decidable (C s e)] {es : List ε} {s s' : σ}
    (hs : M.ReachedBy C s) (h : M.runMeeting C s es = some s') : M.ReachedBy C s' := by
  induction es generalizing s with
  | nil =>
    simp only [runMeeting, Option.some.injEq] at h
    exact h ▸ hs
  | cons e es ih =>
    simp only [runMeeting] at h
    split at h
    · rename_i hc
      obtain ⟨s₁, h₁, h₂⟩ := Option.bind_eq_some_iff.mp h
      exact ih (.step hs hc (Outcome.toOption_eq_some.mp h₁)) h₂
    · contradiction

/-- A state with a property that an evaluated run ends in. -/
theorem ReachedBy.exists_of_run [∀ s e, Decidable (C s e)] (es : List ε) (P : σ → Bool)
    (h : (M.runMeeting C M.init es).any P = true) : ∃ s, M.ReachedBy C s ∧ P s = true := by
  cases hr : M.runMeeting C M.init es with
  | none => simp [hr] at h
  | some s => exact ⟨s, .of_runMeeting .init hr, by simpa [hr] using h⟩

/-- A run that is computed reaches its state. -/
theorem Reachable.exists_of_run (es : List ε) (P : σ → Bool)
    (h : (M.run M.init es).any P = true) : ∃ s, M.Reachable s ∧ P s = true :=
  ReachedBy.exists_of_run es P h

end Machine

end FlexRic
