import Mathlib.Logic.Basic
import Mathlib.Data.List.Basic

/-! Effectful computations as functions of a state. An action returns, fails
with an error or unwinds; in all three cases it keeps the state it reached and
the events it emitted on the way, as a method on `&mut self` does.
A `Path` is a relation along executions that composes, so one induction over
the sequencing operators carries it from the primitive actions to whole programs. -/

namespace Effects

variable {σ τ ε η α β : Type}

/-- How a computation ended. `panicked` unwinds past every handler. -/
inductive Outcome (ε α : Type) where
  | returned (a : α)
  | failed (e : ε)
  | panicked
  deriving DecidableEq

def Outcome.ofExcept : Except ε α → Outcome ε α
  | .ok a => .returned a
  | .error e => .failed e

@[simp] theorem Outcome.ofExcept_ok (a : α) :
    (Outcome.ofExcept (.ok a) : Outcome ε α) = .returned a := rfl

@[simp] theorem Outcome.ofExcept_error (e : ε) :
    (Outcome.ofExcept (.error e) : Outcome ε α) = .failed e := rfl

def Outcome.andThen (o : Outcome ε α) (f : α → Except ε β) : Outcome ε β :=
  match o with
  | .returned a => .ofExcept (f a)
  | .failed e => .failed e
  | .panicked => .panicked

def Outcome.error? : Outcome ε α → Option ε
  | .failed e => some e
  | _ => none

/-- How a computation ended, whatever it handed over. -/
def Outcome.shape : Outcome ε α → Outcome Unit Unit
  | .returned _ => .returned ()
  | .failed _ => .failed ()
  | .panicked => .panicked

@[simp] theorem Outcome.shape_returned (a : α) :
    (.returned a : Outcome ε α).shape = .returned () := rfl

@[simp] theorem Outcome.shape_failed (e : ε) : (.failed e : Outcome ε α).shape = .failed () := rfl

@[simp] theorem Outcome.shape_panicked : (.panicked : Outcome ε α).shape = .panicked := rfl

theorem Outcome.andThen_shape_panicked {o : Outcome ε α} {f : α → Except ε β} :
    (o.andThen f).shape = .panicked ↔ o.shape = .panicked := by
  cases o with
  | returned a => cases h : f a <;> simp [andThen, h]
  | failed e => simp [andThen]
  | panicked => simp [andThen]

theorem Outcome.error?_eq_some {o : Outcome ε α} {e : ε} : o.error? = some e ↔ o = .failed e := by
  cases o <;> simp [error?]

structure Execution (σ ε η α : Type) where
  outcome : Outcome ε α
  state : σ
  events : List η

def Action (σ ε η α : Type) := σ → Execution σ ε η α

/-- The execution with events that happened before it. -/
def Execution.after (es : List η) (r : Execution σ ε η α) : Execution σ ε η α :=
  ⟨r.outcome, r.state, es ++ r.events⟩

/-- Continue a returned value; a failure or a panic ends the computation where it is. -/
def Execution.follow (r : Execution σ ε η α) (f : α → Action σ ε η β) : Execution σ ε η β :=
  match r.outcome with
  | .returned a => (f a r.state).after r.events
  | .failed e => ⟨.failed e, r.state, r.events⟩
  | .panicked => ⟨.panicked, r.state, r.events⟩

@[simp] theorem Execution.after_outcome (es : List η) (r : Execution σ ε η α) :
    (r.after es).outcome = r.outcome := rfl

@[simp] theorem Execution.after_state (es : List η) (r : Execution σ ε η α) :
    (r.after es).state = r.state := rfl

@[simp] theorem Execution.after_events (es : List η) (r : Execution σ ε η α) :
    (r.after es).events = es ++ r.events := rfl

@[simp] theorem Execution.after_nil (r : Execution σ ε η α) : r.after [] = r := rfl

theorem Execution.after_after (es fs : List η) (r : Execution σ ε η α) :
    (r.after fs).after es = r.after (es ++ fs) := by
  simp [Execution.after]

@[simp] theorem Execution.follow_returned (a : α) (s : σ) (es : List η)
    (f : α → Action σ ε η β) :
    (⟨.returned a, s, es⟩ : Execution σ ε η α).follow f = (f a s).after es := rfl

@[simp] theorem Execution.follow_failed (e : ε) (s : σ) (es : List η)
    (f : α → Action σ ε η β) :
    (⟨.failed e, s, es⟩ : Execution σ ε η α).follow f = ⟨.failed e, s, es⟩ := rfl

@[simp] theorem Execution.follow_panicked (s : σ) (es : List η)
    (f : α → Action σ ε η β) :
    (⟨.panicked, s, es⟩ : Execution σ ε η α).follow f = ⟨.panicked, s, es⟩ := rfl

namespace Action

instance : Monad (Action σ ε η) where
  pure a := fun s => ⟨.returned a, s, []⟩
  bind m f := fun s => (m s).follow f

def fail (e : ε) : Action σ ε η α := fun s => ⟨.failed e, s, []⟩

def panic : Action σ ε η α := fun s => ⟨.panicked, s, []⟩

def view (f : σ → α) : Action σ ε η α := fun s => ⟨.returned (f s), s, []⟩

def modify (f : σ → σ) : Action σ ε η Unit := fun s => ⟨.returned (), f s, []⟩

def emit (e : η) : Action σ ε η Unit := fun s => ⟨.returned (), s, [e]⟩

/-- Hand a failure to the caller as a value. A panic is not a failure. -/
def attempt (m : Action σ ε η α) : Action σ ε η (Except ε α) := fun s =>
  let r := m s
  match r.outcome with
  | .returned a => ⟨.returned (.ok a), r.state, r.events⟩
  | .failed e => ⟨.returned (.error e), r.state, r.events⟩
  | .panicked => ⟨.panicked, r.state, r.events⟩

/-- Hand over how the computation ended, a panic included. -/
def observe (m : Action σ ε η α) : Action σ ε η (Outcome ε α) := fun s =>
  ⟨.returned (m s).outcome, (m s).state, (m s).events⟩

def ofExcept : Except ε α → Action σ ε η α
  | .ok a => pure a
  | .error e => fail e

def ofOutcome : Outcome ε α → Action σ ε η α
  | .returned a => pure a
  | .failed e => fail e
  | .panicked => panic

def when (b : Bool) (m : Action σ ε η Unit) : Action σ ε η Unit := if b then m else pure ()

def onRight (m : Action σ ε η α) : Action (τ × σ) ε η α := fun s =>
  let r := m s.2
  ⟨r.outcome, (s.1, r.state), r.events⟩

@[simp] theorem pure_apply (a : α) (s : σ) :
    (pure a : Action σ ε η α) s = ⟨.returned a, s, []⟩ := rfl

@[simp] theorem bind_apply (m : Action σ ε η α) (f : α → Action σ ε η β) (s : σ) :
    (m >>= f) s = (m s).follow f := rfl

@[simp] theorem fail_apply (e : ε) (s : σ) :
    (fail e : Action σ ε η α) s = ⟨.failed e, s, []⟩ := rfl

@[simp] theorem panic_apply (s : σ) :
    (panic : Action σ ε η α) s = ⟨.panicked, s, []⟩ := rfl

@[simp] theorem view_apply (f : σ → α) (s : σ) :
    (view f : Action σ ε η α) s = ⟨.returned (f s), s, []⟩ := rfl

@[simp] theorem modify_apply (f : σ → σ) (s : σ) :
    (modify f : Action σ ε η Unit) s = ⟨.returned (), f s, []⟩ := rfl

@[simp] theorem emit_apply (e : η) (s : σ) :
    (emit e : Action σ ε η Unit) s = ⟨.returned (), s, [e]⟩ := rfl

@[simp] theorem observe_apply (m : Action σ ε η α) (s : σ) :
    m.observe s = ⟨.returned (m s).outcome, (m s).state, (m s).events⟩ := rfl

@[simp] theorem ofExcept_ok (a : α) : (ofExcept (.ok a) : Action σ ε η α) = pure a := rfl

@[simp] theorem ofExcept_error (e : ε) :
    (ofExcept (.error e) : Action σ ε η α) = fail e := rfl

@[simp] theorem ofOutcome_returned (a : α) :
    (ofOutcome (.returned a) : Action σ ε η α) = pure a := rfl

@[simp] theorem ofOutcome_failed (e : ε) :
    (ofOutcome (.failed e) : Action σ ε η α) = fail e := rfl

@[simp] theorem ofOutcome_panicked :
    (ofOutcome .panicked : Action σ ε η α) = panic := rfl

@[simp] theorem when_true (m : Action σ ε η Unit) : when true m = m := rfl

@[simp] theorem when_false (m : Action σ ε η Unit) : when false m = pure () := rfl

@[simp] theorem onRight_apply (m : Action σ ε η α) (s : τ × σ) :
    (onRight m : Action (τ × σ) ε η α) s =
      ⟨(m s.2).outcome, (s.1, (m s.2).state), (m s.2).events⟩ := rfl

@[simp] theorem attempt_state (m : Action σ ε η α) (s : σ) :
    (m.attempt s).state = (m s).state := by
  unfold attempt
  cases h : (m s).outcome <;> simp [h]

@[simp] theorem attempt_events (m : Action σ ε η α) (s : σ) :
    (m.attempt s).events = (m s).events := by
  unfold attempt
  cases h : (m s).outcome <;> simp [h]

theorem bind_events_of_silent {m : Action σ ε η α} {f : α → Action σ ε η β}
    (hf : ∀ a s, (f a s).events = []) (s : σ) : ((m >>= f) s).events = (m s).events := by
  rw [bind_apply]
  rcases m s with ⟨o, s', es⟩
  cases o <;> simp [hf]

theorem mem_bind_events {m : Action σ ε η α} {f : α → Action σ ε η β} {s : σ} {e : η}
    (h : e ∈ (m s).events) : e ∈ ((m >>= f) s).events := by
  rw [bind_apply]
  rcases hm : m s with ⟨o, s', es⟩
  rw [hm] at h
  cases o with
  | returned a => exact List.mem_append_left _ h
  | failed e => exact h
  | panicked => exact h

theorem bind_of_failed {m : Action σ ε η α} {f : α → Action σ ε η β} {s : σ} {e : ε}
    (h : (m s).outcome = .failed e) : (m >>= f) s = ⟨.failed e, (m s).state, (m s).events⟩ := by
  rw [bind_apply]
  rcases hm : m s with ⟨o, s', es⟩
  rw [hm] at h
  rw [show o = .failed e from h]
  rfl

theorem attempt_of_returned {m : Action σ ε η α} {s : σ} {a : α}
    (h : (m s).outcome = .returned a) :
    m.attempt s = ⟨.returned (.ok a), (m s).state, (m s).events⟩ := by
  simp [attempt, h]

theorem attempt_of_failed {m : Action σ ε η α} {s : σ} {e : ε}
    (h : (m s).outcome = .failed e) :
    m.attempt s = ⟨.returned (.error e), (m s).state, (m s).events⟩ := by
  simp [attempt, h]

theorem attempt_of_panicked {m : Action σ ε η α} {s : σ}
    (h : (m s).outcome = .panicked) :
    m.attempt s = ⟨.panicked, (m s).state, (m s).events⟩ := by
  simp [attempt, h]

end Action

/-- A relation between the state before, the events emitted and the state
after, closed under doing nothing and under sequencing. -/
structure Path (σ η : Type) where
  rel : σ → List η → σ → Prop
  refl : ∀ s, rel s [] s
  trans : ∀ {s s' s'' es fs}, rel s es s' → rel s' fs s'' → rel s (es ++ fs) s''

namespace Path

variable {P : Path σ η}

/-- Every execution of the action, however it ends, is a step of the path. -/
def Respects (P : Path σ η) (m : Action σ ε η α) : Prop :=
  ∀ s, P.rel s (m s).events (m s).state

theorem respects_pure (a : α) : P.Respects (pure a : Action σ ε η α) := fun s => P.refl s

theorem respects_fail (e : ε) : P.Respects (Action.fail e : Action σ ε η α) := fun s => P.refl s

theorem respects_panic : P.Respects (Action.panic : Action σ ε η α) := fun s => P.refl s

theorem respects_view (f : σ → α) : P.Respects (Action.view f : Action σ ε η α) :=
  fun s => P.refl s

theorem respects_ofExcept (x : Except ε α) :
    P.Respects (Action.ofExcept x : Action σ ε η α) := by
  cases x with
  | ok a => exact respects_pure a
  | error e => exact respects_fail e

theorem respects_ofOutcome (x : Outcome ε α) :
    P.Respects (Action.ofOutcome x : Action σ ε η α) := by
  cases x with
  | returned a => exact respects_pure a
  | failed e => exact respects_fail e
  | panicked => exact respects_panic

theorem rel_bind {m : Action σ ε η α} {f : α → Action σ ε η β} {s : σ}
    (hm : P.rel s (m s).events (m s).state)
    (hf : ∀ a, (m s).outcome = .returned a →
      P.rel (m s).state (f a (m s).state).events (f a (m s).state).state) :
    P.rel s ((m >>= f) s).events ((m >>= f) s).state := by
  rcases h : m s with ⟨o, s', es⟩
  rw [h] at hm hf
  cases o with
  | returned a => simpa [h] using P.trans hm (hf a rfl)
  | failed e => simpa [h] using hm
  | panicked => simpa [h] using hm

theorem Respects.bind {m : Action σ ε η α} {f : α → Action σ ε η β}
    (hm : P.Respects m) (hf : ∀ a, P.Respects (f a)) : P.Respects (m >>= f) :=
  fun s => rel_bind (hm s) (fun a _ => hf a _)

theorem Respects.attempt {m : Action σ ε η α} (hm : P.Respects m) :
    P.Respects m.attempt := by
  intro s
  rw [Action.attempt_events, Action.attempt_state]
  exact hm s

theorem Respects.observe {m : Action σ ε η α} (hm : P.Respects m) :
    P.Respects m.observe := hm

theorem Respects.when {m : Action σ ε η Unit} (b : Bool) (hm : P.Respects m) :
    P.Respects (Action.when b m) := by
  cases b with
  | true => exact hm
  | false => exact respects_pure ()

theorem Respects.mono {Q : Path σ η} {m : Action σ ε η α} (hm : P.Respects m)
    (h : ∀ s es s', P.rel s es s' → Q.rel s es s') : Q.Respects m := fun s => h _ _ _ (hm s)

/-- Every execution that returns is a step of the path. -/
def OnReturn (P : Path σ η) (m : Action σ ε η α) : Prop :=
  ∀ s a, (m s).outcome = .returned a → P.rel s (m s).events (m s).state

theorem Respects.onReturn {m : Action σ ε η α} (h : P.Respects m) : P.OnReturn m :=
  fun s _ _ => h s

theorem onReturn_fail (e : ε) : P.OnReturn (Action.fail e : Action σ ε η α) := nofun

theorem OnReturn.bind {m : Action σ ε η α} {f : α → Action σ ε η β} (hm : P.OnReturn m)
    (hf : ∀ a, P.OnReturn (f a)) : P.OnReturn (m >>= f) := by
  intro s b hb
  have h := hm s
  rw [Action.bind_apply] at hb ⊢
  generalize m s = r at h hb ⊢
  rcases r with ⟨o, s', es⟩
  cases o with
  | returned a => exact P.trans (h a rfl) (hf a s' b hb)
  | failed e => cases hb
  | panicked => cases hb

/-- Nothing but events that satisfy `Q`. -/
def ofEvents (Q : η → Prop) : Path σ η where
  rel _ es _ := ∀ e ∈ es, Q e
  refl _ _ he := absurd he List.not_mem_nil
  trans h h' e he := (List.mem_append.mp he).elim (h e) (h' e)

theorem respects_modify_ofEvents {Q : η → Prop} (f : σ → σ) :
    (ofEvents Q).Respects (Action.modify f : Action σ ε η Unit) :=
  fun _ _ he => absurd he List.not_mem_nil

theorem respects_emit_ofEvents {Q : η → Prop} {e : η} (h : Q e) :
    (ofEvents Q : Path σ η).Respects (Action.emit e : Action σ ε η Unit) := by
  intro s x hx
  rw [List.mem_singleton.mp hx]
  exact h

theorem respects_onRight_ofEvents {Q : η → Prop} {m : Action σ ε η α}
    (h : (ofEvents Q).Respects m) :
    (ofEvents Q).Respects (Action.onRight m : Action (τ × σ) ε η α) := fun s => h s.2

end Path

/-- From every state the action fails or returns a value that satisfies `Q`. -/
def Yields (m : Action σ ε η α) (Q : α → Prop) : Prop :=
  ∀ s, match (m s).outcome with
    | .returned a => Q a
    | .failed _ => True
    | .panicked => False

namespace Yields

variable {Q : α → Prop} {R : β → Prop}

theorem pure {a : α} (h : Q a) : Yields (pure a : Action σ ε η α) Q := fun _ => h

theorem fail (e : ε) : Yields (Action.fail e : Action σ ε η α) Q := fun _ => trivial

theorem view (f : σ → α) : Yields (Action.view f : Action σ ε η α) fun _ => True :=
  fun _ => trivial

theorem modify (f : σ → σ) : Yields (Action.modify f : Action σ ε η Unit) fun _ => True :=
  fun _ => trivial

theorem emit (e : η) : Yields (Action.emit e : Action σ ε η Unit) fun _ => True :=
  fun _ => trivial

theorem ofExcept (x : Except ε α) : Yields (Action.ofExcept x : Action σ ε η α) fun _ => True := by
  cases x with
  | ok a => exact pure trivial
  | error e => exact fail e

theorem bind {m : Action σ ε η α} {f : α → Action σ ε η β} (hm : Yields m Q)
    (hf : ∀ a, Q a → Yields (f a) R) : Yields (m >>= f) R := by
  intro s
  have h := hm s
  rw [Action.bind_apply]
  generalize m s = r at h
  rcases r with ⟨o, s', es⟩
  cases o with
  | returned a => exact hf a h s'
  | failed e => trivial
  | panicked => exact absurd h not_false

theorem attempt {m : Action σ ε η α} (hm : Yields m Q) :
    Yields m.attempt fun r => ∀ a, r = .ok a → Q a := by
  intro s
  have h := hm s
  cases ho : (m s).outcome with
  | returned a =>
    rw [ho] at h
    rw [Action.attempt_of_returned ho]
    rintro b ⟨⟩
    exact h
  | failed e =>
    rw [Action.attempt_of_failed ho]
    exact nofun
  | panicked =>
    rw [ho] at h
    exact absurd h not_false

theorem when {m : Action σ ε η Unit} (b : Bool) (hm : Yields m fun _ => True) :
    Yields (Action.when b m) fun _ => True := by
  cases b with
  | true => exact hm
  | false => exact pure trivial

theorem onRight {m : Action σ ε η α} (hm : Yields m Q) :
    Yields (Action.onRight m : Action (τ × σ) ε η α) Q := fun s => hm s.2

theorem ne_panicked {m : Action σ ε η α} (hm : Yields m Q) (s : σ) :
    (m s).outcome ≠ .panicked := by
  intro h
  have := hm s
  rw [h] at this
  exact this

theorem of_returned {m : Action σ ε η α} (hm : Yields m Q) {s : σ} {a : α}
    (h : (m s).outcome = .returned a) : Q a := by
  have := hm s
  rw [h] at this
  exact this

end Yields

/-- Every failure of the action satisfies `φ`. -/
def Fails (m : Action σ ε η α) (φ : ε → Prop) : Prop :=
  ∀ s e, (m s).outcome = .failed e → φ e

namespace Fails

variable {φ : ε → Prop}

theorem fail {e : ε} (h : φ e) : Fails (Action.fail e : Action σ ε η α) φ := by
  intro s e' he
  cases he
  exact h

theorem ofExcept {x : Except ε α} (h : ∀ e, x = .error e → φ e) :
    Fails (Action.ofExcept x : Action σ ε η α) φ := by
  cases x with
  | ok a =>
    intro s e he
    cases he
  | error e => exact fail (h e rfl)

theorem of_returns {m : Action σ ε η α} (h : ∀ s e, (m s).outcome ≠ .failed e) : Fails m φ :=
  fun s e he => absurd he (h s e)

theorem bind {m : Action σ ε η α} {f : α → Action σ ε η β} (hm : Fails m φ)
    (hf : ∀ a, Fails (f a) φ) : Fails (m >>= f) φ := by
  intro s e he
  rw [Action.bind_apply] at he
  cases ho : (m s).outcome with
  | returned a =>
    rw [Execution.follow, ho] at he
    exact hf a _ e he
  | failed e' =>
    rw [Execution.follow, ho] at he
    cases he
    exact hm s e ho
  | panicked =>
    rw [Execution.follow, ho] at he
    cases he

theorem attempt_bind {m : Action σ ε η α} {f : Except ε α → Action σ ε η β} (hm : Fails m φ)
    (ok : ∀ a, Fails (f (.ok a)) φ) (error : ∀ e, φ e → Fails (f (.error e)) φ) :
    Fails (m.attempt >>= f) φ := by
  intro s e he
  rw [Action.bind_apply] at he
  cases ho : (m s).outcome with
  | returned a =>
    rw [Action.attempt_of_returned ho] at he
    exact ok a _ e he
  | failed e' =>
    rw [Action.attempt_of_failed ho] at he
    exact error e' (hm s e' ho) _ e he
  | panicked =>
    simp only [Action.attempt, ho] at he
    cases he

theorem onRight {m : Action σ ε η α} (hm : Fails m φ) :
    Fails (Action.onRight m : Action (τ × σ) ε η α) φ := fun s => hm s.2

end Fails

/-- Every event, with what happened before it, satisfies `φ`; `log` is what had
happened already. -/
def Throughout (φ : List η → η → Prop) : List η → List η → Prop
  | _, [] => True
  | log, e :: es => φ log e ∧ Throughout φ (log ++ [e]) es

@[simp] theorem throughout_nil {φ : List η → η → Prop} (log : List η) : Throughout φ log [] :=
  trivial

theorem throughout_append {φ : List η → η → Prop} (log es fs : List η) :
    Throughout φ log (es ++ fs) ↔ Throughout φ log es ∧ Throughout φ (log ++ es) fs := by
  induction es generalizing log with
  | nil => simp
  | cons e es ih =>
    simp only [List.cons_append, Throughout, ih, and_assoc, List.append_assoc, List.nil_append]

theorem Throughout.getElem {φ : List η → η → Prop} {log es : List η} (h : Throughout φ log es)
    (i : Nat) (hi : i < es.length) : φ (log ++ es.take i) es[i] := by
  induction es generalizing log i with
  | nil => cases hi
  | cons e es ih =>
    cases i with
    | zero => simpa using h.1
    | succ i => simpa using ih h.2 i (Nat.lt_of_succ_lt_succ hi)

theorem Throughout.imp {φ ψ : List η → η → Prop} (h : ∀ log e, φ log e → ψ log e) {log es : List η}
    (hes : Throughout φ log es) : Throughout ψ log es := by
  induction es generalizing log with
  | nil => trivial
  | cons e es ih => exact ⟨h log e hes.1, ih hes.2⟩

theorem throughout_of_forall {φ : List η → η → Prop} {es : List η}
    (h : ∀ e ∈ es, ∀ log, φ log e) (log : List η) : Throughout φ log es := by
  induction es generalizing log with
  | nil => trivial
  | cons e es ih =>
    exact ⟨h e List.mem_cons_self log, ih (fun x hx => h x (.tail _ hx)) _⟩

/-- The postcondition of one execution. -/
def Ensures (m : Action σ ε η α) (s : σ) (Q : Outcome ε α → σ → List η → Prop) : Prop :=
  Q (m s).outcome (m s).state (m s).events

theorem Ensures.mono {m : Action σ ε η α} {s : σ} {Q R : Outcome ε α → σ → List η → Prop}
    (h : Ensures m s Q) (hQR : ∀ o s' es, Q o s' es → R o s' es) : Ensures m s R :=
  hQR _ _ _ h

/-- The rule of sequencing: a failure or a panic of the first part must already
satisfy the postcondition of the whole. -/
theorem Ensures.bind {m : Action σ ε η α} {f : α → Action σ ε η β} {s : σ}
    {R : Outcome ε α → σ → List η → Prop} {Q : Outcome ε β → σ → List η → Prop}
    (h : Ensures m s R)
    (returned : ∀ a s' es, R (.returned a) s' es →
      Ensures (f a) s' (fun o s'' fs => Q o s'' (es ++ fs)))
    (failed : ∀ e s' es, R (.failed e) s' es → Q (.failed e) s' es)
    (panicked : ∀ s' es, R .panicked s' es → Q .panicked s' es) :
    Ensures (m >>= f) s Q := by
  unfold Ensures at h ⊢
  rcases hm : m s with ⟨o, s', es⟩
  rw [hm] at h
  rw [Action.bind_apply, hm]
  cases o with
  | returned a => exact returned a s' es h
  | failed e => exact failed e s' es h
  | panicked => exact panicked s' es h

end Effects
