import TricoreSdk.Lib.Action
import Mathlib.Data.List.Forall2

/-! Two computations side by side. They are coupled when, from related states, they
end alike in related states, having emitted related events. Each operator keeps
couplings, so a program is coupled with another of the same shape. -/

namespace Effects

variable {σ σ' τ τ' ε η η' α α' β β' : Type}

/-- Related results; a failure is related to the same failure only. -/
inductive ExceptRel (A : α → α' → Prop) : Except ε α → Except ε α' → Prop
  | ok {a a'} (h : A a a') : ExceptRel A (.ok a) (.ok a')
  | error (e : ε) : ExceptRel A (.error e) (.error e)

inductive OutcomeRel (A : α → α' → Prop) : Outcome ε α → Outcome ε α' → Prop
  | returned {a a'} (h : A a a') : OutcomeRel A (.returned a) (.returned a')
  | failed (e : ε) : OutcomeRel A (.failed e) (.failed e)
  | panicked : OutcomeRel A .panicked .panicked

theorem ExceptRel.refl {A : α → α → Prop} (h : ∀ a, A a a) (x : Except ε α) : ExceptRel A x x := by
  cases x with
  | ok a => exact .ok (h a)
  | error e => exact .error e

theorem exceptRel_eq {x y : Except ε α} : ExceptRel Eq x y ↔ x = y := by
  constructor
  · rintro (⟨rfl⟩ | e) <;> rfl
  · rintro rfl
    exact .refl (fun _ => rfl) x

theorem outcomeRel_eq {x y : Outcome ε α} : OutcomeRel Eq x y ↔ x = y := by
  constructor
  · rintro (⟨rfl⟩ | e | -) <;> rfl
  · rintro rfl
    cases x with
    | returned a => exact .returned rfl
    | failed e => exact .failed e
    | panicked => exact .panicked

/-- Executions that end alike. -/
structure ExecutionRel (R : σ → σ' → Prop) (E : η → η' → Prop) (A : α → α' → Prop)
    (r : Execution σ ε η α) (r' : Execution σ' ε η' α') : Prop where
  outcome : OutcomeRel A r.outcome r'.outcome
  state : R r.state r'.state
  events : List.Forall₂ E r.events r'.events

/-- From related states, the two run alike. -/
def Coupled (R : σ → σ' → Prop) (E : η → η' → Prop) (A : α → α' → Prop) (m : Action σ ε η α)
    (m' : Action σ' ε η' α') : Prop :=
  ∀ s s', R s s' → ExecutionRel R E A (m s) (m' s')

namespace Coupled

variable {R : σ → σ' → Prop} {E : η → η' → Prop} {A : α → α' → Prop} {B : β → β' → Prop}

theorem pure {a : α} {a' : α'} (h : A a a') :
    Coupled R E A (pure a : Action σ ε η α) (pure a' : Action σ' ε η' α') :=
  fun _ _ hs => ⟨.returned h, hs, .nil⟩

theorem fail (e : ε) : Coupled R E A (Action.fail e : Action σ ε η α) (Action.fail e) :=
  fun _ _ hs => ⟨.failed e, hs, .nil⟩

theorem panic : Coupled R E A (Action.panic : Action σ ε η α) Action.panic :=
  fun _ _ hs => ⟨.panicked, hs, .nil⟩

theorem view {f : σ → α} {f' : σ' → α'} (h : ∀ s s', R s s' → A (f s) (f' s')) :
    Coupled R E A (Action.view f : Action σ ε η α) (Action.view f') :=
  fun s s' hs => ⟨.returned (h s s' hs), hs, .nil⟩

theorem modify {f : σ → σ} {f' : σ' → σ'} (h : ∀ s s', R s s' → R (f s) (f' s')) :
    Coupled R E Eq (Action.modify f : Action σ ε η Unit) (Action.modify f') :=
  fun s s' hs => ⟨.returned rfl, h s s' hs, .nil⟩

theorem emit {e : η} {e' : η'} (h : E e e') :
    Coupled R E Eq (Action.emit e : Action σ ε η Unit) (Action.emit e') :=
  fun _ _ hs => ⟨.returned rfl, hs, .cons h .nil⟩

theorem bind {m : Action σ ε η α} {m' : Action σ' ε η' α'} {f : α → Action σ ε η β}
    {f' : α' → Action σ' ε η' β'} (hm : Coupled R E A m m')
    (hf : ∀ a a', A a a' → Coupled R E B (f a) (f' a')) : Coupled R E B (m >>= f) (m' >>= f') := by
  intro s s' hs
  have h := hm s s' hs
  rw [Action.bind_apply, Action.bind_apply]
  generalize m s = r at h ⊢
  generalize m' s' = r' at h ⊢
  obtain ⟨o, t, es⟩ := r
  obtain ⟨o', t', es'⟩ := r'
  obtain ⟨ho, ht, hes⟩ := h
  cases ho with
  | failed e => exact ⟨.failed e, ht, hes⟩
  | panicked => exact ⟨.panicked, ht, hes⟩
  | returned ha =>
    obtain ⟨ho, hu, hfs⟩ := hf _ _ ha t t' ht
    exact ⟨ho, hu, List.rel_append hes hfs⟩

theorem attempt {m : Action σ ε η α} {m' : Action σ' ε η' α'} (hm : Coupled R E A m m') :
    Coupled R E (ExceptRel A) m.attempt m'.attempt := by
  intro s s' hs
  have h := hm s s' hs
  unfold Action.attempt
  generalize m s = r at h ⊢
  generalize m' s' = r' at h ⊢
  obtain ⟨o, t, es⟩ := r
  obtain ⟨o', t', es'⟩ := r'
  obtain ⟨ho, ht, hes⟩ := h
  cases ho with
  | returned ha => exact ⟨.returned (.ok ha), ht, hes⟩
  | failed e => exact ⟨.returned (.error e), ht, hes⟩
  | panicked => exact ⟨.panicked, ht, hes⟩

theorem observe {m : Action σ ε η α} {m' : Action σ' ε η' α'} (hm : Coupled R E A m m') :
    Coupled R E (OutcomeRel A) m.observe m'.observe :=
  fun s s' hs => ⟨.returned (hm s s' hs).outcome, (hm s s' hs).state, (hm s s' hs).events⟩

theorem ofExcept {x : Except ε α} {x' : Except ε α'} (h : ExceptRel A x x') :
    Coupled R E A (Action.ofExcept x : Action σ ε η α) (Action.ofExcept x') := by
  cases h with
  | ok h => exact pure h
  | error e => exact fail e

theorem ofOutcome {x : Outcome ε α} {x' : Outcome ε α'} (h : OutcomeRel A x x') :
    Coupled R E A (Action.ofOutcome x : Action σ ε η α) (Action.ofOutcome x') := by
  cases h with
  | returned h => exact pure h
  | failed e => exact fail e
  | panicked => exact panic

theorem when (b : Bool) {m : Action σ ε η Unit} {m' : Action σ' ε η' Unit}
    (hm : Coupled R E Eq m m') : Coupled R E Eq (Action.when b m) (Action.when b m') := by
  cases b with
  | true => exact hm
  | false => exact pure rfl

theorem onRight {Q : τ → τ' → Prop} {m : Action σ ε η α} {m' : Action σ' ε η' α'}
    (hm : Coupled R E A m m') :
    Coupled (fun s s' => Q s.1 s'.1 ∧ R s.2 s'.2) E A (Action.onRight m : Action (τ × σ) ε η α)
      (Action.onRight m' : Action (τ' × σ') ε η' α') :=
  fun s s' hs => ⟨(hm s.2 s'.2 hs.2).outcome, ⟨hs.1, (hm s.2 s'.2 hs.2).state⟩,
    (hm s.2 s'.2 hs.2).events⟩

theorem mono {m : Action σ ε η α} {m' : Action σ' ε η' α'} {C : α → α' → Prop}
    (hm : Coupled R E A m m') (h : ∀ a a', A a a' → C a a') : Coupled R E C m m' := by
  intro s s' hs
  have hr := hm s s' hs
  generalize m s = r at hr ⊢
  generalize m' s' = r' at hr ⊢
  obtain ⟨o, t, es⟩ := r
  obtain ⟨o', t', es'⟩ := r'
  obtain ⟨ho, ht, hes⟩ := hr
  cases ho with
  | returned ha => exact ⟨.returned (h _ _ ha), ht, hes⟩
  | failed e => exact ⟨.failed e, ht, hes⟩
  | panicked => exact ⟨.panicked, ht, hes⟩

theorem bind_eq {m : Action σ ε η α} {m' : Action σ' ε η' α} {f : α → Action σ ε η β}
    {f' : α → Action σ' ε η' β'} (hm : Coupled R E Eq m m') (hf : ∀ a, Coupled R E B (f a) (f' a)) :
    Coupled R E B (m >>= f) (m' >>= f') :=
  hm.bind fun a _ h => h ▸ hf a

theorem attempt_eq {m : Action σ ε η α} {m' : Action σ' ε η' α} (hm : Coupled R E Eq m m') :
    Coupled R E Eq m.attempt m'.attempt :=
  hm.attempt.mono fun _ _ => exceptRel_eq.mp

theorem observe_eq {m : Action σ ε η α} {m' : Action σ' ε η' α} (hm : Coupled R E Eq m m') :
    Coupled R E Eq m.observe m'.observe :=
  hm.observe.mono fun _ _ => outcomeRel_eq.mp

theorem ofExcept_eq (x : Except ε α) :
    Coupled R E Eq (Action.ofExcept x : Action σ ε η α) (Action.ofExcept x) :=
  ofExcept (exceptRel_eq.mpr rfl)

theorem ofOutcome_eq (x : Outcome ε α) :
    Coupled R E Eq (Action.ofOutcome x : Action σ ε η α) (Action.ofOutcome x) :=
  ofOutcome (outcomeRel_eq.mpr rfl)

end Coupled

end Effects
