import TricoreSdk.Lib.Action
import Mathlib.Logic.Function.Basic

/-! Monitors of event logs. A monitor reads a log from the front and stops at the
first event that its rules do not allow. One copy for each key follows what happens
to that key; a monitor that follows a computation is a path. -/

namespace Effects

structure Monitor (μ η : Type) where
  next : μ → η → Option μ

namespace Monitor

variable {μ η σ κ : Type}

/-- Where the monitor stands after a log, if it allows it. -/
def run (M : Monitor μ η) : μ → List η → Option μ
  | m, [] => some m
  | m, e :: es => (M.next m e).bind fun m' => M.run m' es

@[simp] theorem run_nil (M : Monitor μ η) (m : μ) : M.run m [] = some m := rfl

@[simp] theorem run_cons (M : Monitor μ η) (m : μ) (e : η) (es : List η) :
    M.run m (e :: es) = (M.next m e).bind fun m' => M.run m' es := rfl

theorem run_append (M : Monitor μ η) (m : μ) (es fs : List η) :
    M.run m (es ++ fs) = (M.run m es).bind fun m' => M.run m' fs := by
  induction es generalizing m with
  | nil => rfl
  | cons e es ih =>
    cases h : M.next m e with
    | none => simp [h]
    | some m' => simp [h, ih]

theorem run_append_of {M : Monitor μ η} {m m' m'' : μ} {es fs : List η} (h : M.run m es = some m')
    (h' : M.run m' fs = some m'') : M.run m (es ++ fs) = some m'' := by
  rw [run_append, h]
  exact h'

theorem run_of_ignored {M : Monitor μ η} {m : μ} {es : List η} (h : ∀ e ∈ es, M.next m e = some m) :
    M.run m es = some m := by
  induction es with
  | nil => rfl
  | cons e es ih =>
    rw [run_cons, h e List.mem_cons_self]
    exact ih fun x hx => h x (.tail _ hx)

/-! ## One copy for each key -/

variable [DecidableEq κ]

/-- A copy of the monitor for each key. What has no key is not looked at. -/
def each (M : Monitor μ η) (key : η → Option κ) : Monitor (κ → μ) η where
  next f e :=
    match key e with
    | none => some f
    | some k => (M.next (f k) e).map (Function.update f k)

/-- What happens to a key. -/
def project (key : η → Option κ) (k : κ) (es : List η) : List η := es.filter fun e => key e = some k

variable {M : Monitor μ η} {key : η → Option κ} {f g : κ → μ} {es : List η}

theorem project_eq_nil {k : κ} (h : ∀ e ∈ es, key e ≠ some k) : project key k es = [] :=
  List.filter_eq_nil_iff.mpr fun e he => by simpa using h e he

theorem each_next_unkeyed {e : η} (h : key e = none) : (M.each key).next f e = some f := by
  simp [each, h]

theorem each_next_keyed {e : η} {k : κ} (h : key e = some k) :
    (M.each key).next f e = (M.next (f k) e).map (Function.update f k) := by
  simp [each, h]

theorem each_next_ignored {e : η} {k : κ} (h : key e = some k) (ignored : M.next (f k) e = some (f k)) :
    (M.each key).next f e = some f := by
  rw [each_next_keyed h, ignored, Option.map_some, Function.update_eq_self]

theorem each_run_iff : (M.each key).run f es = some g ↔
    ∀ k, M.run (f k) (project key k es) = some (g k) := by
  induction es generalizing f with
  | nil => simp [project, funext_iff]
  | cons e es ih =>
    rw [run_cons]
    cases he : key e with
    | none =>
      rw [each_next_unkeyed he, Option.bind_some, ih]
      simp [project, he]
    | some k₀ =>
      have here : project key k₀ (e :: es) = e :: project key k₀ es := by simp [project, he]
      have elsewhere {k : κ} (h : k ≠ k₀) : project key k (e :: es) = project key k es := by
        simp [project, he, h.symm]
      rw [each_next_keyed he]
      cases hm : M.next (f k₀) e with
      | none =>
        refine iff_of_false (by simp) fun all => ?_
        have := all k₀
        rw [here, run_cons, hm] at this
        cases this
      | some m =>
        rw [Option.map_some, Option.bind_some, ih]
        refine forall_congr' fun k => ?_
        by_cases hk : k = k₀
        · subst hk
          rw [here, run_cons, hm, Function.update_self, Option.bind_some]
        · rw [elsewhere hk, Function.update_of_ne hk]

theorem each_run_untouched (h : (M.each key).run f es = some g) {k : κ} (free : ∀ e ∈ es, key e ≠ some k) :
    g k = f k := by
  have := each_run_iff.mp h k
  rw [project_eq_nil free] at this
  exact (Option.some.inj this).symm

theorem each_run_own {k : κ} {m : μ} (own : ∀ e ∈ es, key e = some k) (h : M.run (f k) es = some m) :
    (M.each key).run f es = some (Function.update f k m) := by
  refine each_run_iff.mpr fun k' => ?_
  by_cases hk : k' = k
  · subst hk
    have whole : project key k' es = es := List.filter_eq_self.mpr fun e he => by simpa using own e he
    rw [whole, h, Function.update_self]
  · rw [project_eq_nil fun e he => by rw [own e he]; exact fun h => hk (Option.some.inj h).symm,
      Function.update_of_ne hk, run_nil]

theorem each_run_transfer {f' : κ → μ} (h : (M.each key).run f es = some g)
    (alike : ∀ k, (∃ e ∈ es, key e = some k) → f' k = f k) :
    ∃ g', (M.each key).run f' es = some g' ∧ (∀ k, f' k = f k → g' k = g k) ∧
      ∀ k, (∀ e ∈ es, key e ≠ some k) → g' k = f' k := by
  classical
  refine ⟨fun k => if f' k = f k then g k else f' k, each_run_iff.mpr fun k => ?_, ?_, ?_⟩
  · have run := each_run_iff.mp h k
    split
    · rename_i same
      rw [same]
      exact run
    · rename_i differ
      rw [project_eq_nil fun e he hk => differ (alike k ⟨e, he, hk⟩), run_nil]
  · intro k same
    exact if_pos same
  · intro k free
    dsimp only
    split
    · rename_i same
      rw [same]
      exact each_run_untouched h free
    · rfl

omit [DecidableEq κ]

/-! ## A monitor that follows a computation -/

/-- The monitor allows what is emitted, and stays linked to the state. -/
def following (M : Monitor μ η) (link : μ → σ → Prop) : Path σ η where
  rel s es s' := ∀ m, link m s → ∃ m', M.run m es = some m' ∧ link m' s'
  refl _ m h := ⟨m, rfl, h⟩
  trans := by
    intro s s' s'' es fs h h' m hm
    obtain ⟨m', run, hm'⟩ := h m hm
    obtain ⟨m'', run', hm''⟩ := h' m' hm'
    exact ⟨m'', run_append_of run run', hm''⟩

theorem following_silent {M : Monitor μ η} {link : μ → σ → Prop} {s s' : σ}
    (h : ∀ m, link m s → link m s') : (M.following link).rel s [] s' := fun m hm => ⟨m, rfl, h m hm⟩

end Monitor

end Effects
