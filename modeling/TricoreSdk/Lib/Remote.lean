import Mathlib.Logic.Relation

/-! Objects behind a line. A program calls the object; when the line breaks, the call under way is
left adrift: it may still be done, later or never, and at most once. -/

namespace Remote
open Relation

universe u v w

/-- An object: what a call may be answered and make of the state, and what others may make of it. -/
structure Object (Q : Type u) (A : Q → Type v) (σ : Type w) where
  does : (q : Q) → σ → A q → σ → Prop
  others : σ → σ → Prop

/-- The state of an object, and the calls no one waits for any more. -/
structure Site (Q : Type u) (σ : Type w) where
  state : σ
  adrift : List Q

/-- A program of calls, by what becomes of each: an answer, or a fault. -/
inductive Prog {Q : Type u} (A : Q → Type v) (ε ρ : Type v) : Type (max u v)
  | done (result : ρ)
  | call (q : Q) (next : ε ⊕ A q → Prog A ε ρ)

/-- Which faults tell that a call was not done, which leave it open, and which tell that the line
was down before. -/
structure Faults (Q : Type u) (ε : Type v) where
  spared : Q → ε → Prop
  doubtful : ε → Prop
  dead : ε → Prop

section

variable {Q : Type u} {A : Q → Type v} {σ : Type w} {ε ρ : Type v} (O : Object Q A σ)

/-! ## What happens without a caller -/

/-- Others act, or a call that is adrift is done after all, or is lost. -/
inductive Drift : Site Q σ → Site Q σ → Prop
  | others {s s' : σ} (h : O.others s s') (adrift : List Q) : Drift ⟨s, adrift⟩ ⟨s', adrift⟩
  | late {q : Q} {s s' : σ} {a : A q} (h : O.does q s a s') (front back : List Q) :
    Drift ⟨s, front ++ q :: back⟩ ⟨s', front ++ back⟩
  | lost (s : σ) (front : List Q) (q : Q) (back : List Q) :
    Drift ⟨s, front ++ q :: back⟩ ⟨s, front ++ back⟩

abbrev Drifts : Site Q σ → Site Q σ → Prop := ReflTransGen (Drift O)

variable {O}

theorem Drift.cons {w w' : Site Q σ} (h : Drift O w w') (q : Q) :
    Drift O ⟨w.state, q :: w.adrift⟩ ⟨w'.state, q :: w'.adrift⟩ := by
  cases h with
  | others h adrift => exact .others h (q :: adrift)
  | late h front back => exact .late h (q :: front) back
  | lost s front q' back => exact .lost s (q :: front) q' back

theorem Drifts.cons {w w' : Site Q σ} (h : Drifts O w w') (q : Q) :
    Drifts O ⟨w.state, q :: w.adrift⟩ ⟨w'.state, q :: w'.adrift⟩ := by
  induction h with
  | refl => exact .refl
  | tail _ step ih => exact ih.tail (step.cons q)

/-! ## Calls and runs -/

/-- What becomes of a call on a line that is up, or not: the fault or the answer it ends with, the
answers it gives, and the calls it leaves adrift. -/
inductive Called (O : Object Q A σ) (F : Faults Q ε) (q : Q) :
    Bool × Site Q σ → ε ⊕ A q → List (Sigma A) → List Q → Bool × Site Q σ → Prop
  | answered {w w' : Site Q σ} {s s' : σ} {adrift : List Q} {a : A q}
    (before : Drifts O w ⟨s, adrift⟩) (done : O.does q s a s')
    (after : Drifts O ⟨s', adrift⟩ w') : Called O F q (true, w) (.inr a) [⟨q, a⟩] [] (true, w')
  | spared {w w' : Site Q σ} {e : ε} (told : F.spared q e) (drifts : Drifts O w w') :
    Called O F q (true, w) (.inl e) [] [] (true, w')
  | parted {w w' : Site Q σ} {e : ε} (told : F.doubtful e)
    (drifts : Drifts O ⟨w.state, q :: w.adrift⟩ w') :
    Called O F q (true, w) (.inl e) [] [q] (false, w')
  | gone (w : Site Q σ) {e : ε} (told : F.dead e) :
    Called O F q (false, w) (.inl e) [] [] (false, w)

theorem Called.before {F : Faults Q ε} {q : Q} {w w₁ : Site Q σ} {o : ε ⊕ A q}
    {answers : List (Sigma A)} {open_ : List Q} {x : Bool × Site Q σ} (drifts : Drifts O w w₁)
    (h : Called O F q (true, w₁) o answers open_ x) : Called O F q (true, w) o answers open_ x := by
  cases h with
  | answered first done last => exact .answered (drifts.trans first) done last
  | spared told rest => exact .spared told (drifts.trans rest)
  | parted told rest => exact .parted told ((drifts.cons q).trans rest)

/-- A program run on a line: which calls were answered, in order, and which were left adrift. -/
inductive Runs (O : Object Q A σ) (F : Faults Q ε) :
    Prog A ε ρ → Bool × Site Q σ → List (Sigma A) → List Q → ρ → Bool × Site Q σ → Prop
  | done (result : ρ) (x : Bool × Site Q σ) : Runs O F (.done result) x [] [] result x
  | call {q : Q} {next : ε ⊕ A q → Prog A ε ρ} {x y z : Bool × Site Q σ} {o : ε ⊕ A q}
    {answers answers' : List (Sigma A)} {open_ open' : List Q} {result : ρ}
    (first : Called O F q x o answers open_ y) (rest : Runs O F (next o) y answers' open' result z) :
    Runs O F (.call q next) x (answers ++ answers') (open_ ++ open') result z

theorem Runs.of_down {F : Faults Q ε} {p : Prog A ε ρ} {w : Site Q σ} {answers : List (Sigma A)}
    {open_ : List Q} {result : ρ} {x : Bool × Site Q σ}
    (h : Runs O F p (false, w) answers open_ result x) :
    answers = [] ∧ open_ = [] ∧ x = (false, w) := by
  generalize down : (false, w) = y at h
  induction h with
  | done result y => exact ⟨rfl, rfl, rfl⟩
  | call first rest ih =>
    subst down
    cases first with
    | gone w told => exact ih rfl

/-! ## Histories -/

/-- A call that was done and its answer, or a deed of others. -/
inductive Mark (A : Q → Type v)
  | call (q : Q) (a : A q)
  | other

def Mark.own : Mark A → Option (Sigma A)
  | call q a => some ⟨q, a⟩
  | other => none

def calls (h : List (Mark A)) : List (Sigma A) := h.filterMap Mark.own

/-- What is done one after the other. -/
inductive History (O : Object Q A σ) : List (Mark A) → σ → σ → Prop
  | nil (s : σ) : History O [] s s
  | call {q : Q} {a : A q} {s s' s'' : σ} {h : List (Mark A)} (done : O.does q s a s')
    (rest : History O h s' s'') : History O (.call q a :: h) s s''
  | other {s s' s'' : σ} {h : List (Mark A)} (done : O.others s s') (rest : History O h s' s'') :
    History O (.other :: h) s s''

theorem History.append {h h' : List (Mark A)} {s s' s'' : σ} (first : History O h s s')
    (second : History O h' s' s'') : History O (h ++ h') s s'' := by
  induction first with
  | nil => exact second
  | call done _ ih => exact .call done (ih second)
  | other done _ ih => exact .other done (ih second)

theorem calls_append (h h' : List (Mark A)) : calls (h ++ h') = calls h ++ calls h' :=
  List.filterMap_append

theorem Drifts.of_none {w w' : Site Q σ} (h : Drifts O w w') (none_adrift : w.adrift = []) :
    w'.adrift = [] ∧ ∃ marks, History O marks w.state w'.state ∧ calls marks = [] := by
  induction h with
  | refl => exact ⟨none_adrift, [], .nil _, rfl⟩
  | tail _ step ih =>
    obtain ⟨none_adrift, marks, history, own⟩ := ih
    cases step with
    | others done adrift =>
      refine ⟨none_adrift, marks ++ [.other], history.append (.other done (.nil _)), ?_⟩
      rw [calls_append, own]
      rfl
    | late done front back => simp at none_adrift
    | lost s front q back => simp at none_adrift

theorem Drifts.of_one {w w' : Site Q σ} (h : Drifts O w w') {q : Q} (one : w.adrift = [q]) :
    ∃ marks, History O marks w.state w'.state ∧
      (w'.adrift = [q] ∧ calls marks = [] ∨
        w'.adrift = [] ∧ (calls marks = [] ∨ ∃ a, calls marks = [⟨q, a⟩])) := by
  induction h with
  | refl => exact ⟨[], .nil _, .inl ⟨one, rfl⟩⟩
  | tail _ step ih =>
    obtain ⟨marks, history, own⟩ := ih
    cases step with
    | others done adrift =>
      refine ⟨marks ++ [.other], history.append (.other done (.nil _)), ?_⟩
      have same : calls (marks ++ [.other]) = calls marks := by
        rw [calls_append]
        exact List.append_nil _
      rwa [same]
    | @late q' s s' a done front back =>
      rcases own with ⟨still, own⟩ | ⟨none_adrift, -⟩
      · obtain ⟨rfl, rfl, rfl⟩ : front = [] ∧ q' = q ∧ back = [] := by
          simpa [List.append_eq_singleton_iff] using still
        refine ⟨marks ++ [.call q' a], history.append (.call done (.nil _)), .inr ⟨rfl, .inr ⟨a, ?_⟩⟩⟩
        rw [calls_append, own]
        rfl
      · simp at none_adrift
    | lost s front q' back =>
      rcases own with ⟨still, own⟩ | ⟨none_adrift, -⟩
      · obtain ⟨rfl, rfl, rfl⟩ : front = [] ∧ q' = q ∧ back = [] := by
          simpa [List.append_eq_singleton_iff] using still
        exact ⟨marks, history, .inr ⟨rfl, .inl own⟩⟩
      · simp at none_adrift

/-- What a run on a line does to the object: the calls that were answered, in order and with their
answers, and after them perhaps the one call that was left adrift. -/
theorem Runs.history {F : Faults Q ε} {p : Prog A ε ρ} {w : Site Q σ} {answers : List (Sigma A)}
    {open_ : List Q} {result : ρ} {x : Bool × Site Q σ}
    (h : Runs O F p (true, w) answers open_ result x) (none_adrift : w.adrift = []) :
    ∃ marks, History O marks w.state x.2.state ∧
      (x.1 = true ∧ open_ = [] ∧ x.2.adrift = [] ∧ calls marks = answers ∨
        ∃ q, x.1 = false ∧ open_ = [q] ∧
          (calls marks = answers ∨ x.2.adrift = [] ∧ ∃ a, calls marks = answers ++ [⟨q, a⟩])) := by
  generalize up : (true, w) = y at h
  induction h generalizing w with
  | done result y =>
    subst up
    exact ⟨[], .nil _, .inl ⟨rfl, rfl, none_adrift, rfl⟩⟩
  | @call q next x y z o answers answers' open_ open' result first rest ih =>
    subst up
    cases first with
    | @answered _ w' s s' adrift a before done after =>
      obtain ⟨empty, marks, first, none_own⟩ := before.of_none none_adrift
      obtain ⟨empty', marks', last, none_own'⟩ := after.of_none empty
      obtain ⟨later, history, ends⟩ := ih empty' rfl
      refine ⟨marks ++ .call q a :: (marks' ++ later),
        first.append (.call done (last.append history)), ?_⟩
      have own : calls (marks ++ .call q a :: (marks' ++ later)) = ⟨q, a⟩ :: calls later := by
        rw [calls_append, none_own]
        change ⟨q, a⟩ :: calls (marks' ++ later) = _
        rw [calls_append, none_own']
        rfl
      rw [own]
      simpa using ends
    | spared told drifts =>
      obtain ⟨empty, marks, first, none_own⟩ := drifts.of_none none_adrift
      obtain ⟨later, history, ends⟩ := ih empty rfl
      refine ⟨marks ++ later, first.append history, ?_⟩
      rwa [calls_append, none_own]
    | parted told drifts =>
      -- The line is down now: what else happens is up to the call adrift and to others.
      obtain ⟨rfl, rfl, rfl⟩ := rest.of_down
      obtain ⟨marks, history, own⟩ := drifts.of_one (congrArg (q :: ·) none_adrift)
      refine ⟨marks, history, .inr ⟨q, rfl, rfl, ?_⟩⟩
      rcases own with ⟨-, own⟩ | ⟨empty, own | own⟩
      · exact .inl own
      · exact .inl own
      · exact .inr ⟨empty, own⟩

/-! ## Many lines -/

/-- What happens at an object that many call at once: which calls were answered, in order, and which
were left adrift. -/
inductive Traffic (O : Object Q A σ) :
    Site Q σ → List (Sigma A) → List Q → Site Q σ → Prop
  | drifts {w w' : Site Q σ} (h : Drifts O w w') : Traffic O w [] [] w'
  | answered {w w' : Site Q σ} {q : Q} {a : A q} {s s' : σ} {adrift : List Q}
    (before : Drifts O w ⟨s, adrift⟩) (done : O.does q s a s') (after : Drifts O ⟨s', adrift⟩ w') :
    Traffic O w [⟨q, a⟩] [] w'
  | left {w w' : Site Q σ} {q : Q} (h : Drifts O ⟨w.state, q :: w.adrift⟩ w') : Traffic O w [] [q] w'
  | trans {w w₁ w' : Site Q σ} {answers answers' : List (Sigma A)} {open_ open' : List Q}
    (first : Traffic O w answers open_ w₁) (rest : Traffic O w₁ answers' open' w') :
    Traffic O w (answers ++ answers') (open_ ++ open') w'

/-- What the traffic so far amounts to: the calls that were answered, in order and with their
answers, and some of those that were left adrift, each of them once. -/
def Accounts (O : Object Q A σ) (start : σ) (answers : List (Sigma A)) (open_ : List Q)
    (w : Site Q σ) : Prop :=
  ∃ marks late lost, History O marks start w.state ∧ answers.Sublist (calls marks) ∧
    (calls marks).Perm (answers ++ late) ∧ (late.map Sigma.fst ++ lost ++ w.adrift).Perm open_

namespace Accounts

variable {start : σ} {answers : List (Sigma A)} {open_ : List Q} {w w' : Site Q σ}

theorem initial (none_adrift : w.adrift = []) : Accounts O w.state [] [] w :=
  ⟨[], [], [], .nil _, .slnil, .nil, by rw [none_adrift]; exact .nil⟩

theorem drift (h : Accounts O start answers open_ w) (step : Drift O w w') :
    Accounts O start answers open_ w' := by
  obtain ⟨marks, late, lost, history, order, all, rest⟩ := h
  cases step with
  | others done adrift =>
    have same : calls (marks ++ [.other]) = calls marks := by
      rw [calls_append]
      exact List.append_nil _
    refine ⟨marks ++ [.other], late, lost, history.append (.other done (.nil _)), ?_, ?_, rest⟩
    · rwa [same]
    · rwa [same]
  | @late q s s' a done front back =>
    have own : calls (marks ++ [.call q a]) = calls marks ++ [⟨q, a⟩] := calls_append _ _
    refine ⟨marks ++ [.call q a], late ++ [⟨q, a⟩], lost, history.append (.call done (.nil _)),
      ?_, ?_, ?_⟩
    · rw [own]
      exact order.trans (List.sublist_append_left _ _)
    · rw [own, ← List.append_assoc]
      exact all.append_right _
    · refine List.Perm.trans ?_ rest
      rw [List.map_append, List.map_singleton, List.append_assoc, List.append_assoc,
        List.append_assoc]
      refine List.Perm.append_left _ ?_
      rw [List.singleton_append, ← List.append_assoc, ← List.append_assoc]
      exact List.perm_middle.symm
  | lost s front q back =>
    refine ⟨marks, late, lost ++ [q], history, order, all, List.Perm.trans ?_ rest⟩
    rw [List.append_assoc, List.append_assoc, List.append_assoc]
    refine List.Perm.append_left _ (List.Perm.append_left _ ?_)
    change (q :: (front ++ back)).Perm (front ++ q :: back)
    exact List.perm_middle.symm

theorem drifts (h : Accounts O start answers open_ w) (rest : Drifts O w w') :
    Accounts O start answers open_ w' := by
  induction rest with
  | refl => exact h
  | tail _ step ih => exact ih.drift step

theorem answered (h : Accounts O start answers open_ w) {q : Q} {a : A q} {s : σ}
    (done : O.does q w.state a s) : Accounts O start (answers ++ [⟨q, a⟩]) open_ ⟨s, w.adrift⟩ := by
  obtain ⟨marks, late, lost, history, order, all, rest⟩ := h
  have own : calls (marks ++ [.call q a]) = calls marks ++ [⟨q, a⟩] := calls_append _ _
  refine ⟨marks ++ [.call q a], late, lost, history.append (.call done (.nil _)), ?_, ?_, rest⟩
  · rw [own]
    exact order.append_right _
  · rw [own, List.append_assoc]
    refine (all.append_right _).trans ?_
    rw [List.append_assoc]
    exact List.perm_append_comm.append_left _

theorem left (h : Accounts O start answers open_ w) (q : Q) :
    Accounts O start answers (open_ ++ [q]) ⟨w.state, q :: w.adrift⟩ := by
  obtain ⟨marks, late, lost, history, order, all, rest⟩ := h
  refine ⟨marks, late, lost, history, order, all, ?_⟩
  refine List.perm_middle.trans ?_
  exact (rest.cons q).trans (List.perm_append_singleton q open_).symm

theorem traffic (h : Accounts O start answers open_ w) {answers' : List (Sigma A)} {open' : List Q}
    (next : Traffic O w answers' open' w') :
    Accounts O start (answers ++ answers') (open_ ++ open') w' := by
  induction next generalizing answers open_ with
  | drifts rest => simpa using h.drifts rest
  | answered before done after => simpa using ((h.drifts before).answered done).drifts after
  | left rest => simpa using (h.left _).drifts rest
  | trans first rest ih ih' => simpa using ih' (ih h)

end Accounts

/-! ## Runs without a line -/

/-- A program run at the object itself; a call may be refused before it is done. -/
inductive Local (O : Object Q A σ) (F : Faults Q ε) : Prog A ε ρ → σ → ρ → σ → Prop
  | done (result : ρ) (s : σ) : Local O F (.done result) s result s
  | other {p : Prog A ε ρ} {s s' s'' : σ} {result : ρ} (done : O.others s s')
    (rest : Local O F p s' result s'') : Local O F p s result s''
  | call {q : Q} {next : ε ⊕ A q → Prog A ε ρ} {a : A q} {s s' s'' : σ} {result : ρ}
    (done : O.does q s a s') (rest : Local O F (next (.inr a)) s' result s'') :
    Local O F (.call q next) s result s''
  | refused {q : Q} {next : ε ⊕ A q → Prog A ε ρ} {e : ε} {s s' : σ} {result : ρ}
    (told : F.spared q e) (rest : Local O F (next (.inl e)) s result s') :
    Local O F (.call q next) s result s'

theorem Local.drifts {F : Faults Q ε} {p : Prog A ε ρ} {w w' : Site Q σ} (h : Drifts O w w')
    (none_adrift : w.adrift = []) {result : ρ} {s : σ} (rest : Local O F p w'.state result s) :
    Local O F p w.state result s := by
  induction h using ReflTransGen.head_induction_on with
  | refl => exact rest
  | head step tail ih =>
    cases step with
    | others done adrift => exact .other done (ih none_adrift)
    | late done front back => simp at none_adrift
    | lost s front q back => simp at none_adrift

theorem Runs.local_of_up {F : Faults Q ε} {p : Prog A ε ρ} {w w' : Site Q σ}
    {answers : List (Sigma A)} {open_ : List Q} {result : ρ}
    (h : Runs O F p (true, w) answers open_ result (true, w')) (none_adrift : w.adrift = []) :
    Local O F p w.state result w'.state := by
  generalize up : (true, w) = x at h
  generalize still : (true, w') = y at h
  induction h generalizing w with
  | done result x =>
    subst up
    cases still
    exact .done result _
  | call first rest ih =>
    subst up
    cases first with
    | answered before done after =>
      have empty := (before.of_none none_adrift).1
      have empty' := (after.of_none empty).1
      exact .drifts before none_adrift (.call done (.drifts after empty (ih empty' rfl still)))
    | spared told drifts =>
      exact .refused told (.drifts drifts none_adrift (ih (drifts.of_none none_adrift).1 rfl still))
    | parted told drifts =>
      subst still
      cases rest.of_down.2.2

end

end Remote
