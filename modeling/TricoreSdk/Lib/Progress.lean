import Mathlib.Logic.Hydra
import Mathlib.Logic.Relation
import Mathlib.Order.RelClasses

/-! Tasks side by side. When a step takes one task of a list further, or none and makes a
number smaller, no run of steps goes on for ever, in whatever order the tasks are taken. -/

namespace Effects

variable {σ τ : Type} {r : τ → τ → Prop}

/-- One task of a list is taken further. -/
inductive Advances (r : τ → τ → Prop) : List τ → List τ → Prop
  | task (before after : List τ) (a b : τ) (h : r b a) :
    Advances r (before ++ b :: after) (before ++ a :: after)

theorem Advances.cutExpand {later earlier : List τ} (h : Advances r later earlier) :
    Relation.CutExpand r (later : Multiset τ) (earlier : Multiset τ) := by
  obtain ⟨before, after, a, b, h⟩ := h
  have split (x : τ) : ((before ++ x :: after : List τ) : Multiset τ) = (before ++ after : List τ) + {x} := by
    have moved : (before ++ x :: after).Perm (x :: (before ++ after)) := List.perm_middle
    rw [Multiset.coe_eq_coe.mpr moved, ← Multiset.cons_coe, add_comm, Multiset.singleton_add]
  rw [split, split]
  exact Relation.cutExpand_add_single _ h

theorem wellFounded_advances (wf : WellFounded r) : WellFounded (Advances r) :=
  Subrelation.wf (fun h => Advances.cutExpand h)
    (InvImage.wf (fun l : List τ => (l : Multiset τ)) wf.cutExpand)

/-- No run of steps goes on for ever that each take a task further, or leave every task
where it is and make a number smaller. -/
theorem wellFounded_of_advances {step : σ → σ → Prop} (wf : WellFounded r) (tasks : σ → List τ)
    (effort : σ → Nat)
    (progress : ∀ a b, step a b →
      Advances r (tasks b) (tasks a) ∨ tasks b = tasks a ∧ effort b < effort a) :
    WellFounded fun b a => step a b := by
  have lt : WellFounded fun m n : Nat => m < n := wellFounded_lt
  refine Subrelation.wf (fun {b a} h => ?_)
    (InvImage.wf (fun s => (tasks s, effort s)) ((wellFounded_advances wf).prod_lex lt))
  rcases progress a b h with further | ⟨same, less⟩
  · exact .left _ _ further
  · simp only [InvImage, same]
    exact .right _ less

theorem exists_last {step : σ → σ → Prop} {s : σ} (h : Acc (fun b a => step a b) s) :
    ∃ last, Relation.ReflTransGen step s last ∧ ∀ next, ¬ step last next := by
  induction h with
  | intro s _ ih =>
    by_cases stuck : ∃ next, step s next
    · obtain ⟨next, hs⟩ := stuck
      obtain ⟨last, path, ends⟩ := ih next hs
      exact ⟨last, path.head hs, ends⟩
    · exact ⟨s, .refl, fun next hs => stuck ⟨next, hs⟩⟩

end Effects
