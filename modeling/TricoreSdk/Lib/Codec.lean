import Mathlib.Logic.Basic
import Mathlib.Tactic.Common

/-! Decoders that accept what an encoder makes and nothing else, and how they are built from one
another: lists, pairs, and values that may be absent. -/

namespace Codec

variable {V W E α β : Type}

/-- What `decode` accepts as a value is exactly what `encode` makes of it. -/
def Exact (decode : V → Except E α) (encode : α → V) : Prop :=
  ∀ v a, decode v = .ok a ↔ v = encode a

namespace Exact

variable {decode : V → Except E α} {encode : α → V}

theorem decode_encode (exact : Exact decode encode) (a : α) : decode (encode a) = .ok a :=
  (exact _ _).mpr rfl

theorem injective (exact : Exact decode encode) : Function.Injective encode := by
  intro a b same
  have read := exact.decode_encode b
  rw [← same, exact.decode_encode a] at read
  exact Except.ok.inj read

theorem mapM (exact : Exact decode encode) :
    Exact (fun vs : List V => vs.mapM decode) (fun as => as.map encode) := by
  intro vs
  induction vs with
  | nil =>
    intro as
    cases as with
    | nil => exact ⟨fun _ => rfl, fun _ => rfl⟩
    | cons a as => exact ⟨nofun, nofun⟩
  | cons v vs ih =>
    intro as
    simp only [List.mapM_cons]
    cases first : decode v with
    | error e =>
      refine ⟨nofun, fun made => ?_⟩
      cases as with
      | nil => cases made
      | cons a as =>
        obtain ⟨made, -⟩ := List.cons.inj made
        cases first.symm.trans ((exact _ _).mpr made)
    | ok a =>
      obtain rfl := (exact _ _).mp first
      cases rest : vs.mapM decode with
      | error e =>
        refine ⟨nofun, fun made => ?_⟩
        cases as with
        | nil => cases made
        | cons a' as =>
          obtain ⟨-, made⟩ := List.cons.inj made
          cases rest.symm.trans ((ih _).mpr made)
      | ok as' =>
        obtain rfl := (ih _).mp rest
        constructor
        · intro read
          cases read
          rfl
        · intro made
          cases as with
          | nil => cases made
          | cons b bs =>
            obtain ⟨same, more⟩ := List.cons.inj made
            obtain rfl := exact.injective same
            cases rest.symm.trans ((ih _).mpr more)
            rfl

theorem both (exact : Exact decode encode) {decode' : W → Except E β} {encode' : β → W}
    (exact' : Exact decode' encode') :
    Exact (fun vw : V × W => do return (← decode vw.1, ← decode' vw.2))
      (fun ab => (encode ab.1, encode' ab.2)) := by
  rintro ⟨v, w⟩ ⟨a, b⟩
  rw [Prod.mk.injEq, ← exact v a, ← exact' w b]
  dsimp only
  cases decode v with
  | error e => exact ⟨nofun, nofun⟩
  | ok a' =>
    cases decode' w with
    | error e => exact ⟨nofun, nofun⟩
    | ok b' =>
      constructor
      · intro read
        cases read
        exact ⟨rfl, rfl⟩
      · rintro ⟨⟨⟩, ⟨⟩⟩
        rfl

theorem optional (exact : Exact decode encode) {absent : V → Bool} {nothing : V}
    (isAbsent : ∀ v, absent v = true ↔ v = nothing) (apart : ∀ a, encode a ≠ nothing) :
    Exact (fun v => if absent v then .ok none else (decode v).map some)
      (fun o : Option α => o.elim nothing encode) := by
  intro v o
  dsimp only
  by_cases h : absent v = true
  · obtain rfl := (isAbsent v).mp h
    rw [if_pos h]
    cases o with
    | none => exact ⟨fun _ => rfl, fun _ => rfl⟩
    | some a => exact ⟨nofun, fun made => absurd made.symm (apart a)⟩
  · have present : v ≠ nothing := fun made => h ((isAbsent v).mpr made)
    rw [if_neg h]
    cases o with
    | none =>
      refine ⟨fun read => ?_, fun made => absurd made present⟩
      cases d : decode v with
      | error e => rw [d] at read; cases read
      | ok a => rw [d] at read; cases read
    | some a =>
      rw [Option.elim_some, ← exact v a]
      cases decode v with
      | error e => exact ⟨nofun, nofun⟩
      | ok a' =>
        constructor
        · intro read
          cases read
          rfl
        · rintro ⟨⟩
          rfl

end Exact

/-! ## Lists read item by item -/

theorem mapM_error {f : V → Except E α} {xs : List V} {e : E}
    (h : xs.mapM f = .error e) : ∃ x ∈ xs, f x = .error e := by
  induction xs with
  | nil => cases h
  | cons x xs ih =>
    rw [List.mapM_cons] at h
    cases hx : f x with
    | error e' =>
      rw [hx] at h
      cases h
      exact ⟨x, by simp, hx⟩
    | ok y =>
      rw [hx] at h
      cases hxs : xs.mapM f with
      | error e' =>
        rw [hxs] at h
        cases h
        obtain ⟨x', hm, hf⟩ := ih hxs
        exact ⟨x', List.mem_cons_of_mem _ hm, hf⟩
      | ok ys =>
        rw [hxs] at h
        cases h

theorem mapM_map_some {read : V → Option α} {write : α → V} {as : List α}
    (back : ∀ a ∈ as, read (write a) = some a) : (as.map write).mapM read = some as := by
  induction as with
  | nil => rfl
  | cons a as ih =>
    rw [List.map_cons, List.mapM_cons, back a List.mem_cons_self,
      ih fun x hx => back x (.tail _ hx)]
    rfl

theorem mapM_ok {f : V → Except E α} {xs : List V} {ys : List α}
    (h : xs.mapM f = .ok ys) : ∀ x ∈ xs, ∃ y, f x = .ok y := by
  induction xs generalizing ys with
  | nil =>
    intro x hx
    cases hx
  | cons x xs ih =>
    rw [List.mapM_cons] at h
    cases hx : f x with
    | error e =>
      rw [hx] at h
      cases h
    | ok y =>
      rw [hx] at h
      cases hxs : xs.mapM f with
      | error e =>
        rw [hxs] at h
        cases h
      | ok ys' =>
        intro x' hm
        rcases List.mem_cons.mp hm with rfl | hm
        · exact ⟨y, hx⟩
        · exact ih hxs x' hm

end Codec
