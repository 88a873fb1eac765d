import TricoreSdk.Secrecy
import TricoreSdk.RequestIds
import TricoreSdk.LeaderAddress

/-! The hosts that keep a record beside the world. What they record changes nothing
of what a client does. -/

namespace TricoreSdk
open Effects

section

variable {ω ν α : Type} {T : Twofold} {H : Host ω} {K : Host ν} {W : ω → ν → Prop}

theorem Twofold.Happens.eq (same : T.left = T.right) {e e' : Event} (h : T.Happens e e') : e = e' := by
  cases h with
  | same => rfl
  | auth transport user hu => rw [same]

theorem Proc.blind_of_same (same : T.left = T.right) (work : Proc α) : work.Blind T := by
  induction work with
  | done result => trivial
  | panic => trivial
  | call c next ih => exact ih
  | look next ih =>
    refine fun c => ⟨ih c, fun c' twins => ?_⟩
    cases twins with
    | mk o ho =>
      obtain ⟨-, secret, rfl⟩ := ho
      rw [← same, ← secret]

theorem lifetime_alike (options : Options)
    (alike : HostsAlike ⟨options.user, options.secret, options.secret⟩ H K W) (work : Proc α)
    {p : Process ω} {q : Process ν} (processes : ProcessesAlike W p q) :
    (lifetime H options work p).outcome = (lifetime K options work q).outcome ∧
      (lifetime H options work p).events = (lifetime K options work q).events ∧
      ProcessesAlike W (lifetime H options work p).state (lifetime K options work q).state := by
  obtain ⟨ends, events, states⟩ := lifetime_secret options options.secret alike
    (Proc.blind_of_same rfl work) processes
  refine ⟨ends, List.forall₂_eq_eq_eq ▸ events.imp fun _ _ h => h.eq rfl, states⟩

/-- A world and the same world with something beside it. -/
def Beheld {κ : Type} (w : ω) (v : ω × κ) : Prop := v.1 = w

theorem alike_recorded (options : Options) :
    HostsAlike ⟨options.user, options.secret, options.secret⟩ H H.recorded Beheld := by
  constructor
  case fits => exact fun user _ => .refl (fun _ => trivial) _
  case send =>
    rintro t tag payload payload' h w v rfl
    cases h <;> exact ⟨rfl, rfl⟩
  case serde | processId => rfl
  all_goals
    intros
    rename_i beheld
    obtain rfl : _ = _ := beheld
    first | rfl | exact ⟨rfl, rfl⟩

theorem alike_traced (options : Options) :
    HostsAlike ⟨options.user, options.secret, options.secret⟩ H H.traced Beheld := by
  constructor
  case fits => exact fun user _ => .refl (fun _ => trivial) _
  case send =>
    rintro t tag payload payload' h w v rfl
    cases h <;> exact ⟨rfl, rfl⟩
  case serde | processId => rfl
  all_goals
    intros
    rename_i beheld
    obtain rfl : _ = _ := beheld
    first | rfl | exact ⟨rfl, rfl⟩

theorem lifetime_recorded (H : Host ω) (options : Options) (work : Proc α)
    (p : Process (ω × List UInt64)) :
    (lifetime H options work ⟨p.sequence, p.opened, p.world.1⟩).outcome =
        (lifetime H.recorded options work p).outcome ∧
      (lifetime H options work ⟨p.sequence, p.opened, p.world.1⟩).events =
        (lifetime H.recorded options work p).events := by
  obtain ⟨ends, events, -⟩ := lifetime_alike options (alike_recorded (H := H) options) work
    (p := ⟨p.sequence, p.opened, p.world.1⟩) (q := p) ⟨rfl, rfl, rfl⟩
  exact ⟨ends, events⟩

theorem lifetime_traced (H : Host ω) (options : Options) (work : Proc α)
    (p : Process (ω × Targets)) :
    (lifetime H options work ⟨p.sequence, p.opened, p.world.1⟩).outcome =
        (lifetime H.traced options work p).outcome ∧
      (lifetime H options work ⟨p.sequence, p.opened, p.world.1⟩).events =
        (lifetime H.traced options work p).events := by
  obtain ⟨ends, events, -⟩ := lifetime_alike options (alike_traced (H := H) options) work
    (p := ⟨p.sequence, p.opened, p.world.1⟩) (q := p) ⟨rfl, rfl, rfl⟩
  exact ⟨ends, events⟩

end

end TricoreSdk
