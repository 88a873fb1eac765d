import TricoreSdk.Call

/-! What goes on behind requests. Setting a connection up, sounding it, moving it and closing it make
no request, and what a server does meanwhile it does on its own. -/

namespace TricoreSdk
open Effects Path

/-! ## Logs -/

namespace Event

def isRequest : Event → Bool
  | .wrote _ .request _ => true
  | _ => false

/-- Every answer is read right after a frame was written on the same connection; `last` is the
connection that was written on just before. -/
def paired : Option Transport → List Event → Bool
  | _, [] => true
  | last, .answered t _ :: es => last == some t && paired none es
  | _, .wrote t _ _ :: es => paired (some t) es
  | _, _ :: es => paired none es

theorem paired_of_none {es : List Event} (h : paired none es = true) (last : Option Transport) :
    paired last es = true := by
  cases es with
  | nil => rfl
  | cons e es => cases e <;> first | exact h | simp [paired] at h

theorem paired_append {es fs : List Event} {last : Option Transport} (h : paired last es = true)
    (h' : paired none fs = true) : paired last (es ++ fs) = true := by
  induction es generalizing last with
  | nil => exact paired_of_none h' last
  | cons e es ih =>
    cases e with
    | answered t frame =>
      obtain ⟨here, rest⟩ := Bool.and_eq_true_iff.mp h
      exact Bool.and_eq_true_iff.mpr ⟨here, ih rest⟩
    | _ => exact ih h

end Event

/-- A log without requests. -/
structure Hushed (es : List Event) : Prop where
  paired : Event.paired none es = true
  unasked : ∀ e ∈ es, e.isRequest = false

namespace Hushed

theorem nil : Hushed [] := ⟨rfl, fun _ he => absurd he List.not_mem_nil⟩

theorem append {es fs : List Event} (h : Hushed es) (h' : Hushed fs) : Hushed (es ++ fs) :=
  ⟨Event.paired_append h.paired h'.paired, fun e he =>
    (List.mem_append.mp he).elim (h.unasked e) (h'.unasked e)⟩

theorem of_opening {own : Socket → Prop} {es : List Event} (h : ∀ e ∈ es, e.IsOpening own) :
    Hushed es := by
  induction es with
  | nil => exact nil
  | cons e es ih =>
    obtain ⟨here, rest⟩ := List.forall_mem_cons.mp h
    have later := ih rest
    refine ⟨?_, List.forall_mem_cons.mpr ⟨?_, later.unasked⟩⟩
    · cases e <;> first | exact later.paired | exact here.elim
    · cases e <;> first | rfl | exact here.elim

end Hushed

/-! ## The backdrop -/

section

variable {ω : Type} {H : Host ω} {R : ω → ω → Prop}

/-- What happens to the world when no request is made. -/
structure Backdrop (H : Host ω) (R : ω → ω → Prop) : Prop where
  refl : ∀ w, R w w
  trans : ∀ {w w' w''}, R w w' → R w' w'' → R w w''
  quiet : ∀ {w w'}, Quiet H w w' → R w w'
  shutdown : ∀ socket w, R w (H.shutdown socket w)
  sends : ∀ {tag}, tag ≠ .request → ∀ t payload w, R w (H.send t tag payload w).2
  receives : ∀ {tag}, tag ≠ .request → ∀ t payload w,
    R (H.send t tag payload w).2 (H.recv t (H.send t tag payload w).2).2

namespace Backdrop

variable (B : Backdrop H R)

/-- The path along which nothing is asked. -/
def path : Path (Client × Process ω) Event where
  rel s es s' := R s.2.world s'.2.world ∧ Hushed es
  refl _ := ⟨B.refl _, .nil⟩
  trans h h' := ⟨B.trans h.1 h'.1, h.2.append h'.2⟩

theorem opened {own : Socket → Prop} {c c' : Client} {p p' : Process ω} {es : List Event}
    (h : (opening H own).rel p es p') : B.path.rel (c, p) es (c', p') :=
  ⟨B.quiet h.2.1, .of_opening h.2.2⟩

theorem update (f : Client → Client) : B.path.Respects (Method.update f : Method ω Unit) :=
  fun _ => ⟨B.refl _, .nil⟩

theorem socketShutdown : B.path.Respects (transportShutdown H) := fun s =>
  ⟨B.shutdown s.1.transport.socket s.2.world, rfl, by simp [transportShutdown, Event.isRequest]⟩

theorem paused (delay : Duration) : B.path.Respects (Action.emit (.paused delay) : Method ω Unit) :=
  fun _ => ⟨B.refl _, rfl, by simp [Event.isRequest]⟩

theorem unasked {tag : Tag} (other : tag ≠ .request) (t : Transport) (payload : Option Value) :
    Event.isRequest (.wrote t tag payload) = false := by
  cases tag <;> first | rfl | exact absurd rfl other

theorem exchange {tag : Tag} (other : tag ≠ .request) (payload : Option Value) :
    B.path.Respects (TricoreSdk.exchange H tag payload) := by
  rintro ⟨c, p⟩
  have hx := exchanged H tag payload c p
  have sent := B.sends other c.transport payload p.world
  have received := B.receives other c.transport payload p.world
  have wrote := unasked other c.transport payload
  generalize TricoreSdk.exchange H tag payload (c, p) = r at hx ⊢
  cases hx with
  | faulted | closed | tooLarge => exact B.path.refl _
  | writeFailed live bytes he e w hw =>
    rw [hw] at sent
    exact ⟨B.trans sent (B.shutdown c.transport.socket w), rfl,
      List.forall_mem_cons.mpr ⟨wrote, by simp [Event.isRequest]⟩⟩
  | readFailed live bytes he e w w' hw hr =>
    rw [hw] at sent received
    rw [hr] at received
    exact ⟨B.trans (B.trans sent received) (B.shutdown c.transport.socket w'), rfl,
      List.forall_mem_cons.mpr ⟨wrote, by simp [Event.isRequest]⟩⟩
  | answered live bytes he frame w w' hw hr =>
    rw [hw] at sent received
    rw [hr] at received
    exact ⟨B.trans sent received, by simp [Event.paired],
      List.forall_mem_cons.mpr ⟨wrote, by simp [Event.isRequest]⟩⟩

theorem poison (e : Error) : B.path.Respects (TricoreSdk.poison H e) :=
  respects_poison B.socketShutdown (B.update _)

theorem goodbye : B.path.Respects (TricoreSdk.goodbye H) := by
  rintro ⟨c, p⟩
  obtain ⟨es, read, run⟩ := goodbye_apply H c p
  rw [run]
  have sent := B.sends (by decide : Tag.close ≠ .request) c.transport none p.world
  have received := B.receives (by decide : Tag.close ≠ .request) c.transport none p.world
  refine ⟨B.trans (B.trans sent received) (B.shutdown c.transport.socket _), ?_⟩
  rcases read with rfl | ⟨frame, rfl, -⟩
  · exact ⟨rfl, by simp [Event.isRequest]⟩
  · exact ⟨by simp [Event.paired], by simp [Event.isRequest]⟩

theorem readTimeout (timeout : Option Duration) : B.path.Respects (transportReadTimeout H timeout) :=
  fun s => B.opened (readDeadline_own s.1.transport.socket timeout s.2)

theorem writeTimeout (timeout : Option Duration) :
    B.path.Respects (transportWriteTimeout H timeout) :=
  fun s => B.opened (writeDeadline_own s.1.transport.socket timeout s.2)

theorem setUp : SetUpPath H B.path where
  hello := B.exchange (by decide)
  auth := B.exchange (by decide)
  poison := B.poison
  readTimeout := B.readTimeout
  writeTimeout := B.writeTimeout
  recordGrant _ := fun _ => ⟨B.refl _, rfl, by simp [recordGrant, Event.isRequest]⟩
  identified id := B.update (Client.identified id)
  withReadTimeout t := B.update (Client.withReadTimeout t)
  closeInner := respects_closeInner B.readTimeout B.writeTimeout (B.update Client.closing)
    B.socketShutdown B.goodbye

include B in
theorem connect (options : Options) (p : Process ω) :
    R p.world (TricoreSdk.connect H options p).state.world ∧
      Hushed (TricoreSdk.connect H options p).events := by
  have hc := connected (H := H) B.setUp options p
  generalize TricoreSdk.connect H options p = r at hc ⊢
  cases hc with
  | gaveUp e p' es path => exact ⟨B.quiet path.2.1, .of_opening path.2.2⟩
  | refused e t pre p₁ p' es es' c path low high rel =>
    exact ⟨B.trans (B.quiet path.2.1) rel.1, (Hushed.of_opening path.2.2).append rel.2⟩
  | shookHands t pre p₁ p' es es' fresh path low high rel shaken =>
    exact ⟨B.trans (B.quiet path.2.1) rel.1, (Hushed.of_opening path.2.2).append rel.2⟩

theorem moveTo (address : String) : B.path.Respects (TricoreSdk.moveTo H address) := by
  rintro ⟨c, p⟩
  have hm := moving (H := H) address c p
  generalize TricoreSdk.moveTo H address (c, p) = r at hm ⊢
  cases hm with
  | unreadable _ => exact B.path.refl _
  | stayed host port _ e p' es run =>
    have opened := B.connect (followOptions c.options host port) p
    rwa [run] at opened
  | moved host port _ fresh p' es run =>
    have opened := B.connect (followOptions c.options host port) p
    rw [run] at opened
    refine ⟨B.trans opened.1 (B.shutdown c.transport.socket p'.world), opened.2.append ⟨rfl, ?_⟩⟩
    simp [Event.isRequest]

end Backdrop

end

end TricoreSdk
