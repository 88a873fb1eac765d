import TricoreSdk.Call

/-! What a call can touch: its client's own connection and connections opened
during the call, and no other. -/

namespace TricoreSdk
open Effects Path

def Event.socket? : Event → Option Socket
  | .dialing _ _ => none
  | .tlsHandshake socket _ _ => some socket
  | .readTimeout socket _ => some socket
  | .writeTimeout socket _ => some socket
  | .wrote transport _ _ => some transport.socket
  | .answered transport _ => some transport.socket
  | .shutdown socket => some socket
  | .granted transport _ => some transport.socket
  | .moved transport => some transport.socket
  | .paused _ => none

section

variable {ω V α : Type} {H : Host ω} {view : ω → Socket → V} {s : Socket}

/-- A view of each connection by itself: frames on one do not show on another,
and what carries no frame does not show at all. -/
structure PerSocket (H : Host ω) (view : ω → Socket → V) : Prop where
  quiet : ∀ {w w'}, Quiet H w w' → view w' = view w
  send : ∀ {transport : Transport} {s : Socket}, transport.socket ≠ s → ∀ tag payload w,
    view (H.send transport tag payload w).2 s = view w s
  recv : ∀ {transport : Transport} {s : Socket}, transport.socket ≠ s → ∀ w,
    view (H.recv transport w).2 s = view w s
  shutdown : ∀ {socket s : Socket}, socket ≠ s → ∀ w, view (H.shutdown socket w) s = view w s

theorem perSocket_unit : PerSocket H fun _ _ => () := ⟨by simp, by simp, by simp, by simp⟩

/-- The path that leaves the connection `s` alone: nothing is done on it, and
what can be seen of it stays as it was. -/
def sparing (view : ω → Socket → V) (s : Socket) : Path (Client × Process ω) Event where
  rel a es b := a.2.opened ≤ b.2.opened ∧ (s < a.2.opened → a.1.transport.socket ≠ s →
    b.1.transport.socket ≠ s ∧ (∀ e ∈ es, e.socket? ≠ some s) ∧
      view b.2.world s = view a.2.world s)
  refl a := ⟨Nat.le_refl _, fun _ hs => ⟨hs, fun _ he => absurd he List.not_mem_nil, rfl⟩⟩
  trans := by
    rintro a b c es fs ⟨ho, h⟩ ⟨ho', h'⟩
    refine ⟨Nat.le_trans ho ho', fun hlt hs => ?_⟩
    obtain ⟨hs', he, hv⟩ := h hlt hs
    obtain ⟨hs'', he', hv'⟩ := h' (Nat.lt_of_lt_of_le hlt ho) hs'
    exact ⟨hs'', fun e hm => (List.mem_append.mp hm).elim (he e) (he' e), hv'.trans hv⟩

theorem sparing_own {a b : Client × Process ω} {es : List Event}
    (ho : a.2.opened ≤ b.2.opened) (ht : b.1.transport = a.1.transport)
    (he : ∀ e ∈ es, ∀ s', e.socket? = some s' → s' = a.1.transport.socket)
    (hv : a.1.transport.socket ≠ s → view b.2.world s = view a.2.world s) :
    (sparing view s).rel a es b :=
  ⟨ho, fun _ hs => ⟨ht ▸ hs, fun e hm hc => hs (he e hm s hc).symm, hv hs⟩⟩

theorem sparing_update {f : Client → Client} (ht : ∀ c, (f c).transport = c.transport) :
    (sparing view s).Respects (Method.update f : Method ω Unit) := fun a =>
  sparing_own (Nat.le_refl _) (ht a.1) (by simp) fun _ => rfl

theorem sparing_emit {e : Event} (h : e.socket? = none) :
    (sparing view s).Respects (Action.emit e : Method ω Unit) := fun a =>
  sparing_own (Nat.le_refl _) rfl (by simp [h]) fun _ => rfl

variable (hV : PerSocket H view)

include hV

theorem PerSocket.view_eq {w w' : ω} (h : Quiet H w w') : view w' s = view w s := by rw [hV.quiet h]

theorem sparing_exchange (tag : Tag) (payload : Option Value) :
    (sparing view s).Respects (exchange H tag payload) := by
  rintro ⟨c, p⟩
  have hx := exchanged H tag payload c p
  generalize exchange H tag payload (c, p) = r at hx
  have sent {w : ω} {x : Except WireError Unit}
      (hw : H.send c.transport tag payload p.world = (x, w)) (hs : c.transport.socket ≠ s) :
      view w s = view p.world s := by
    have := hV.send hs tag payload p.world
    rwa [hw] at this
  have received {w w' : ω} {x : Except WireError Frame} (hr : H.recv c.transport w = (x, w'))
      (hs : c.transport.socket ≠ s) : view w' s = view w s := by
    have := hV.recv hs w
    rwa [hr] at this
  cases hx with
  | faulted fault hf => exact (sparing view s).refl _
  | closed hf hc => exact (sparing view s).refl _
  | tooLarge live e he => exact (sparing view s).refl _
  | writeFailed live bytes he e w hw =>
    exact sparing_own (Nat.le_refl _) rfl (by simp [Event.socket?]) fun hs =>
      (hV.shutdown hs w).trans (sent hw hs)
  | readFailed live bytes he e w w' hw hr =>
    exact sparing_own (Nat.le_refl _) rfl (by simp [Event.socket?]) fun hs =>
      (hV.shutdown hs w').trans ((received hr hs).trans (sent hw hs))
  | answered live bytes he frame w w' hw hr =>
    exact sparing_own (Nat.le_refl _) rfl (by simp [Event.socket?]) fun hs =>
      (received hr hs).trans (sent hw hs)

theorem sparing_opening {c : Client} {p p' : Process ω} {es : List Event}
    (h : (opening H (· = c.transport.socket)).rel p es p') :
    (sparing view s).rel (c, p) es (c, p') := by
  refine sparing_own h.1 rfl (fun e he s' hs => ?_) fun _ => hV.view_eq h.2.1
  have := h.2.2 e he
  cases e <;> simp_all [Event.socket?, Event.IsOpening]

theorem sparing_readTimeout (timeout : Option Duration) :
    (sparing view s).Respects (transportReadTimeout H timeout) := fun a =>
  sparing_opening hV (readDeadline_own a.1.transport.socket timeout a.2)

theorem sparing_writeTimeout (timeout : Option Duration) :
    (sparing view s).Respects (transportWriteTimeout H timeout) := fun a =>
  sparing_opening hV (writeDeadline_own a.1.transport.socket timeout a.2)

theorem sparing_shutdown : (sparing view s).Respects (transportShutdown H) := fun a =>
  sparing_own (Nat.le_refl _) rfl
    (by simp [transportShutdown, Execution.after, Event.socket?])
    fun hs => hV.shutdown hs a.2.world

theorem sparing_poison (error : Error) : (sparing view s).Respects (poison H error) :=
  respects_poison (sparing_shutdown hV) (sparing_update (f := Client.poisoned error) fun _ => rfl)

theorem sparing_goodbye : (sparing view s).Respects (goodbye H) := by
  rintro ⟨c, p⟩
  obtain ⟨es, hes, run⟩ := goodbye_apply H c p
  rw [run]
  refine sparing_own (Nat.le_refl _) rfl ?_ fun hs => ?_
  · rcases hes with rfl | ⟨frame, rfl, -⟩ <;> simp [Event.socket?]
  · exact (hV.shutdown hs _).trans ((hV.recv hs _).trans (hV.send hs _ _ _))

theorem setUpPath_sparing : SetUpPath H (sparing view s) where
  hello := sparing_exchange hV .hello
  auth := sparing_exchange hV .auth
  poison := sparing_poison hV
  readTimeout := sparing_readTimeout hV
  writeTimeout := sparing_writeTimeout hV
  recordGrant features := fun a =>
    sparing_own (Nat.le_refl _) rfl (by simp [recordGrant, Execution.after, Event.socket?, Client.granting])
      fun _ => rfl
  identified id := sparing_update (f := Client.identified id) fun _ => rfl
  withReadTimeout t := sparing_update (f := Client.withReadTimeout t) fun _ => rfl
  closeInner := respects_closeInner (sparing_readTimeout hV) (sparing_writeTimeout hV)
    (sparing_update (f := Client.closing) fun _ => rfl) (sparing_shutdown hV) (sparing_goodbye hV)

theorem connect_sparing (s : Socket) (options : Options) (p : Process ω)
    {r : Execution (Process ω) Error Event Client} (run : connect H options p = r) :
    p.opened ≤ r.state.opened ∧ (s < p.opened →
      (∀ e ∈ r.events, e.socket? ≠ some s) ∧ view r.state.world s = view p.world s) := by
  have hc := connected (H := H) (setUpPath_sparing (s := s) hV) options p
  rw [run] at hc
  have opened {p₁ : Process ω} {es : List Event} (path : (opening H (p.opened ≤ ·)).rel p es p₁)
      (hs : s < p.opened) :
      (∀ e ∈ es, e.socket? ≠ some s) ∧ view p₁.world s = view p.world s := by
    refine ⟨fun e he h => ?_, hV.view_eq path.2.1⟩
    have := path.2.2 e he
    cases e with
    | dialing _ _ => cases h
    | tlsHandshake _ _ _ | readTimeout _ _ | writeTimeout _ _ =>
      cases h
      exact Nat.not_lt.mpr this hs
    | _ => exact this
  -- Before the handshake the socket is new, and the handshake stays on it.
  have handed {t : Transport} {pre : String} {p₁ p' : Process ω} {es es' : List Event} {c : Client}
      (path : (opening H (p.opened ≤ ·)).rel p es p₁) (low : p.opened ≤ t.socket)
      (rel : (sparing view s).rel (newClient t pre options, p₁) es' (c, p')) :
      p.opened ≤ p'.opened ∧ (s < p.opened →
        (∀ e ∈ es ++ es', e.socket? ≠ some s) ∧ view p'.world s = view p.world s) := by
    refine ⟨Nat.le_trans path.1 rel.1, fun hs => ?_⟩
    have ne : t.socket ≠ s := (Nat.lt_of_lt_of_le hs low).ne'
    obtain ⟨-, he, hv⟩ := rel.2 (Nat.lt_of_lt_of_le hs path.1) ne
    obtain ⟨he', hv'⟩ := opened path hs
    exact ⟨fun e hm => (List.mem_append.mp hm).elim (he' e) (he e), hv.trans hv'⟩
  cases hc with
  | gaveUp e p' es path => exact ⟨path.1, opened path⟩
  | refused e t pre p₁ p' es es' c path low high rel => exact handed path low rel
  | shookHands t pre p₁ p' es es' fresh path low high rel shaken => exact handed path low rel

omit hV in
theorem connect_socket {options : Options} {p p' : Process ω} {fresh : Client} {es : List Event}
    (run : connect H options p = ⟨.returned fresh, p', es⟩) :
    p.opened ≤ fresh.transport.socket ∧ fresh.transport.socket < p'.opened := by
  have hc := connected (H := H) (setUpPath_sparing (s := 0) perSocket_unit) options p
  rw [run] at hc
  cases hc with
  | shookHands t pre p₁ p' es es' fresh path low high rel shaken =>
    obtain ⟨_, _, _, rfl⟩ := shaken
    exact ⟨low, Nat.lt_of_lt_of_le high rel.1⟩

theorem sparing_moveTo (address : String) : (sparing view s).Respects (moveTo H address) := by
  rintro ⟨c, p⟩
  have hm := moving (H := H) address c p
  generalize moveTo H address (c, p) = r at hm
  cases hm with
  | unreadable _ => exact (sparing view s).refl _
  | stayed host port _ e p' es run =>
    obtain ⟨ho, hs⟩ := connect_sparing hV s _ p run
    exact ⟨ho, fun hlt ne => ⟨ne, hs hlt⟩⟩
  | moved host port _ fresh p' es run =>
    obtain ⟨ho, hs⟩ := connect_sparing hV s _ p run
    obtain ⟨low, -⟩ := connect_socket run
    refine ⟨ho, fun hlt ne => ?_⟩
    obtain ⟨he, hv⟩ := hs hlt
    have fresh_ne : fresh.transport.socket ≠ s := (Nat.lt_of_lt_of_le hlt low).ne'
    refine ⟨fresh_ne, fun e hm => ?_, (hV.shutdown ne _).trans hv⟩
    rcases List.mem_append.mp hm with hm | hm
    · exact he e hm
    · rcases List.mem_pair.mp hm with rfl | rfl
      · exact fun hc => fresh_ne (Option.some.inj hc)
      · exact fun hc => ne (Option.some.inj hc)

theorem callPath_sparing : CallPath H (sparing view s) where
  exchange := sparing_exchange hV
  poison := sparing_poison hV
  moveTo := sparing_moveTo hV
  setReadTimeout t := (sparing_update (f := Client.withReadTimeout t) fun _ => rfl).bind fun _ =>
    sparing_readTimeout hV _
  paused _ := sparing_emit rfl
  update hf := sparing_update fun c => (hf.kept c).transport
  withTxnOpen isOpen := sparing_update (f := Client.withTxnOpen isOpen) fun _ => rfl

end

/-! ## What an open connection does not show in -/

section

variable {ω α β γ : Type} {H : Host ω} {f : Client → β} {g : Process ω → γ}

/-- Something about the process that nothing changes which is done on a socket or with files. -/
structure Unseen (H : Host ω) (g : Process ω → γ) : Prop where
  setReadTimeout : ∀ socket bound p,
    g { p with world := (H.setReadTimeout socket bound p.world).2 } = g p
  setWriteTimeout : ∀ socket bound p,
    g { p with world := (H.setWriteTimeout socket bound p.world).2 } = g p
  loadRoots : ∀ path p, g { p with world := (H.loadRoots path p.world).2 } = g p
  loadIdentity : ∀ cert key p, g { p with world := (H.loadIdentity cert key p.world).2 } = g p
  tlsHandshake : ∀ socket opts name p,
    g { p with world := (H.tlsHandshake socket opts name p.world).2 } = g p
  send : ∀ transport tag payload p,
    g { p with world := (H.send transport tag payload p.world).2 } = g p
  recv : ∀ transport p, g { p with world := (H.recv transport p.world).2 } = g p
  shutdown : ∀ socket p, g { p with world := H.shutdown socket p.world } = g p

/-- Something about the client that no handshake, no close and no answer changes. -/
structure Fixed (f : Client → β) : Prop where
  poisoned : ∀ e c, f (Client.poisoned e c) = f c
  granting : ∀ features c, f (Client.granting features c) = f c
  identified : ∀ id c, f (Client.identified id c) = f c
  withReadTimeout : ∀ t c, f (Client.withReadTimeout t c) = f c
  closing : ∀ c, f (Client.closing c) = f c
  withRequestTimeout : ∀ t c, f (Client.withRequestTimeout t c) = f c
  withRequestTxn : ∀ txn c, f (Client.withRequestTxn txn c) = f c
  withTxnOpen : ∀ isOpen c, f (Client.withTxnOpen isOpen c) = f c
  forgetTxn : ∀ txn c, f (Client.forgetTxn txn c) = f c

def still (g : Process ω → γ) : Path (Process ω) Event where
  rel p _ p' := g p' = g p
  refl _ := rfl
  trans h h' := h'.trans h

def unmoved (f : Client → β) (g : Process ω → γ) : Path (Client × Process ω) Event where
  rel s _ s' := f s'.1 = f s.1 ∧ g s'.2 = g s.2
  refl _ := ⟨rfl, rfl⟩
  trans h h' := ⟨h'.1.trans h.1, h'.2.trans h.2⟩

theorem onWorld_still {act : ω → α × ω} (h : ∀ p, g { p with world := (act p.world).2 } = g p) :
    (still g).Respects (Job.onWorld act) := h

theorem still_emit (e : Event) : (still g).Respects (Action.emit e : Job ω Unit) := fun _ => rfl

theorem onRight_unmoved {job : Job ω α} (h : (still g).Respects job) :
    (unmoved f g).Respects (Action.onRight job : Method ω α) := fun s => ⟨rfl, h s.2⟩

theorem update_unmoved {u : Client → Client} (h : ∀ c, f (u c) = f c) :
    (unmoved f g).Respects (Method.update u : Method ω Unit) := fun s => ⟨h s.1, rfl⟩

namespace Unseen

variable (h : Unseen H g)

include h

theorem readDeadline (socket : Socket) (timeout : Option Duration) :
    (still g).Respects (H.readDeadline socket timeout) :=
  (respects_ofIo (onWorld_still (h.setReadTimeout socket _))).bind fun _ => still_emit _

theorem writeDeadline (socket : Socket) (timeout : Option Duration) :
    (still g).Respects (H.writeDeadline socket timeout) :=
  (respects_ofIo (onWorld_still (h.setWriteTimeout socket _))).bind fun _ => still_emit _

theorem secure (options : Options) (socket : Socket) :
    (still g).Respects (TricoreSdk.secure H options socket) :=
  respects_secure (h.readDeadline socket) (h.writeDeadline socket)
    (fun path => respects_ofTls (onWorld_still (h.loadRoots path)))
    (fun cert key => respects_ofTls (onWorld_still (h.loadIdentity cert key))) (fun _ _ => still_emit _)
    (fun opts name => respects_ofTls (onWorld_still (h.tlsHandshake socket opts name))) options

theorem dropped (c : Client) (p : Process ω) (w : ω) : g (H.dropped c p w) = g { p with world := w } :=
  h.shutdown c.transport.socket { p with world := w }

theorem transportReadTimeout (timeout : Option Duration) :
    (unmoved f g).Respects (TricoreSdk.transportReadTimeout H timeout) :=
  respects_self.bind fun _ => onRight_unmoved (h.readDeadline _ _)

theorem transportWriteTimeout (timeout : Option Duration) :
    (unmoved f g).Respects (TricoreSdk.transportWriteTimeout H timeout) :=
  respects_self.bind fun _ => onRight_unmoved (h.writeDeadline _ _)

theorem transportShutdown : (unmoved f g).Respects (TricoreSdk.transportShutdown H) :=
  respects_self.bind fun c => onRight_unmoved fun p => h.shutdown c.transport.socket p

theorem goodbye : (unmoved f g).Respects (TricoreSdk.goodbye H) := by
  rintro ⟨c, p⟩
  obtain ⟨es, -, run⟩ := goodbye_apply H c p
  have sent := h.send c.transport .close none p
  have received := h.recv c.transport { p with world := (H.send c.transport .close none p.world).2 }
  rw [run]
  exact ⟨rfl, (h.dropped ..).trans (received.trans sent)⟩

variable (fixed : Fixed f)

include fixed

theorem exchange (tag : Tag) (payload : Option Value) :
    (unmoved f g).Respects (TricoreSdk.exchange H tag payload) := by
  rintro ⟨c, p⟩
  have hx := exchanged H tag payload c p
  have sent := h.send c.transport tag payload p
  have received (w : ω) := h.recv c.transport { p with world := w }
  generalize TricoreSdk.exchange H tag payload (c, p) = r at hx ⊢
  cases hx with
  | faulted | closed | tooLarge => exact (unmoved f g).refl _
  | writeFailed _ _ _ e w hw =>
    rw [hw] at sent
    exact ⟨fixed.poisoned _ c, (h.dropped c p w).trans sent⟩
  | readFailed _ _ _ e w w' hw hr =>
    have answered := received w
    rw [hw] at sent
    rw [hr] at answered
    exact ⟨fixed.poisoned _ c, (h.dropped c p w').trans (answered.trans sent)⟩
  | answered _ _ _ frame w w' hw hr =>
    have answered := received w
    rw [hw] at sent
    rw [hr] at answered
    exact ⟨rfl, answered.trans sent⟩

theorem poison (error : Error) : (unmoved f g).Respects (TricoreSdk.poison H error) :=
  respects_poison h.transportShutdown (update_unmoved (fixed.poisoned error))

theorem setReadTimeout_unmoved (timeout : Option Duration) :
    (unmoved f g).Respects (TricoreSdk.setReadTimeout H timeout) :=
  (update_unmoved (fixed.withReadTimeout timeout)).bind fun _ => h.transportReadTimeout _

theorem setUpPath : SetUpPath H (unmoved f g) where
  hello := h.exchange fixed .hello
  auth := h.exchange fixed .auth
  poison := h.poison fixed
  readTimeout := h.transportReadTimeout
  writeTimeout := h.transportWriteTimeout
  recordGrant features := (update_unmoved (fixed.granting features)).bind fun _ =>
    respects_self.bind fun _ => fun _ => ⟨rfl, rfl⟩
  identified id := update_unmoved (fixed.identified id)
  withReadTimeout t := update_unmoved (fixed.withReadTimeout t)
  closeInner := respects_closeInner h.transportReadTimeout h.transportWriteTimeout
    (update_unmoved fixed.closing) h.transportShutdown h.goodbye

end Unseen

end

end TricoreSdk
