import TricoreSdk.Exchange

/-! Opening a connection. Up to the first frame, `connect` acts on a socket no
one else has and moves no bytes of any other connection. -/

namespace TricoreSdk
open Effects

section

variable {ω α : Type} (H : Host ω)

/-- Reached by operations of the host that carry no frame. -/
inductive Quiet : ω → ω → Prop
  | refl (w : ω) : Quiet w w
  | trans {w w' w'' : ω} (h : Quiet w w') (h' : Quiet w' w'') : Quiet w w''
  | clock (w : ω) : Quiet w (H.clock w).2
  | resolve (host : String) (port : UInt16) (w : ω) : Quiet w (H.resolve host port w).2
  | connect (socket : Socket) (address : String) (bound : Option Duration) (w : ω) :
    Quiet w (H.connect socket address bound w).2
  | setReadTimeout (socket : Socket) (bound : Option Duration) (w : ω) :
    Quiet w (H.setReadTimeout socket bound w).2
  | setWriteTimeout (socket : Socket) (bound : Option Duration) (w : ω) :
    Quiet w (H.setWriteTimeout socket bound w).2
  | loadRoots (path : String) (w : ω) : Quiet w (H.loadRoots path w).2
  | loadIdentity (cert key : String) (w : ω) : Quiet w (H.loadIdentity cert key w).2
  | tlsHandshake (socket : Socket) (opts : TlsOptions) (name : String) (w : ω) :
    Quiet w (H.tlsHandshake socket opts name w).2

/-- What is emitted before the first frame of a connection, on sockets of its own. -/
def Event.IsOpening (own : Socket → Prop) : Event → Prop
  | .dialing _ _ => True
  | .tlsHandshake socket _ _ | .readTimeout socket _ | .writeTimeout socket _ => own socket
  | _ => False

def opening (own : Socket → Prop) : Path (Process ω) Event where
  rel p es p' := p.opened ≤ p'.opened ∧ Quiet H p.world p'.world ∧ ∀ e ∈ es, e.IsOpening own
  refl p := ⟨Nat.le_refl _, .refl _, fun _ he => absurd he List.not_mem_nil⟩
  trans := by
    rintro p p' p'' es fs ⟨ho, hq, he⟩ ⟨ho', hq', he'⟩
    exact ⟨Nat.le_trans ho ho', hq.trans hq', fun e h => (List.mem_append.mp h).elim (he e) (he' e)⟩

open Path

variable {H}

theorem respects_ofIo {P : Path (Process ω) Event} {f : ω → Option IoError × ω}
    (h : P.Respects (Job.onWorld f)) : P.Respects (Job.ofIo f) := by
  refine h.bind fun r => ?_
  cases r with
  | none => exact respects_pure ()
  | some e => exact respects_fail _

theorem respects_ofTls {P : Path (Process ω) Event} {f : ω → Except String Unit × ω}
    (h : P.Respects (Job.onWorld f)) : P.Respects (Job.ofTls f) := by
  refine h.bind fun r => ?_
  cases r with
  | ok u => exact respects_pure ()
  | error text => exact respects_fail _

theorem opening_onWorld {own : Socket → Prop} {f : ω → α × ω} (h : ∀ w, Quiet H w (f w).2) :
    (opening H own).Respects (Job.onWorld f) :=
  fun p => ⟨Nat.le_refl _, h p.world, fun _ he => absurd he List.not_mem_nil⟩

theorem opening_emit {own : Socket → Prop} {e : Event} (h : e.IsOpening own) :
    (opening H own).Respects (Action.emit e : Job ω Unit) := by
  refine fun p => ⟨Nat.le_refl _, .refl _, fun x hx => ?_⟩
  rw [List.mem_singleton.mp hx]
  exact h

theorem opening_ofIo {own : Socket → Prop} {f : ω → Option IoError × ω} (h : ∀ w, Quiet H w (f w).2) :
    (opening H own).Respects (Job.ofIo f) := respects_ofIo (opening_onWorld h)

theorem opening_ofTls {own : Socket → Prop} {f : ω → Except String Unit × ω}
    (h : ∀ w, Quiet H w (f w).2) : (opening H own).Respects (Job.ofTls f) :=
  respects_ofTls (opening_onWorld h)

variable {own : Socket → Prop} {socket : Socket}

variable (own) in
theorem opening_readDeadline (h : own socket) (timeout : Option Duration) :
    (opening H own).Respects (H.readDeadline socket timeout) :=
  (opening_ofIo fun _ => .setReadTimeout ..).bind fun _ => opening_emit h

variable (own) in
theorem opening_writeDeadline (h : own socket) (timeout : Option Duration) :
    (opening H own).Respects (H.writeDeadline socket timeout) :=
  (opening_ofIo fun _ => .setWriteTimeout ..).bind fun _ => opening_emit h

theorem readDeadline_own (socket : Socket) (timeout : Option Duration) :
    (opening H (· = socket)).Respects (H.readDeadline socket timeout) :=
  opening_readDeadline (· = socket) rfl timeout

theorem writeDeadline_own (socket : Socket) (timeout : Option Duration) :
    (opening H (· = socket)).Respects (H.writeDeadline socket timeout) :=
  opening_writeDeadline (· = socket) rfl timeout

theorem respects_secure {P : Path (Process ω) Event}
    (reads : ∀ timeout, P.Respects (H.readDeadline socket timeout))
    (writes : ∀ timeout, P.Respects (H.writeDeadline socket timeout))
    (roots : ∀ path, P.Respects (Job.ofTls (H.loadRoots path)))
    (identity : ∀ cert key, P.Respects (Job.ofTls (H.loadIdentity cert key)))
    (shaking : ∀ opts name, P.Respects (Action.emit (.tlsHandshake socket opts name) : Job ω Unit))
    (shake : ∀ opts name, P.Respects (Job.ofTls (H.tlsHandshake socket opts name)))
    (options : Options) : P.Respects (secure H options socket) := by
  unfold secure
  cases options.tls with
  | none => exact respects_pure _
  | some opts =>
    refine (reads _).bind fun _ => (writes _).bind fun _ =>
      Respects.bind (Respects.when _ ?_) fun _ => ?_
    · cases opts.caFile with
      | none => exact respects_pure ()
      | some path => exact roots path
    · have finish : P.Respects (do
          Action.emit (.tlsHandshake socket opts (opts.serverName.getD "localhost"))
          Job.ofTls (H.tlsHandshake socket opts (opts.serverName.getD "localhost"))
          pure (.tls socket) : Job ω Transport) :=
        (shaking opts _).bind fun _ => (shake opts _).bind fun _ => respects_pure _
      cases opts.clientCertFile <;> cases opts.clientKeyFile
      · exact finish
      · exact (respects_fail _).bind fun _ => finish
      · exact (respects_fail _).bind fun _ => finish
      · exact (identity _ _).bind fun _ => finish

theorem opening_secure (h : own socket) (options : Options) :
    (opening H own).Respects (secure H options socket) :=
  respects_secure (opening_readDeadline own h) (opening_writeDeadline own h)
    (fun _ => opening_ofTls fun _ => .loadRoots ..)
    (fun _ _ => opening_ofTls fun _ => .loadIdentity ..)
    (fun _ _ => opening_emit h) (fun _ _ => opening_ofTls fun _ => .tlsHandshake ..) options

theorem dialOnce_spec (address : String) (bound : Option Duration) (p : Process ω) :
    (opening H own).rel p (H.dialOnce address bound p).events (H.dialOnce address bound p).state ∧
      ∃ r, (H.dialOnce address bound p).outcome = .returned r ∧ ∀ s, r = .ok s →
        s = p.opened ∧ (H.dialOnce address bound p).state.opened = p.opened + 1 := by
  rcases h : H.connect p.opened address bound p.world with ⟨text | _, w⟩
  · have run : H.dialOnce address bound p =
        ⟨.returned (.error text), { p with world := w }, [.dialing address bound]⟩ := by
      simp [Host.dialOnce, h, Execution.after]
    have quiet : Quiet H p.world w := by
      simpa [h] using Quiet.connect (H := H) p.opened address bound p.world
    rw [run]
    refine ⟨⟨Nat.le_refl _, quiet, ?_⟩, _, rfl, by simp⟩
    simp [Event.IsOpening]
  · have run : H.dialOnce address bound p =
        ⟨.returned (.ok p.opened), { p with opened := p.opened + 1, world := w },
          [.dialing address bound]⟩ := by
      simp [Host.dialOnce, h, Execution.after]
    have quiet : Quiet H p.world w := by
      simpa [h] using Quiet.connect (H := H) p.opened address bound p.world
    rw [run]
    refine ⟨⟨Nat.le_succ _, quiet, ?_⟩, _, rfl, by rintro s ⟨⟩; exact ⟨rfl, rfl⟩⟩
    simp [Event.IsOpening]

variable (H) in
/-- A dial ends with a new socket or with an error, and opens nothing else. -/
structure Dialled (own : Socket → Prop) (p : Process ω) (r : Execution (Process ω) Error Event Socket) :
    Prop where
  path : (opening H own).rel p r.events r.state
  returns : r.outcome ≠ .panicked
  fresh : ∀ s, r.outcome = .returned s → p.opened ≤ s ∧ s < r.state.opened

theorem dialEach_spec (host : String) (port : UInt16) (bound : Option Duration)
    (addresses : List String) (last : String) (p : Process ω) :
    Dialled H own p (H.dialEach host port bound addresses last p) := by
  induction addresses generalizing last p with
  | nil => exact ⟨(opening H own).refl p, by simp [Host.dialEach], by simp [Host.dialEach]⟩
  | cons address rest ih =>
    obtain ⟨hp, r, hr, hs⟩ :=
      dialOnce_spec address (Duration.nonZero bound) p
    rw [Host.dialEach, Action.bind_apply]
    generalize H.dialOnce address (Duration.nonZero bound) p = once at hp hr hs ⊢
    rcases once with ⟨o, p', es⟩
    obtain rfl : o = .returned r := hr
    cases r with
    | ok socket =>
      obtain ⟨rfl, ho⟩ := hs socket rfl
      refine ⟨by simpa using hp, by simp, ?_⟩
      rintro s ⟨⟩
      exact ⟨Nat.le_refl _, by simp_all⟩
    | error text =>
      obtain ⟨path, returns, fresh⟩ := ih text p'
      refine ⟨(opening H own).trans hp path, returns, fun s h => ?_⟩
      obtain ⟨low, high⟩ := fresh s h
      exact ⟨Nat.le_trans hp.1 low, high⟩

variable (own) in
theorem dial_spec (host : String) (port : UInt16) (bound : Option Duration) (p : Process ω) :
    Dialled H own p (H.dial host port bound p) := by
  have quiet : Quiet H p.world (H.resolve host port p.world).2 := .resolve ..
  rcases h : H.resolve host port p.world with ⟨r, w⟩
  rw [h] at quiet
  have path : (opening H own).rel p [] { p with world := w } :=
    ⟨Nat.le_refl _, quiet, fun _ he => absurd he List.not_mem_nil⟩
  match r with
  | .error e => exact ⟨by simpa [Host.dial, h] using path, by simp [Host.dial, h], by simp [Host.dial, h]⟩
  | .ok [] => exact ⟨by simpa [Host.dial, h] using path, by simp [Host.dial, h], by simp [Host.dial, h]⟩
  | .ok (address :: rest) =>
    have run : H.dial host port bound p =
        H.dialEach host port bound (address :: rest) "" { p with world := w } := by
      simp [Host.dial, h]
    obtain ⟨path', returns, fresh⟩ :=
      dialEach_spec host port bound (address :: rest) "" { p with world := w }
    rw [run]
    exact ⟨(opening H own).trans path path', returns, fresh⟩

theorem onWorld_returns (f : ω → α × ω) : Yields (Job.onWorld f) fun _ => True := fun _ => trivial

theorem ofIo_returns (f : ω → Option IoError × ω) : Yields (Job.ofIo f) fun _ => True := by
  refine (onWorld_returns f).bind fun r _ => ?_
  cases r with
  | none => exact .pure trivial
  | some e => exact .fail _

theorem ofTls_returns (f : ω → Except String Unit × ω) : Yields (Job.ofTls f) fun _ => True := by
  refine (onWorld_returns f).bind fun r _ => ?_
  cases r with
  | ok u => exact .pure trivial
  | error text => exact .fail _

theorem readDeadline_returns (socket : Socket) (timeout : Option Duration) :
    Yields (H.readDeadline socket timeout) fun _ => True :=
  (ofIo_returns _).bind fun _ _ => .emit _

theorem writeDeadline_returns (socket : Socket) (timeout : Option Duration) :
    Yields (H.writeDeadline socket timeout) fun _ => True :=
  (ofIo_returns _).bind fun _ _ => .emit _

theorem wrap_yields (socket : Socket) (opts : TlsOptions) :
    Yields (H.wrap socket opts) fun t => t.socket = socket := by
  refine Yields.bind (Yields.when _ ?_) fun _ _ => ?_
  · cases opts.caFile with
    | none => exact .pure trivial
    | some path => exact ofTls_returns _
  · have finish : Yields (do
        Action.emit (.tlsHandshake socket opts (opts.serverName.getD "localhost"))
        Job.ofTls (H.tlsHandshake socket opts (opts.serverName.getD "localhost"))
        pure (.tls socket) : Job ω Transport) fun t => t.socket = socket :=
      (Yields.emit _).bind fun _ _ => (ofTls_returns _).bind fun _ _ => .pure rfl
    cases opts.clientCertFile <;> cases opts.clientKeyFile
    · exact finish
    · exact Yields.bind (Q := fun _ => True) (.fail _) fun _ _ => finish
    · exact Yields.bind (Q := fun _ => True) (.fail _) fun _ _ => finish
    · exact (ofTls_returns _).bind fun _ _ => finish

theorem secure_yields (options : Options) (socket : Socket) :
    Yields (secure H options socket) fun t => t.socket = socket := by
  unfold secure
  cases options.tls with
  | none => exact .pure rfl
  | some tls =>
    exact (readDeadline_returns _ _).bind fun _ _ =>
      (writeDeadline_returns _ _).bind fun _ _ => wrap_yields socket tls

variable (H) in
def nextPrefix (p : Process ω) : String :=
  String.ofList (Nat.toDigits 16 H.processId.toNat ++ Nat.toDigits 16 (H.clock p.world).1.toNat ++
    Nat.toDigits 16 p.sequence.toNat)

variable (H) in
def stamped (p : Process ω) : Process ω :=
  { p with sequence := p.sequence + 1, world := (H.clock p.world).2 }

/-- The steps of `connect`: it gives up on the dial, or on securing the socket, or it hands the
connection to the handshake. -/
inductive ConnectSteps (options : Options) (p : Process ω) :
    Execution (Process ω) Error Event Client → Prop
  | undialled (e : Error) (p₁ : Process ω) (es₁ : List Event)
    (dial : H.dial options.host options.port options.connectTimeout p = ⟨.failed e, p₁, es₁⟩) :
    ConnectSteps options p ⟨.failed e, p₁, es₁⟩
  | unsecured (tcp : Socket) (p₁ : Process ω) (es₁ : List Event)
    (dial : H.dial options.host options.port options.connectTimeout p = ⟨.returned tcp, p₁, es₁⟩)
    (e : Error) (p₂ : Process ω) (es₂ : List Event)
    (secured : secure H options tcp p₁ = ⟨.failed e, p₂, es₂⟩) :
    ConnectSteps options p ⟨.failed e, p₂, es₁ ++ es₂⟩
  | handedOver (transport : Transport) (p₁ : Process ω) (es₁ : List Event)
    (dial : H.dial options.host options.port options.connectTimeout p =
      ⟨.returned transport.socket, p₁, es₁⟩)
    (p₂ : Process ω) (es₂ : List Event)
    (secured : secure H options transport.socket p₁ = ⟨.returned transport, p₂, es₂⟩) :
    ConnectSteps options p
      ((owning H (newClient transport (nextPrefix H p₂) options) (handshake H options)
        (stamped H p₂)).after (es₁ ++ es₂))

theorem connectSteps (options : Options) (p : Process ω) :
    ConnectSteps (H := H) options p (connect H options p) := by
  have dialReturns :=
    (dial_spec (H := H) (fun _ => True) options.host options.port options.connectTimeout p).returns
  unfold connect
  rw [Action.bind_apply]
  rcases dial : H.dial options.host options.port options.connectTimeout p with ⟨o, p₁, es₁⟩
  rw [dial] at dialReturns
  cases o with
  | panicked => exact absurd rfl dialReturns
  | failed e => exact .undialled e p₁ es₁ dial
  | returned tcp =>
    have same := secure_yields (H := H) options tcp p₁
    rw [Execution.follow_returned, Action.bind_apply]
    rcases secured : secure H options tcp p₁ with ⟨o, p₂, es₂⟩
    rw [secured] at same
    cases o with
    | panicked => exact absurd same not_false
    | failed e => exact .unsecured tcp p₁ es₁ dial e p₂ es₂ secured
    | returned transport =>
      obtain rfl : transport.socket = tcp := same
      have named : nextConnectionPrefix H p₂ = ⟨.returned (nextPrefix H p₂), stamped H p₂, []⟩ := rfl
      have handed := ConnectSteps.handedOver transport p₁ es₁ dial p₂ es₂ secured
      simpa [Action.bind_apply, named, Execution.after_after] using handed

/-- How `connect` goes: it gives up before the first frame, or it hands a
connection no one else has to the handshake. -/
inductive Connecting (options : Options) (p : Process ω) :
    Execution (Process ω) Error Event Client → Prop
  | gaveUp (e : Error) (p' : Process ω) (es : List Event)
    (path : (opening H (p.opened ≤ ·)).rel p es p') : Connecting options p ⟨.failed e, p', es⟩
  | handedOver (transport : Transport) (requestIdPrefix : String) (p' : Process ω)
    (es : List Event) (path : (opening H (p.opened ≤ ·)).rel p es p')
    (low : p.opened ≤ transport.socket) (high : transport.socket < p'.opened) :
    Connecting options p
      ((owning H (newClient transport requestIdPrefix options) (handshake H options) p').after es)

theorem connecting (options : Options) (p : Process ω) :
    Connecting (H := H) options p (connect H options p) := by
  obtain ⟨dialPath, -, dialFresh⟩ :=
    dial_spec (H := H) (p.opened ≤ ·) options.host options.port options.connectTimeout p
  have steps := connectSteps (H := H) options p
  generalize connect H options p = r at steps ⊢
  cases steps with
  | undialled e p₁ es₁ dial =>
    rw [dial] at dialPath
    exact .gaveUp e p₁ es₁ dialPath
  | unsecured tcp p₁ es₁ dial e p₂ es₂ secured =>
    rw [dial] at dialPath dialFresh
    have securePath := opening_secure (H := H) (dialFresh tcp rfl).1 options p₁
    rw [secured] at securePath
    exact .gaveUp e p₂ _ ((opening H (p.opened ≤ ·)).trans dialPath securePath)
  | handedOver transport p₁ es₁ dial p₂ es₂ secured =>
    rw [dial] at dialPath dialFresh
    obtain ⟨low, high⟩ := dialFresh transport.socket rfl
    have securePath := opening_secure (H := H) low options p₁
    rw [secured] at securePath
    have named : (opening H (p.opened ≤ ·)).rel p₂ [] (stamped H p₂) :=
      ⟨Nat.le_refl _, .clock _, fun _ he => absurd he List.not_mem_nil⟩
    have path := (opening H (p.opened ≤ ·)).trans dialPath
      ((opening H (p.opened ≤ ·)).trans securePath named)
    rw [List.append_nil] at path
    exact .handedOver transport _ _ _ path low (Nat.lt_of_lt_of_le high securePath.1)

/-! ## The handshake and the goodbye -/

variable (H) in
theorem owning_returned {client : Client} {setUp : Method ω Unit} {p : Process ω}
    {s : Client × Process ω} {es : List Event} (h : setUp (client, p) = ⟨.returned (), s, es⟩) :
    owning H client setUp p = ⟨.returned s.1, s.2, es⟩ := by
  simp [owning, h]

variable (H) in
theorem owning_failed {client : Client} {setUp : Method ω Unit} {p : Process ω} {e : Error}
    {s : Client × Process ω} {es : List Event} (h : setUp (client, p) = ⟨.failed e, s, es⟩) :
    owning H client setUp p =
      ⟨.failed e, (closeInner H s).state.2, es ++ (closeInner H s).events⟩ := by
  simp [owning, h]

variable (H) in
theorem owning_panicked {client : Client} {setUp : Method ω Unit} {p : Process ω}
    {s : Client × Process ω} {es : List Event} (h : setUp (client, p) = ⟨.panicked, s, es⟩) :
    owning H client setUp p =
      ⟨.panicked, (closeInner H s).state.2, es ++ (closeInner H s).events⟩ := by
  simp [owning, h]

/-- What a path must respect for setting a connection up, and closing it, to respect it. -/
structure SetUpPath (H : Host ω) (P : Path (Client × Process ω) Event) : Prop where
  hello : ∀ payload, P.Respects (exchange H .hello payload)
  auth : ∀ payload, P.Respects (exchange H .auth payload)
  poison : ∀ error, P.Respects (TricoreSdk.poison H error)
  readTimeout : ∀ timeout, P.Respects (transportReadTimeout H timeout)
  writeTimeout : ∀ timeout, P.Respects (transportWriteTimeout H timeout)
  recordGrant : ∀ features, P.Respects (recordGrant features : Method ω Unit)
  identified : ∀ id, P.Respects (Method.update (Client.identified id))
  withReadTimeout : ∀ timeout, P.Respects (Method.update (Client.withReadTimeout timeout))
  closeInner : P.Respects (TricoreSdk.closeInner H)

theorem respects_self {P : Path (Client × Process ω) Event} :
    P.Respects (Method.self : Method ω Client) := respects_view Prod.fst

theorem respects_poison {P : Path (Client × Process ω) Event} {error : Error}
    (shutdown : P.Respects (transportShutdown H))
    (poisoned : P.Respects (Method.update (Client.poisoned error))) : P.Respects (poison H error) :=
  respects_self.bind fun _ => ((shutdown.bind fun _ => poisoned).when _).bind fun _ => respects_pure _

theorem respects_poison_of_dropped {P : Path (Client × Process ω) Event} {error : Error}
    (dropped : ∀ c p, c.fault = none → P.rel (c, p) [.shutdown c.transport.socket]
      (c.poisoned error, H.dropped c p p.world)) : P.Respects (poison H error) := by
  rintro ⟨c, p⟩
  cases hf : c.fault with
  | none =>
    rw [poison_live H hf]
    exact dropped c p hf
  | some fault =>
    rw [poison_faulted H hf]
    exact P.refl _

theorem respects_closeInner {P : Path (Client × Process ω) Event}
    (readTimeout : ∀ timeout, P.Respects (transportReadTimeout H timeout))
    (writeTimeout : ∀ timeout, P.Respects (transportWriteTimeout H timeout))
    (closing : P.Respects (Method.update Client.closing))
    (shutdown : P.Respects (transportShutdown H)) (goodbye : P.Respects (goodbye H)) :
    P.Respects (closeInner H) := by
  refine respects_self.bind fun c => ?_
  split
  · exact respects_pure ()
  · refine closing.bind fun _ => ?_
    split
    · exact shutdown
    · exact ((readTimeout _).attempt.bind fun _ => respects_pure ()).bind fun _ =>
        ((writeTimeout _).attempt.bind fun _ => respects_pure ()).bind fun _ => goodbye

namespace SetUpPath

variable {P : Path (Client × Process ω) Event} (h : SetUpPath H P)

include h

theorem unexpected (wanted : String) (tag : Tag) :
    P.Respects (TricoreSdk.unexpected H wanted tag : Method ω α) :=
  (h.poison _).bind fun _ => respects_fail _

theorem sayHello (clientName : String) (features : UInt64) :
    P.Respects (TricoreSdk.hello H clientName features) := by
  refine (h.hello _).bind fun frame => ?_
  split
  · refine (respects_ofExcept _).bind fun body => ?_
    split
    · exact respects_fail _
    · exact h.recordGrant _
  · exact respects_fail _
  · exact h.unexpected _ _

theorem authenticate (options : Options) : P.Respects (TricoreSdk.authenticate H options) := by
  unfold TricoreSdk.authenticate
  split
  · refine (h.auth _).bind fun frame => ?_
    split
    · refine (respects_ofExcept _).bind fun body => ?_
      split
      · exact respects_fail _
      · exact h.identified _
    · exact respects_fail _
    · exact h.unexpected _ _
  · exact respects_pure ()

theorem setReadTimeout (timeout : Option Duration) :
    P.Respects (TricoreSdk.setReadTimeout H timeout) :=
  (h.withReadTimeout timeout).bind fun _ => h.readTimeout _

theorem handshake (options : Options) : P.Respects (TricoreSdk.handshake H options) :=
  (h.readTimeout _).bind fun _ => (h.writeTimeout _).bind fun _ => (h.sayHello _ _).bind fun _ =>
    (h.authenticate options).bind fun _ => (h.writeTimeout _).bind fun _ => h.setReadTimeout _

theorem owning (client : Client) (setUp : Method ω Unit) (hs : P.Respects setUp)
    (p : Process ω) :
    ∃ c, P.rel (client, p) (TricoreSdk.owning H client setUp p).events
        (c, (TricoreSdk.owning H client setUp p).state) ∧
      ∀ f, (TricoreSdk.owning H client setUp p).outcome = .returned f → f = c := by
  have hr := hs (client, p)
  rcases run : setUp (client, p) with ⟨o, s, es⟩
  rw [run] at hr
  cases o with
  | returned u =>
    rw [owning_returned H run]
    exact ⟨s.1, hr, fun f hf => (Outcome.returned.inj hf).symm⟩
  | failed e =>
    rw [owning_failed H run]
    refine ⟨(TricoreSdk.closeInner H s).state.1, P.trans hr (h.closeInner s), ?_⟩
    rintro f ⟨⟩
  | panicked =>
    rw [owning_panicked H run]
    refine ⟨(TricoreSdk.closeInner H s).state.1, P.trans hr (h.closeInner s), ?_⟩
    rintro f ⟨⟩

end SetUpPath

/-! ## What `connect` returns -/

/-- The client after a handshake, but for what the handshake is there to find out. -/
def Shaken (c c' : Client) : Prop :=
  ∃ features session timeout,
    c' = { c with grantedFeatures := features, sessionId := session, readTimeout := timeout }

def shaken : Path (Client × Process ω) Event where
  rel s _ s' := Shaken s.1 s'.1
  refl _ := ⟨_, _, _, rfl⟩
  trans := by
    rintro s s' s'' - - ⟨_, _, _, h⟩ ⟨_, _, _, h'⟩
    exact ⟨_, _, _, by rw [h', h]⟩

theorem shaken_update {f : Client → Client} (h : ∀ c, Shaken c (f c)) :
    shaken.Respects (Method.update f : Method ω Unit) := fun s => h s.1

theorem unexpected_shaken (wanted : String) (tag : Tag) :
    shaken.OnReturn (unexpected H wanted tag : Method ω α) := by
  intro s a h
  obtain ⟨e, he⟩ := unexpected_failed (α := α) H wanted tag s
  rw [he] at h
  cases h

theorem exchange_shaken (tag : Tag) (payload : Option Value) :
    shaken.OnReturn (exchange H tag payload) := by
  rintro ⟨c, p⟩ frame h
  exact ⟨_, _, _, (exchange_returned H h).2⟩

theorem onRight_shaken (job : Job ω α) : shaken.Respects (Action.onRight job : Method ω α) :=
  fun s => shaken.refl s

theorem transportReadTimeout_shaken (timeout : Option Duration) :
    shaken.Respects (transportReadTimeout H timeout) :=
  respects_self.bind fun _ => onRight_shaken _

theorem transportWriteTimeout_shaken (timeout : Option Duration) :
    shaken.Respects (transportWriteTimeout H timeout) :=
  respects_self.bind fun _ => onRight_shaken _

theorem hello_shaken (clientName : String) (features : UInt64) :
    shaken.OnReturn (hello H clientName features) := by
  refine (exchange_shaken _ _).bind fun frame => ?_
  split
  · refine (respects_ofExcept _).onReturn.bind fun body => ?_
    split
    · exact onReturn_fail _
    · exact ((shaken_update fun _ => ⟨_, _, _, rfl⟩).bind fun _ =>
        respects_self.bind fun _ => fun s => shaken.refl s).onReturn
  · exact onReturn_fail _
  · exact unexpected_shaken _ _

theorem authenticate_shaken (options : Options) :
    shaken.OnReturn (authenticate H options) := by
  unfold authenticate
  split
  · refine (exchange_shaken _ _).bind fun frame => ?_
    split
    · refine (respects_ofExcept _).onReturn.bind fun body => ?_
      split
      · exact onReturn_fail _
      · exact (shaken_update fun _ => ⟨_, _, _, rfl⟩).onReturn
    · exact onReturn_fail _
    · exact unexpected_shaken _ _
  · exact (respects_pure ()).onReturn

theorem handshake_shaken (options : Options) : shaken.OnReturn (handshake H options) :=
  (transportReadTimeout_shaken _).onReturn.bind fun _ =>
    (transportWriteTimeout_shaken _).onReturn.bind fun _ =>
      (hello_shaken _ _).bind fun _ => (authenticate_shaken _).bind fun _ =>
        (transportWriteTimeout_shaken _).onReturn.bind fun _ =>
          ((shaken_update fun _ => ⟨_, _, _, rfl⟩).bind fun _ =>
            transportReadTimeout_shaken _).onReturn

theorem hello_yields (clientName : String) (features : UInt64) :
    Yields (hello H clientName features) fun _ => True := by
  refine (exchange_yields H _ _).bind fun frame _ => ?_
  split
  · refine (Yields.ofExcept _).bind fun body _ => ?_
    split
    · exact .fail _
    · exact (Yields.modify _).bind fun _ _ => (Yields.view _).bind fun _ _ => .emit _
  · exact .fail _
  · exact unexpected_yields H _ _

theorem authenticate_yields (options : Options) :
    Yields (authenticate H options) fun _ => True := by
  unfold authenticate
  split
  · refine (exchange_yields H _ _).bind fun frame _ => ?_
    split
    · refine (Yields.ofExcept _).bind fun body _ => ?_
      split
      · exact .fail _
      · exact .modify _
    · exact .fail _
    · exact unexpected_yields H _ _
  · exact .pure trivial

theorem setReadTimeout_yields (timeout : Option Duration) :
    Yields (setReadTimeout H timeout) fun _ => True :=
  (Yields.modify _).bind fun _ _ => (Yields.view _).bind fun _ _ =>
    (readDeadline_returns _ _).onRight

theorem handshake_yields (options : Options) :
    Yields (handshake H options) fun _ => True :=
  ((Yields.view _).bind fun _ _ => (readDeadline_returns _ _).onRight).bind fun _ _ =>
    ((Yields.view _).bind fun _ _ => (writeDeadline_returns _ _).onRight).bind fun _ _ =>
      (hello_yields _ _).bind fun _ _ => (authenticate_yields _).bind fun _ _ =>
        ((Yields.view _).bind fun _ _ => (writeDeadline_returns _ _).onRight).bind fun _ _ =>
          setReadTimeout_yields _

/-- How `connect` goes, seen by a path that the set-up respects: it gives up before
the first frame, or it runs the handshake on a connection no one else has. -/
inductive Connected (P : Path (Client × Process ω) Event) (options : Options) (p : Process ω) :
    Execution (Process ω) Error Event Client → Prop
  | gaveUp (e : Error) (p' : Process ω) (es : List Event)
    (path : (opening H (p.opened ≤ ·)).rel p es p') : Connected P options p ⟨.failed e, p', es⟩
  | refused (e : Error) (transport : Transport) (requestIdPrefix : String) (p₁ p' : Process ω)
    (es es' : List Event) (c : Client) (path : (opening H (p.opened ≤ ·)).rel p es p₁)
    (low : p.opened ≤ transport.socket) (high : transport.socket < p₁.opened)
    (rel : P.rel (newClient transport requestIdPrefix options, p₁) es' (c, p')) :
    Connected P options p ⟨.failed e, p', es ++ es'⟩
  | shookHands (transport : Transport) (requestIdPrefix : String) (p₁ p' : Process ω)
    (es es' : List Event) (fresh : Client) (path : (opening H (p.opened ≤ ·)).rel p es p₁)
    (low : p.opened ≤ transport.socket) (high : transport.socket < p₁.opened)
    (rel : P.rel (newClient transport requestIdPrefix options, p₁) es' (fresh, p'))
    (shaken : Shaken (newClient transport requestIdPrefix options) fresh) :
    Connected P options p ⟨.returned fresh, p', es ++ es'⟩

theorem connected {P : Path (Client × Process ω) Event} (h : SetUpPath H P) (options : Options)
    (p : Process ω) : Connected (H := H) P options p (connect H options p) := by
  have hc := connecting (H := H) options p
  generalize connect H options p = r at hc ⊢
  cases hc with
  | gaveUp e p' es path => exact .gaveUp e p' es path
  | handedOver transport pre p₁ es path low high =>
    have rel := h.handshake options (newClient transport pre options, p₁)
    have keeps := handshake_shaken (H := H) options (newClient transport pre options, p₁)
    have returns := handshake_yields (H := H) options (newClient transport pre options, p₁)
    rcases run : handshake H options (newClient transport pre options, p₁) with ⟨o, s, es'⟩
    rw [run] at rel keeps returns
    cases o with
    | returned u =>
      rw [owning_returned H run]
      exact .shookHands transport pre p₁ s.2 es es' s.1 path low high rel (keeps () rfl)
    | failed e =>
      rw [owning_failed H run]
      exact .refused e transport pre p₁ _ es _ _ path low high (P.trans rel (h.closeInner s))
    | panicked => exact absurd returns not_false

/-- The path that sees nothing. -/
def anyPath : Path (Client × Process ω) Event := ⟨fun _ _ _ => True, fun _ => trivial, fun _ _ => trivial⟩

theorem setUpPath_anyPath : SetUpPath H anyPath := by
  constructor <;> intros <;> exact fun _ => trivial

theorem connect_live {options : Options} {p p' : Process ω} {fresh : Client} {es : List Event}
    (run : connect H options p = ⟨.returned fresh, p', es⟩) : fresh.Live := by
  have hc := connected (H := H) setUpPath_anyPath options p
  rw [run] at hc
  cases hc with
  | shookHands t pre p₁ p' es es' fresh path low high rel shaken =>
    obtain ⟨_, _, _, rfl⟩ := shaken
    exact ⟨rfl, rfl⟩

theorem connect_options {options : Options} {p p' : Process ω} {fresh : Client} {es : List Event}
    (run : connect H options p = ⟨.returned fresh, p', es⟩) : fresh.options = options := by
  have hc := connected (H := H) setUpPath_anyPath options p
  rw [run] at hc
  cases hc with
  | shookHands t pre p₁ p' es es' fresh path low high rel shaken =>
    obtain ⟨_, _, _, rfl⟩ := shaken
    rfl

theorem connect_txnOpen {options : Options} {p p' : Process ω} {fresh : Client} {es : List Event}
    (run : connect H options p = ⟨.returned fresh, p', es⟩) : fresh.txnOpen = false := by
  have hc := connected (H := H) setUpPath_anyPath options p
  rw [run] at hc
  cases hc with
  | shookHands t pre p₁ p' es es' fresh path low high rel shaken =>
    obtain ⟨_, _, _, rfl⟩ := shaken
    rfl

inductive Moving (address : String) (c : Client) (p : Process ω) :
    Execution (Client × Process ω) Error Event Bool → Prop
  | unreadable (ha : splitAddress address = none) : Moving address c p ⟨.returned false, (c, p), []⟩
  | stayed (host : String) (port : UInt16) (ha : splitAddress address = some (host, port))
    (e : Error) (p' : Process ω) (es : List Event)
    (run : connect H (followOptions c.options host port) p = ⟨.failed e, p', es⟩) :
    Moving address c p ⟨.returned false, (c, p'), es⟩
  | moved (host : String) (port : UInt16) (ha : splitAddress address = some (host, port))
    (fresh : Client) (p' : Process ω) (es : List Event)
    (run : connect H (followOptions c.options host port) p = ⟨.returned fresh, p', es⟩) :
    Moving address c p
      ⟨.returned true, (Client.adopting fresh address c, H.dropped c p' p'.world),
        es ++ [.moved fresh.transport, .shutdown c.transport.socket]⟩

theorem moving (address : String) (c : Client) (p : Process ω) :
    Moving (H := H) address c p (moveTo H address (c, p)) := by
  unfold moveTo
  cases ha : splitAddress address with
  | none => exact .unreadable ha
  | some target =>
    obtain ⟨host, port⟩ := target
    have hc := connected (H := H) setUpPath_anyPath (followOptions c.options host port) p
    rcases run : connect H (followOptions c.options host port) p with ⟨o, p', es⟩
    rw [run] at hc
    cases o with
    | panicked => cases hc
    | failed e =>
      simpa [Action.attempt, run, Execution.after] using
        Moving.stayed (H := H) (c := c) (p := p) host port ha e p' es run
    | returned fresh =>
      simpa [Action.attempt, run, Execution.after, Host.dropped] using
        Moving.moved (H := H) (c := c) (p := p) host port ha fresh p' es run

/-! ## What a close does -/

theorem ignoring_deadline {c : Client} {p : Process ω} {m : Method ω Unit} {job : Job ω Unit}
    (hm : m (c, p) = (Action.onRight job : Method ω Unit) (c, p)) (hy : Yields job fun _ => True)
    (own : (opening H (· = c.transport.socket)).Respects job) :
    ∃ p' es, ignoring m (c, p) = ⟨.returned (), (c, p'), es⟩ ∧
      (opening H (· = c.transport.socket)).rel p es p' := by
  have path := own p
  have returns := hy.ne_panicked p
  unfold ignoring
  rw [Action.bind_apply]
  rcases hj : job p with ⟨o, p', es⟩
  rw [hj] at path returns
  cases o with
  | returned u => exact ⟨p', es, by simp [Action.attempt, hm, hj, Execution.after], path⟩
  | failed e => exact ⟨p', es, by simp [Action.attempt, hm, hj, Execution.after], path⟩
  | panicked => exact absurd rfl returns

/-- How a close goes: it was closed already, it had been dropped after a failure,
or it says goodbye. -/
inductive Closing (c : Client) (p : Process ω) : Execution (Client × Process ω) Error Event Unit → Prop
  | already (hc : c.closed = true) : Closing c p ⟨.returned (), (c, p), []⟩
  | faulted (hc : c.closed = false) (hf : c.fault.isSome) :
    Closing c p ⟨.returned (), (c.closing, H.dropped c p p.world), [.shutdown c.transport.socket]⟩
  | farewell (live : c.Live) (p' : Process ω) (es fs : List Event)
    (path : (opening H (· = c.transport.socket)).rel p es p')
    (answer : fs = [] ∨ ∃ frame, fs = [.answered c.transport frame] ∧
      (H.recv c.transport (H.send c.transport .close none p'.world).2).1 = .ok frame) :
    Closing c p
      ⟨.returned (),
        (c.closing,
          H.dropped c p' (H.recv c.transport (H.send c.transport .close none p'.world).2).2),
        es ++ .wrote c.transport .close none :: (fs ++ [.shutdown c.transport.socket])⟩

theorem closing (c : Client) (p : Process ω) : Closing (H := H) c p (closeInner H (c, p)) := by
  unfold closeInner
  rw [Action.bind_apply, Method.self_apply, Execution.follow_returned, Execution.after_nil]
  cases hc : c.closed with
  | true => simpa [hc] using Closing.already (H := H) (p := p) hc
  | false =>
    cases hf : c.fault with
    | some fault =>
      have := Closing.faulted (H := H) (p := p) hc (by rw [hf]; rfl)
      simpa [hf, transportShutdown, Execution.after, Host.dropped, Client.closing] using this
    | none =>
      obtain ⟨p₁, es₁, run₁, path₁⟩ := ignoring_deadline (H := H) (c := c.closing) (p := p)
        (m := transportReadTimeout H (some closeTimeout)) rfl (readDeadline_returns _ _)
        (readDeadline_own _ _)
      obtain ⟨p₂, es₂, run₂, path₂⟩ := ignoring_deadline (H := H) (c := c.closing) (p := p₁)
        (m := transportWriteTimeout H (some closeTimeout)) rfl (writeDeadline_returns _ _)
        (writeDeadline_own _ _)
      obtain ⟨fs, answer, run⟩ := goodbye_apply H c.closing p₂
      have farewell := Closing.farewell (H := H) ⟨hf, hc⟩ p₂ (es₁ ++ es₂) fs
        ((opening H (· = c.transport.socket)).trans path₁ path₂) answer
      simp only [Bool.false_eq_true, if_false, Option.isSome_none, Action.bind_apply,
        Method.update_apply, Execution.follow_returned, Execution.after_nil, run₁, run₂, run]
      rw [List.append_assoc] at farewell
      exact farewell

/-! ## What the set-up emits -/

def Event.IsSetUp : Event → Prop
  | .wrote _ tag _ => tag = .hello ∨ tag = .auth ∨ tag = .close
  | .moved _ | .paused _ => False
  | _ => True

/-- An event of setting up or closing a connection, with every address dialled under one bound. -/
def Event.DialsUnder (bound : Option Duration) : Event → Prop
  | .dialing _ bound' => bound' = bound
  | e => e.IsSetUp

theorem Event.DialsUnder.isSetUp {bound : Option Duration} {e : Event} (h : e.DialsUnder bound) :
    e.IsSetUp := by
  cases e <;> trivial

section

variable {bound : Option Duration}

theorem exchange_dialsUnder {tag : Tag} (ht : tag = .hello ∨ tag = .auth) (payload : Option Value) :
    (ofEvents (Event.DialsUnder bound)).Respects (exchange H tag payload) := by
  rintro ⟨c, p⟩
  have hx := exchanged H tag payload c p
  have wrote : (Event.wrote c.transport tag payload).DialsUnder bound := ht.imp_right .inl
  generalize exchange H tag payload (c, p) = r at hx
  cases hx <;> simp [ofEvents, wrote] <;> trivial

theorem onWorld_dialsUnder (f : ω → α × ω) :
    (ofEvents (Event.DialsUnder bound)).Respects (Job.onWorld f) :=
  fun _ _ he => absurd he List.not_mem_nil

theorem readDeadline_dialsUnder (socket : Socket) (timeout : Option Duration) :
    (ofEvents (Event.DialsUnder bound)).Respects (H.readDeadline socket timeout) :=
  (respects_ofIo (onWorld_dialsUnder _)).bind fun _ => respects_emit_ofEvents trivial

theorem writeDeadline_dialsUnder (socket : Socket) (timeout : Option Duration) :
    (ofEvents (Event.DialsUnder bound)).Respects (H.writeDeadline socket timeout) :=
  (respects_ofIo (onWorld_dialsUnder _)).bind fun _ => respects_emit_ofEvents trivial

theorem shutdown_dialsUnder (socket : Socket) :
    (ofEvents (Event.DialsUnder bound)).Respects (H.shutdownSocket socket) :=
  (respects_emit_ofEvents trivial).bind fun _ => onWorld_dialsUnder _

theorem transportReadTimeout_dialsUnder (timeout : Option Duration) :
    (ofEvents (Event.DialsUnder bound)).Respects (transportReadTimeout H timeout) :=
  respects_self.bind fun _ => respects_onRight_ofEvents (readDeadline_dialsUnder _ _)

theorem transportWriteTimeout_dialsUnder (timeout : Option Duration) :
    (ofEvents (Event.DialsUnder bound)).Respects (transportWriteTimeout H timeout) :=
  respects_self.bind fun _ => respects_onRight_ofEvents (writeDeadline_dialsUnder _ _)

theorem transportShutdown_dialsUnder :
    (ofEvents (Event.DialsUnder bound)).Respects (transportShutdown H) :=
  respects_self.bind fun _ => respects_onRight_ofEvents (shutdown_dialsUnder _)

theorem poison_dialsUnder (error : Error) :
    (ofEvents (Event.DialsUnder bound)).Respects (poison H error) :=
  respects_poison transportShutdown_dialsUnder (respects_modify_ofEvents _)

theorem goodbye_dialsUnder : (ofEvents (Event.DialsUnder bound)).Respects (goodbye H) := by
  rintro ⟨c, p⟩
  obtain ⟨es, hes, run⟩ := goodbye_apply H c p
  rw [run]
  intro e he
  rcases List.mem_cons.mp he with rfl | he
  · exact .inr (.inr rfl)
  · rcases List.mem_append.mp he with he | he
    · rcases hes with rfl | ⟨frame, rfl, -⟩
      · cases he
      · rw [List.mem_singleton.mp he]
        trivial
    · rw [List.mem_singleton.mp he]
      trivial

theorem setUpPath_dialsUnder : SetUpPath H (ofEvents (Event.DialsUnder bound)) where
  hello := exchange_dialsUnder (.inl rfl)
  auth := exchange_dialsUnder (.inr rfl)
  poison := poison_dialsUnder
  readTimeout := transportReadTimeout_dialsUnder
  writeTimeout := transportWriteTimeout_dialsUnder
  recordGrant _ := (respects_modify_ofEvents _).bind fun _ =>
    respects_self.bind fun _ => respects_emit_ofEvents trivial
  identified _ := respects_modify_ofEvents _
  withReadTimeout _ := respects_modify_ofEvents _
  closeInner := respects_closeInner transportReadTimeout_dialsUnder
    transportWriteTimeout_dialsUnder (respects_modify_ofEvents _) transportShutdown_dialsUnder
    goodbye_dialsUnder

theorem respects_dial {P : Path (Process ω) Event} {host : String} {port : UInt16}
    {timeout : Option Duration} (resolve : P.Respects (Job.onWorld (H.resolve host port)))
    (dialing : ∀ address, P.Respects
      (Action.emit (.dialing address (Duration.nonZero timeout)) : Job ω Unit))
    (attempt : ∀ socket address,
      P.Respects (Job.onWorld (H.connect socket address (Duration.nonZero timeout))))
    (opened : P.Respects (Action.modify fun p => { p with opened := p.opened + 1 } : Job ω Unit)) :
    P.Respects (H.dial host port timeout) := by
  have once (address : String) : P.Respects (H.dialOnce address (Duration.nonZero timeout)) := by
    refine (dialing address).bind fun _ => (respects_view _).bind fun socket =>
      (attempt socket address).bind fun r => ?_
    cases r with
    | ok u => exact opened.bind fun _ => respects_pure _
    | error text => exact respects_pure _
  have each (addresses : List String) (last : String) :
      P.Respects (H.dialEach host port timeout addresses last) := by
    induction addresses generalizing last with
    | nil => exact respects_fail _
    | cons address rest ih =>
      refine (once address).bind fun r => ?_
      cases r with
      | ok socket => exact respects_pure socket
      | error text => exact ih text
  refine resolve.bind fun r => ?_
  split
  · exact respects_fail _
  · exact respects_fail _
  · exact each _ ""

theorem dial_dialsUnder (host : String) (port : UInt16) (timeout : Option Duration) :
    (ofEvents (Event.DialsUnder (Duration.nonZero timeout))).Respects
      (H.dial host port timeout) :=
  respects_dial (onWorld_dialsUnder _) (fun _ => respects_emit_ofEvents rfl)
    (fun _ _ => onWorld_dialsUnder _) (respects_modify_ofEvents _)

theorem connect_dialsUnder (options : Options) :
    (ofEvents (Event.DialsUnder (Duration.nonZero options.connectTimeout))).Respects
      (connect H options) := by
  refine (dial_dialsUnder _ _ _).bind fun tcp => Respects.bind ?_ fun transport => ?_
  · exact respects_secure (readDeadline_dialsUnder _) (writeDeadline_dialsUnder _)
      (fun _ => respects_ofTls (onWorld_dialsUnder _)) (fun _ _ => respects_ofTls (onWorld_dialsUnder _))
      (fun _ _ => respects_emit_ofEvents trivial) (fun _ _ => respects_ofTls (onWorld_dialsUnder _)) options
  · have named : (ofEvents (Event.DialsUnder (Duration.nonZero options.connectTimeout))).Respects
        (nextConnectionPrefix H) :=
      (onWorld_dialsUnder _).bind fun _ => (respects_view _).bind fun _ =>
        (respects_modify_ofEvents _).bind fun _ => respects_pure _
    refine named.bind fun pre p => ?_
    obtain ⟨c, rel, -⟩ := setUpPath_dialsUnder.owning (newClient transport pre options)
      (handshake H options) (setUpPath_dialsUnder.handshake options) p
    exact rel

end

theorem connect_isSetUp (options : Options) (p : Process ω) :
    ∀ e ∈ (connect H options p).events, e.IsSetUp :=
  fun e he => (connect_dialsUnder options p e he).isSetUp

theorem followHint_here (s : Client × Process ω) :
    followHint H (some s.1.address) s = ⟨.returned false, s, []⟩ := by
  simp [followHint]

theorem followHint_other {address : String} {s : Client × Process ω} (other : address ≠ s.1.address) :
    followHint H (some address) s = moveTo H address s := by
  simp [followHint, other]

variable (H) in
/-- What a hint makes of the client: it stays as it is, or moves to another address. -/
inductive Hinting (s : Client × Process ω) :
    Option String → Execution (Client × Process ω) Error Event Bool → Prop
  | stays (hint : Option String) : Hinting s hint ⟨.returned false, s, []⟩
  | moves (address : String) : Hinting s (some address) (moveTo H address s)

theorem hinting (hint : Option String) (s : Client × Process ω) :
    Hinting H s hint (followHint H hint s) := by
  cases hint with
  | none => exact .stays none
  | some address =>
    by_cases here : address = s.1.address
    · subst here
      rw [followHint_here]
      exact .stays _
    · rw [followHint_other here]
      exact .moves address

/-- How following a hint goes: the client stays where it was, or has moved. -/
inductive HintFollowed (c : Client) (p : Process ω) :
    Execution (Client × Process ω) Error Event Bool → Prop
  | stayed (p' : Process ω) (es : List Event) (hes : ∀ e ∈ es, e.IsSetUp) :
    HintFollowed c p ⟨.returned false, (c, p'), es⟩
  | moved (options : Options) (address : String) (fresh : Client) (p' : Process ω)
    (es : List Event) (hes : ∀ e ∈ es, e.IsSetUp)
    (run : connect H options p = ⟨.returned fresh, p', es⟩) :
    HintFollowed c p
      ⟨.returned true, (Client.adopting fresh address c, H.dropped c p' p'.world),
        es ++ [.moved fresh.transport, .shutdown c.transport.socket]⟩

theorem hintFollowed (hint : Option String) (c : Client) (p : Process ω) :
    HintFollowed (H := H) c p (followHint H hint (c, p)) := by
  have stays : HintFollowed (H := H) c p ⟨.returned false, (c, p), []⟩ := .stayed p [] (by simp)
  have hinted := hinting (H := H) hint (c, p)
  generalize followHint H hint (c, p) = r at hinted ⊢
  cases hinted with
  | stays => exact stays
  | moves address =>
    have hm := moving (H := H) address c p
    generalize moveTo H address (c, p) = r at hm ⊢
    cases hm with
    | unreadable _ => exact stays
    | stayed host port _ e p' es hc =>
      have set := connect_isSetUp (H := H) (followOptions c.options host port) p
      rw [hc] at set
      exact .stayed p' es set
    | moved host port _ fresh p' es hc =>
      have set := connect_isSetUp (H := H) (followOptions c.options host port) p
      rw [hc] at set
      exact .moved _ address fresh p' es set hc

/-! ## The retry loop, by rounds -/

/-- What the loop makes of its last attempt: only a redirect is reworded. -/
inductive LoopEnds (retried : Nat) : Outcome Error Response → Outcome Error Response → Prop
  | kept (o : Outcome Error Response) (h : ∀ e, o = .failed e → e.isRedirect = false) :
    LoopEnds retried o o
  | gaveUp (e : Error) (h : e.isRedirect = true) :
    LoopEnds retried (.failed e) (.failed (retriedError e retried))

/-- What the loop does after following a hint: send again, after a pause if it did not move. -/
def sendAgain (H : Host ω) (envelope : Value) (left retried : Nat) (pause : Duration)
    (moved : Bool) (s : Client × Process ω) : Execution (Client × Process ω) Error Event Response :=
  if moved then sendLoop H envelope left (retried + 1) pause s
  else
    match nextPause pause with
    | none => ⟨.panicked, s, [.paused pause]⟩
    | some next => (sendLoop H envelope left (retried + 1) next s).after [.paused pause]

/-- One round of the loop: its attempt is the last one, or it was redirected and
the loop goes on from wherever the hint led. -/
inductive Round (envelope : Value) (left retried : Nat) (pause : Duration) (c : Client)
    (p : Process ω) : Execution (Client × Process ω) Error Event Response → Prop
  | last (o o' : Outcome Error Response) (s : Client × Process ω) (es : List Event)
    (run : sendOnce H envelope (c, p) = ⟨o, s, es⟩) (ends : LoopEnds retried o o') :
    Round envelope left retried pause c p ⟨o', s, es⟩
  | again (left' : Nat) (hl : left = left' + 1) (follow : c.options.followLeader = true)
    (txn : c.txnOpen = false) (e : Error) (redirect : e.isRedirect = true) (frame : Frame) (w : ω)
    (reply : replyOf H frame = some (.error e))
    (run : sendOnce H envelope (c, p) = ⟨.failed e, (c, { p with world := w }),
      [.wrote c.transport .request (some envelope), .answered c.transport frame]⟩)
    (moved : Bool) (s : Client × Process ω) (fs : List Event)
    (hint : followHint H e.leaderHint (c, { p with world := w }) = ⟨.returned moved, s, fs⟩) :
    Round envelope left retried pause c p
      ((sendAgain H envelope left' retried pause moved s).after
        ([.wrote c.transport .request (some envelope), .answered c.transport frame] ++ fs))

theorem followHint_returns (hint : Option String) (c : Client) (p : Process ω) :
    ∃ moved s es, followHint H hint (c, p) = ⟨.returned moved, s, es⟩ := by
  have hf := hintFollowed (H := H) hint c p
  generalize followHint H hint (c, p) = r at hf
  cases hf with
  | stayed p' es set => exact ⟨_, _, _, rfl⟩
  | moved options address fresh p' es set run => exact ⟨_, _, _, rfl⟩

theorem sendLoop_round (envelope : Value) (left retried : Nat) (pause : Duration) (c : Client)
    (p : Process ω) :
    Round (H := H) envelope left retried pause c p
      (sendLoop H envelope left retried pause (c, p)) := by
  rcases h : sendOnce H envelope (c, p) with ⟨o, s, es⟩
  cases o with
  | returned r =>
    rw [sendLoop_returned h]
    exact .last _ _ _ _ h (.kept _ nofun)
  | panicked => exact absurd (by rw [h]) ((sendOnce_yields H envelope).ne_panicked (c, p))
  | failed e =>
    cases he : e.isRedirect with
    | false =>
      rw [sendLoop_failed he h]
      exact .last _ _ _ _ h (.kept _ fun e' heq => by cases heq; exact he)
    | true =>
      obtain ⟨frame, w, hf, rfl, rfl⟩ := sendOnce_redirected h he
      by_cases stay : c.options.followLeader = false ∨ c.txnOpen = true ∨ left = 0
      · rw [sendLoop_kept he h stay]
        exact .last _ _ _ _ h (.gaveUp e he)
      · simp only [not_or, Bool.not_eq_false, Bool.not_eq_true] at stay
        obtain ⟨left', rfl⟩ := Nat.exists_eq_succ_of_ne_zero stay.2.2
        obtain ⟨moved, s, fs, hm⟩ := followHint_returns (H := H) e.leaderHint c { p with world := w }
        have again : Round (H := H) envelope (left' + 1) retried pause c p _ :=
          .again left' rfl stay.1 stay.2.1 e he frame w hf h moved s fs hm
        rw [sendLoop_again he h stay.1 stay.2.1 hm]
        cases moved with
        | true => exact again
        | false =>
          cases hp : nextPause pause with
          | none => simpa [sendAgain, hp, Execution.after] using again
          | some next => simpa [sendAgain, hp, Execution.after_after] using again

theorem sendLoop_stays (envelope : Value) {left : Nat} (retried : Nat) (pause : Duration)
    {c : Client} (p : Process ω)
    (stays : c.options.followLeader = false ∨ c.txnOpen = true ∨ left = 0) :
    ∃ o, o ≠ .panicked ∧ sendLoop H envelope left retried pause (c, p) =
      ⟨o, (sendOnce H envelope (c, p)).state, (sendOnce H envelope (c, p)).events⟩ := by
  have hround := sendLoop_round (H := H) envelope left retried pause c p
  have once := (sendOnce_yields H envelope).ne_panicked (c, p)
  generalize sendLoop H envelope left retried pause (c, p) = r at hround ⊢
  cases hround with
  | last o o' s es run ends =>
    rw [run] at once ⊢
    cases ends with
    | kept _ _ => exact ⟨o, once, rfl⟩
    | gaveUp e _ => exact ⟨.failed (retriedError e retried), nofun, rfl⟩
  | again left' hl follow txn e redirect frame w reply run moved s fs hint =>
    rcases stays with off | inside | rfl
    · exact absurd (off.symm.trans follow) (by decide)
    · exact absurd (inside.symm.trans txn) (by decide)
    · cases hl

end

end TricoreSdk
