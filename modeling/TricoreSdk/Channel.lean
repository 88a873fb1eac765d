import TricoreSdk.Footprint
import TricoreSdk.Scripted

/-! The channel a caller asked for: whatever a server answers and wherever its
hints lead, credentials go only where the handshake was accepted, over TLS set
up as the caller's options say. -/

namespace TricoreSdk
open Effects Path

def lastDialled (log : List Event) : Option String :=
  log.foldl (fun last e => match e with | .dialing address _ => some address | _ => last) none

/-- The frames that carry what the options say: who the client is, and where its requests go. -/
def Options.Speaks (options : Options) : Tag → Option Value → Prop
  | .hello, payload => ∃ v, payload = some v ∧ v.get "client" = some (.string options.clientName) ∧
    v.get "features" = some (Value.ofU64 options.announcedFeatures)
  | .auth, payload => ∃ user v, options.user = some user ∧ payload = some v ∧
    v.get "username" = some (.string user) ∧
    v.get "secret" =
      some (byteList ((options.secret.getD "").toList.flatMap String.utf8EncodeChar))
  | .request, payload => ∃ v, payload = some v ∧ v.get "database" = some (.string options.database)
  | _, _ => True

def Secured (log : List Event) (transport : Transport) : Prop :=
  ∃ socket opts name, transport = .tls socket ∧ Event.tlsHandshake socket opts name ∈ log

section

variable {ω α β : Type} (H : Host ω)

/-- The connection answered `HELLO` with a `HELLO_OK` whose body says `ok`. -/
def Greeted (log : List Event) (transport : Transport) : Prop :=
  ∃ before payload frame body after,
    log = before ++ .wrote transport .hello payload :: .answered transport frame :: after ∧
      frame.tag = .helloOk ∧ H.serde.helloOk frame.payload = .ok body ∧ body.ok = true

/-- The TLS set-up of a connection is the caller's. The name is the caller's too on
the first connection, and the host that was dialled on every later one. -/
structure AsAsked (options : Options) (first : Socket) (log : List Event) (socket : Socket)
    (opts : TlsOptions) (name : String) : Prop where
  asked : ∃ tls, options.tls = some tls ∧ opts = { tls with serverName := opts.serverName } ∧
    (socket = first → opts = tls)
  named : name = opts.serverName.getD "localhost"
  dialled : socket ≠ first → opts.serverName = some name ∧ ∃ port w addresses address,
    (H.resolve name port w).1 = .ok addresses ∧ address ∈ addresses ∧
      lastDialled log = some address

/-- What an event may be, after a log: a TLS handshake as the caller asked for,
and frames on secured connections that say what the caller's options say. -/
def Guarded (options : Options) (first : Socket) (log : List Event) : Event → Prop
  | .tlsHandshake socket opts name => AsAsked H options first log socket opts name
  | .wrote transport tag payload =>
    (options.tls ≠ none → Secured log transport) ∧ options.Speaks tag payload ∧
      (tag = .auth → Greeted H log transport)
  | _ => True

/-- A client from its connection to its end: connect, use it, drop it. -/
def lifetime (options : Options) (work : Proc α) : Job ω α := fun p =>
  let opened := connect H options p
  match opened.outcome with
  | .returned c =>
    let used := work.run H (c, opened.state)
    let dropped := closeInner H used.state
    ⟨used.outcome, dropped.state.2, opened.events ++ (used.events ++ dropped.events)⟩
  | .failed e => ⟨.failed e, opened.state, opened.events⟩
  | .panicked => ⟨.panicked, opened.state, opened.events⟩

/-- Options that agree with the caller's in all but the address, the certificate's
name and the time to connect. -/
structure Alike (options via : Options) : Prop where
  user : via.user = options.user
  secret : via.secret = options.secret
  database : via.database = options.database
  clientName : via.clientName = options.clientName
  features : via.features = options.features
  plain : via.tls = none ↔ options.tls = none
  tls : ∀ opts, via.tls = some opts → ∃ tls, options.tls = some tls ∧
    opts = { tls with serverName := opts.serverName }

theorem Alike.refl (options : Options) : Alike options options :=
  ⟨rfl, rfl, rfl, rfl, rfl, Iff.rfl, fun opts h => ⟨opts, h, rfl⟩⟩

theorem Alike.follow {options via : Options} (h : Alike options via) (host : String) (port : UInt16) :
    Alike options (followOptions via host port) where
  user := h.user
  secret := h.secret
  database := h.database
  clientName := h.clientName
  features := h.features
  plain := Option.map_eq_none_iff.trans h.plain
  tls opts ho := by
    obtain ⟨tls, ht, rfl⟩ := Option.map_eq_some_iff.mp ho
    obtain ⟨caller, hc, heq⟩ := h.tls tls ht
    exact ⟨caller, hc, by rw [heq]⟩

/-- A client that keeps to the caller's options, on a connection that is as they ask. -/
structure Sealed (options : Options) (first : Socket) (log : List Event)
    (s : Client × Process ω) : Prop where
  secured : options.tls ≠ none → Secured log s.1.transport
  alike : Alike options s.1.options
  database : s.1.database = options.database
  later : first < s.2.opened

def sealing (options : Options) (first : Socket) : Path (Client × Process ω) Event where
  rel a es b := ∀ log, Sealed options first log a →
    Throughout (Guarded H options first) log es ∧ Sealed options first (log ++ es) b
  refl a log h := ⟨trivial, by rwa [List.append_nil]⟩
  trans := by
    intro a b c es fs h h' log ha
    obtain ⟨hes, hb⟩ := h log ha
    obtain ⟨hfs, hc⟩ := h' _ hb
    rw [throughout_append, ← List.append_assoc]
    exact ⟨⟨hes, hfs⟩, hc⟩

variable {H} {options : Options} {first : Socket}

theorem Secured.append {log : List Event} {transport : Transport} (h : Secured log transport)
    (es : List Event) : Secured (log ++ es) transport := by
  obtain ⟨socket, opts, name, ht, hm⟩ := h
  exact ⟨socket, opts, name, ht, List.mem_append_left _ hm⟩

theorem Greeted.append {log : List Event} {transport : Transport} (h : Greeted H log transport)
    (es : List Event) : Greeted H (log ++ es) transport := by
  obtain ⟨before, payload, frame, body, after, rfl, rest⟩ := h
  exact ⟨before, payload, frame, body, after ++ es, by simp, rest⟩

theorem Sealed.later_on {log : List Event} {a b : Client × Process ω}
    (h : Sealed options first log a) (transport : b.1.transport = a.1.transport)
    (ho : b.1.options = a.1.options) (database : b.1.database = a.1.database)
    (opened : a.2.opened ≤ b.2.opened) (es : List Event) :
    Sealed options first (log ++ es) b where
  secured ht := transport ▸ (h.secured ht).append es
  alike := ho ▸ h.alike
  database := database.trans h.database
  later := Nat.lt_of_lt_of_le h.later opened

/-- Neither a frame nor a TLS handshake. -/
def Event.isPassing : Event → Bool
  | .tlsHandshake _ _ _ | .wrote _ _ _ => false
  | _ => true

theorem guarded_of_passing {es : List Event} (h : ∀ e ∈ es, e.isPassing = true) (log : List Event) :
    Throughout (Guarded H options first) log es := by
  refine throughout_of_forall (fun e he log => ?_) log
  have := h e he
  cases e with
  | tlsHandshake _ _ _ => cases this
  | wrote _ _ _ => cases this
  | _ => trivial

/-- What a step must not change. -/
structure SameChannel (a b : Client × Process ω) : Prop where
  transport : b.1.transport = a.1.transport
  options : b.1.options = a.1.options
  database : b.1.database = a.1.database
  opened : a.2.opened ≤ b.2.opened

theorem sealing_of_passing {a b : Client × Process ω} {es : List Event} (same : SameChannel a b)
    (h : ∀ e ∈ es, e.isPassing = true) : (sealing H options first).rel a es b := fun log ha =>
  ⟨guarded_of_passing h log, ha.later_on same.transport same.options same.database same.opened es⟩

theorem sealing_of_wrote {a b : Client × Process ω} {tag : Tag} {payload : Option Value}
    {es : List Event} {log : List Event} (same : SameChannel a b) (h : ∀ e ∈ es, e.isPassing = true)
    (speaks : options.Speaks tag payload) (greeted : tag = .auth → Greeted H log a.1.transport)
    (ha : Sealed options first log a) :
    Throughout (Guarded H options first) log (.wrote a.1.transport tag payload :: es) ∧
      Sealed options first (log ++ .wrote a.1.transport tag payload :: es) b :=
  ⟨⟨⟨ha.secured, speaks, greeted⟩, guarded_of_passing h _⟩,
    ha.later_on same.transport same.options same.database same.opened _⟩

theorem sealed_exchange {tag : Tag} {payload : Option Value} {log : List Event} {c : Client}
    {p : Process ω} (speaks : options.Speaks tag payload)
    (greeted : tag = .auth → Greeted H log c.transport) (h : Sealed options first log (c, p)) :
    Throughout (Guarded H options first) log (exchange H tag payload (c, p)).events ∧
      Sealed options first (log ++ (exchange H tag payload (c, p)).events)
        (exchange H tag payload (c, p)).state := by
  have hx := exchanged H tag payload c p
  generalize exchange H tag payload (c, p) = r at hx
  cases hx with
  | faulted fault hf => exact (sealing H options first).refl _ log h
  | closed hf hc => exact (sealing H options first).refl _ log h
  | tooLarge live e he => exact (sealing H options first).refl _ log h
  | writeFailed live bytes he e w hw =>
    refine sealing_of_wrote (a := (c, p)) (b := (c.poisoned e.val, H.dropped c p w))
      ⟨rfl, rfl, rfl, Nat.le_refl _⟩ ?_ speaks greeted h
    simp [Event.isPassing]
  | readFailed live bytes he e w w' hw hr =>
    refine sealing_of_wrote (a := (c, p)) (b := (c.poisoned e.val, H.dropped c p w'))
      ⟨rfl, rfl, rfl, Nat.le_refl _⟩ ?_ speaks greeted h
    simp [Event.isPassing]
  | answered live bytes he frame w w' hw hr =>
    refine sealing_of_wrote (a := (c, p)) (b := (c, { p with world := w' }))
      ⟨rfl, rfl, rfl, Nat.le_refl _⟩ ?_ speaks greeted h
    simp [Event.isPassing]

theorem sealing_exchange {tag : Tag} {payload : Option Value} (ht : tag ≠ .auth)
    (speaks : options.Speaks tag payload) :
    (sealing H options first).Respects (exchange H tag payload) := fun _ _ h =>
  sealed_exchange speaks (fun he => absurd he ht) h

theorem sealing_update {f : Client → Client} (h : ∀ s : Client × Process ω, SameChannel s (f s.1, s.2)) :
    (sealing H options first).Respects (Method.update f : Method ω Unit) := fun s =>
  sealing_of_passing (h s) (by simp)

theorem sealing_poison (error : Error) : (sealing H options first).Respects (poison H error) :=
  respects_poison_of_dropped fun _ _ _ =>
    sealing_of_passing ⟨rfl, rfl, rfl, Nat.le_refl _⟩ (by simp [Event.isPassing])

theorem sealing_shutdown : (sealing H options first).Respects (transportShutdown H) := fun s =>
  sealing_of_passing ⟨rfl, rfl, rfl, Nat.le_refl _⟩
    (by simp [transportShutdown, Execution.after, Event.isPassing])

theorem readDeadline_quiet (socket : Socket) (timeout : Option Duration) (p : Process ω) :
    (H.readDeadline socket timeout p).state.opened = p.opened ∧
      ∀ e ∈ (H.readDeadline socket timeout p).events,
        e = .readTimeout socket (Duration.nonZero timeout) := by
  rcases h : H.setReadTimeout socket (Duration.nonZero timeout) p.world with ⟨_ | e, w⟩ <;>
    simp [Host.readDeadline, Job.ofIo, h, Execution.after]

theorem writeDeadline_quiet (socket : Socket) (timeout : Option Duration) (p : Process ω) :
    (H.writeDeadline socket timeout p).state.opened = p.opened ∧
      ∀ e ∈ (H.writeDeadline socket timeout p).events,
        e = .writeTimeout socket (Duration.nonZero timeout) := by
  rcases h : H.setWriteTimeout socket (Duration.nonZero timeout) p.world with ⟨_ | e, w⟩ <;>
    simp [Host.writeDeadline, Job.ofIo, h, Execution.after]

theorem sealing_readTimeout (timeout : Option Duration) :
    (sealing H options first).Respects (transportReadTimeout H timeout) := by
  intro s
  obtain ⟨opened, events⟩ := readDeadline_quiet (H := H) s.1.transport.socket timeout s.2
  refine sealing_of_passing ⟨rfl, rfl, rfl, opened.ge⟩ fun e he => ?_
  rw [events e he]
  rfl

theorem sealing_writeTimeout (timeout : Option Duration) :
    (sealing H options first).Respects (transportWriteTimeout H timeout) := by
  intro s
  obtain ⟨opened, events⟩ := writeDeadline_quiet (H := H) s.1.transport.socket timeout s.2
  refine sealing_of_passing ⟨rfl, rfl, rfl, opened.ge⟩ fun e he => ?_
  rw [events e he]
  rfl

theorem sealing_setReadTimeout (timeout : Option Duration) :
    (sealing H options first).Respects (setReadTimeout H timeout) :=
  (sealing_update (f := Client.withReadTimeout timeout)
    fun _ => ⟨rfl, rfl, rfl, Nat.le_refl _⟩).bind fun _ => sealing_readTimeout _

theorem sealing_goodbye : (sealing H options first).Respects (goodbye H) := by
  rintro ⟨c, p⟩ log h
  obtain ⟨es, hes, run⟩ := goodbye_apply H c p
  rw [run]
  have speaks : options.Speaks .close none := trivial
  refine sealing_of_wrote (a := (c, p))
    (b := (c, H.dropped c p _)) ⟨rfl, rfl, rfl, Nat.le_refl _⟩ ?_ speaks
    (fun he => by cases he) h
  rcases hes with rfl | ⟨frame, rfl, -⟩ <;> simp [Event.isPassing]

theorem sealing_closeInner : (sealing H options first).Respects (closeInner H) :=
  respects_closeInner sealing_readTimeout sealing_writeTimeout
    (sealing_update (f := Client.closing) fun _ => ⟨rfl, rfl, rfl, Nat.le_refl _⟩) sealing_shutdown
    sealing_goodbye

/-! ## The handshake -/

/-- An execution that is guarded after a log and leaves a sealed client. -/
def KeptSealed (H : Host ω) (options : Options) (first : Socket) (log : List Event)
    (r : Execution (Client × Process ω) Error Event α) : Prop :=
  Throughout (Guarded H options first) log r.events ∧
    Sealed options first (log ++ r.events) r.state

theorem KeptSealed.bind {m : Method ω α} {f : α → Method ω β} {log : List Event}
    {s : Client × Process ω} (hm : KeptSealed H options first log (m s))
    (hf : ∀ a, (m s).outcome = .returned a →
      KeptSealed H options first (log ++ (m s).events) (f a (m s).state)) :
    KeptSealed H options first log ((m >>= f) s) := by
  unfold KeptSealed at hm hf ⊢
  rw [Action.bind_apply]
  generalize m s = r at hm hf ⊢
  rcases r with ⟨o, s', es⟩
  cases o with
  | returned a =>
    obtain ⟨hes, hs⟩ := hf a rfl
    rw [Execution.follow_returned, Execution.after_events, throughout_append, ← List.append_assoc]
    exact ⟨⟨hm.1, hes⟩, hs⟩
  | failed e => exact hm
  | panicked => exact hm

theorem keptSealed_of_respects {m : Method ω α} (h : (sealing H options first).Respects m)
    {log : List Event} {s : Client × Process ω} (hs : Sealed options first log s) :
    KeptSealed H options first log (m s) := h s log hs

theorem sealing_hello {via : Options} (h : Alike options via) :
    (sealing H options first).Respects (hello H via.clientName via.announcedFeatures) := by
  have features : options.announcedFeatures = via.announcedFeatures := by
    simp [Options.announcedFeatures, h.features]
  refine Respects.bind (sealing_exchange (by decide) ⟨_, rfl, ?_, ?_⟩) fun frame => ?_
  · simp [Value.ofFields, Value.get, Map.lookup_insert, h.clientName]
  · simp [Value.ofFields, Value.get, Map.lookup_insert, features]
  · split
    · refine (respects_ofExcept _).bind fun body => ?_
      split
      · exact respects_fail _
      · exact fun s => sealing_of_passing ⟨rfl, rfl, rfl, Nat.le_refl _⟩
          (by simp [recordGrant, Execution.after, Event.isPassing])
    · exact respects_fail _
    · exact respects_unexpected sealing_poison _ _

theorem hello_greeted {clientName : String} {features : UInt64} {s : Client × Process ω}
    (h : (hello H clientName features s).outcome = .returned ()) (log : List Event) :
    Greeted H (log ++ (hello H clientName features s).events)
      (hello H clientName features s).state.1.transport := by
  obtain ⟨c, p⟩ := s
  unfold hello at h ⊢
  generalize Value.ofFields _ = payload at h ⊢
  have hx := exchanged H .hello (some payload) c p
  rw [Action.bind_apply] at h ⊢
  generalize exchange H .hello (some payload) (c, p) = r at hx h ⊢
  cases hx with
  | faulted fault hf => cases h
  | closed hf hc => cases h
  | tooLarge live e he => cases h
  | writeFailed live bytes he e w hw => cases h
  | readFailed live bytes he e w w' hw hr => cases h
  | answered live bytes he frame w w' hw hr =>
    obtain ⟨tag, body⟩ := frame
    cases tag
    case helloOk =>
      cases hb : H.serde.helloOk body with
      | error text => simp [parseBody, hb] at h
      | ok ack =>
        cases ok : ack.ok with
        | false => simp [parseBody, hb, ok] at h
        | true =>
          refine ⟨log, some payload, ⟨.helloOk, body⟩, ack, [.granted c.transport ack.features], ?_,
            rfl, hb, ok⟩
          simp [parseBody, hb, ok, recordGrant, Execution.after, Client.granting]
    case error => cases h
    all_goals
      simp only [Execution.follow_returned, unexpected_live H live.fault] at h
      cases h

theorem keptSealed_authenticate {via : Options} (h : Alike options via) {log : List Event}
    {s : Client × Process ω} (hs : Sealed options first log s)
    (greeted : Greeted H log s.1.transport) :
    KeptSealed H options first log (authenticate H via s) := by
  unfold authenticate
  cases hu : via.user with
  | none => exact ⟨trivial, by simpa using hs⟩
  | some user =>
    have speaks : options.Speaks .auth (some (Value.ofFields
        [("username", .string user),
          ("secret", byteList ((via.secret.getD "").toList.flatMap String.utf8EncodeChar))])) := by
      refine ⟨user, _, h.user ▸ hu, rfl, ?_, ?_⟩ <;>
        simp [Value.ofFields, Value.get, Map.lookup_insert, h.secret]
    have exchanges : KeptSealed H options first log (exchange H .auth _ s) :=
      sealed_exchange speaks (fun _ => greeted) hs
    refine exchanges.bind fun frame _ => keptSealed_of_respects ?_ exchanges.2
    split
    · refine (respects_ofExcept _).bind fun body => ?_
      split
      · exact respects_fail _
      · exact sealing_update (f := Client.identified body.sessionId)
          fun _ => ⟨rfl, rfl, rfl, Nat.le_refl _⟩
    · exact respects_fail _
    · exact respects_unexpected sealing_poison _ _

theorem keptSealed_handshake {via : Options} (h : Alike options via) {log : List Event}
    {s : Client × Process ω} (hs : Sealed options first log s) :
    KeptSealed H options first log (handshake H via s) := by
  have deadlines := keptSealed_of_respects (H := H) (sealing_readTimeout via.connectTimeout) hs
  refine deadlines.bind fun _ _ => ?_
  have writes := keptSealed_of_respects (H := H) (sealing_writeTimeout (H := H) via.connectTimeout) deadlines.2
  refine writes.bind fun _ _ => ?_
  have greets := keptSealed_of_respects (H := H) (sealing_hello h) writes.2
  refine greets.bind fun _ returned => ?_
  have authenticates := keptSealed_authenticate (H := H) h greets.2 (hello_greeted returned _)
  refine authenticates.bind fun _ _ => ?_
  exact keptSealed_of_respects ((sealing_writeTimeout none).bind fun _ => sealing_setReadTimeout _)
    authenticates.2

/-! ## Opening a connection -/

theorem lastDialled_append {es : List Event} (h : ∀ e ∈ es, ∀ address bound, e ≠ .dialing address bound)
    (log : List Event) : lastDialled (log ++ es) = lastDialled log := by
  unfold lastDialled
  rw [List.foldl_append]
  induction es generalizing log with
  | nil => rfl
  | cons e es ih =>
    rw [List.foldl_cons]
    cases e with
    | dialing address bound => exact absurd rfl (h _ List.mem_cons_self address bound)
    | _ => exact ih (fun x hx => h x (.tail _ hx)) log

/-- A dial ends on one of the addresses, the last one it tried. -/
structure DialsTo (addresses : List String) (p : Process ω)
    (r : Execution (Process ω) Error Event Socket) : Prop where
  passing : ∀ e ∈ r.events, e.isPassing = true
  reached : ∀ socket, r.outcome = .returned socket → socket = p.opened ∧
    ∃ address ∈ addresses, ∀ log, lastDialled (log ++ r.events) = some address

theorem dialEach_dialsTo (host : String) (port : UInt16) (bound : Option Duration)
    (addresses : List String) (last : String) (p : Process ω) :
    DialsTo addresses p (H.dialEach host port bound addresses last p) := by
  induction addresses generalizing last p with
  | nil => exact ⟨fun e he => absurd he List.not_mem_nil, fun socket h => by cases h⟩
  | cons address rest ih =>
    rw [Host.dialEach, Action.bind_apply]
    rcases hc : H.connect p.opened address (Duration.nonZero bound) p.world with ⟨text | _, w⟩
    · have run : H.dialOnce address (Duration.nonZero bound) p =
          ⟨.returned (.error text), { p with world := w },
            [.dialing address (Duration.nonZero bound)]⟩ := by
        simp [Host.dialOnce, hc, Execution.after]
      obtain ⟨passing, reached⟩ := ih text { p with world := w }
      rw [run]
      refine ⟨fun e he => ?_, fun socket h => ?_⟩
      · rcases List.mem_cons.mp he with rfl | he
        · rfl
        · exact passing e he
      · obtain ⟨rfl, found, hm, hl⟩ := reached socket h
        refine ⟨rfl, found, .tail _ hm, fun log => ?_⟩
        have after := hl (log ++ [.dialing address (Duration.nonZero bound)])
        rwa [List.append_assoc] at after
    · have run : H.dialOnce address (Duration.nonZero bound) p =
          ⟨.returned (.ok p.opened), { p with opened := p.opened + 1, world := w },
            [.dialing address (Duration.nonZero bound)]⟩ := by
        simp [Host.dialOnce, hc, Execution.after]
      rw [run]
      refine ⟨by simp [Event.isPassing], fun socket h => ?_⟩
      cases h
      exact ⟨rfl, address, List.mem_cons_self, fun log => by simp [lastDialled]⟩

theorem dial_dialsTo (host : String) (port : UInt16) (bound : Option Duration) (p : Process ω) :
    (∀ e ∈ (H.dial host port bound p).events, e.isPassing = true) ∧
      ∀ socket, (H.dial host port bound p).outcome = .returned socket → socket = p.opened ∧
        ∃ w addresses address, (H.resolve host port w).1 = .ok addresses ∧ address ∈ addresses ∧
          ∀ log, lastDialled (log ++ (H.dial host port bound p).events) = some address := by
  rcases h : H.resolve host port p.world with ⟨r, w⟩
  match r with
  | .error e => exact ⟨by simp [Host.dial, h], by simp [Host.dial, h]⟩
  | .ok [] => exact ⟨by simp [Host.dial, h], by simp [Host.dial, h]⟩
  | .ok (address :: rest) =>
    have run : H.dial host port bound p =
        H.dialEach host port bound (address :: rest) "" { p with world := w } := by
      simp [Host.dial, h]
    obtain ⟨passing, reached⟩ :=
      dialEach_dialsTo (H := H) host port bound (address :: rest) "" { p with world := w }
    rw [run]
    refine ⟨passing, fun socket hs => ?_⟩
    obtain ⟨rfl, found, hm, hl⟩ := reached socket hs
    exact ⟨rfl, p.world, address :: rest, found, by rw [h], hm, hl⟩

/-- An execution that is guarded after a log and returns a secured transport. -/
def Opens (H : Host ω) (options : Options) (first : Socket) (log : List Event)
    (r : Execution (Process ω) Error Event Transport) : Prop :=
  Throughout (Guarded H options first) log r.events ∧
    ∀ t, r.outcome = .returned t → options.tls ≠ none → Secured (log ++ r.events) t

theorem Opens.bind {m : Job ω β} {f : β → Job ω Transport} {log : List Event} {p : Process ω}
    (quiet : ∀ e ∈ (m p).events, e.isPassing = true)
    (hf : ∀ b p', Opens H options first (log ++ (m p).events) (f b p')) :
    Opens H options first log ((m >>= f) p) := by
  have passes : Throughout (Guarded H options first) log _ := guarded_of_passing quiet log
  rw [Action.bind_apply]
  generalize m p = r at hf passes
  rcases r with ⟨o, p', es⟩
  cases o with
  | returned b =>
    obtain ⟨hes, ht⟩ := hf b p'
    refine ⟨(throughout_append ..).mpr ⟨passes, hes⟩, fun t h tls => ?_⟩
    have secured := ht t h tls
    rwa [List.append_assoc] at secured
  | failed e => exact ⟨passes, fun t h => by cases h⟩
  | panicked => exact ⟨passes, fun t h => by cases h⟩

theorem ofTls_events (f : ω → Except String Unit × ω) (p : Process ω) :
    (Job.ofTls f p).events = [] := by
  unfold Job.ofTls
  rw [Action.bind_apply, Job.onWorld_apply]
  cases (f p.world).1 <;> rfl

theorem opens_wrap {log : List Event} {socket : Socket} {opts : TlsOptions}
    (asked : AsAsked H options first log socket opts (opts.serverName.getD "localhost"))
    (p : Process ω) : Opens H options first log (H.wrap socket opts p) := by
  have silent {β : Type} {m : Job ω β} {f : β → Job ω Transport} (p : Process ω)
      (hm : (m p).events = []) (hf : ∀ b p', Opens H options first log (f b p')) :
      Opens H options first log ((m >>= f) p) := by
    refine Opens.bind (by simp [hm]) fun b p' => ?_
    rw [hm, List.append_nil]
    exact hf b p'
  have finish (p : Process ω) : Opens H options first log ((do
        Action.emit (.tlsHandshake socket opts (opts.serverName.getD "localhost"))
        Job.ofTls (H.tlsHandshake socket opts (opts.serverName.getD "localhost"))
        pure (.tls socket) : Job ω Transport) p) := by
    rw [Action.bind_apply, Action.emit_apply, Execution.follow_returned]
    have events := Action.bind_events_of_silent
      (m := Job.ofTls (H.tlsHandshake socket opts (opts.serverName.getD "localhost")))
      (f := fun _ => (pure (.tls socket) : Job ω Transport)) (fun _ _ => rfl) p
    rw [ofTls_events] at events
    refine ⟨?_, fun t h _ => ?_⟩
    · rw [Execution.after_events, events]
      exact ⟨asked, trivial⟩
    · have yields : Yields (do
          Job.ofTls (H.tlsHandshake socket opts (opts.serverName.getD "localhost"))
          pure (.tls socket) : Job ω Transport) fun t => t = .tls socket :=
        (ofTls_returns _).bind fun _ _ => .pure rfl
      exact ⟨socket, opts, _, yields.of_returned h, List.mem_append_right _ List.mem_cons_self⟩
  unfold Host.wrap
  refine silent p ?_ fun _ p' => ?_
  · cases opts.dangerAcceptInvalidCerts with
    | true => rfl
    | false =>
      cases opts.caFile with
      | none => rfl
      | some path => exact ofTls_events _ p
  · cases opts.clientCertFile <;> cases opts.clientKeyFile
    · exact finish p'
    · exact silent p' rfl fun _ => finish
    · exact silent p' rfl fun _ => finish
    · exact silent p' (ofTls_events _ p') fun _ => finish

theorem opens_secure {via : Options} (plain : via.tls = none ↔ options.tls = none)
    {log : List Event} {socket : Socket}
    (asked : ∀ opts, via.tls = some opts →
      AsAsked H options first log socket opts (opts.serverName.getD "localhost"))
    (p : Process ω) : Opens H options first log (secure H via socket p) := by
  unfold secure
  cases hv : via.tls with
  | none => exact ⟨trivial, fun t _ tls => absurd (plain.mp hv) tls⟩
  | some opts =>
    have reads := (readDeadline_quiet (H := H) socket via.connectTimeout p).2
    refine Opens.bind (fun e he => by rw [reads e he]; rfl) fun _ p' => ?_
    have writes := (writeDeadline_quiet (H := H) socket via.connectTimeout p').2
    refine Opens.bind (fun e he => by rw [writes e he]; rfl) fun _ p'' => opens_wrap ?_ p''
    obtain ⟨caller, named, dialled⟩ := asked opts hv
    refine ⟨caller, named, fun later => ?_⟩
    rw [lastDialled_append (fun e he _ _ => by rw [writes e he]; exact Event.noConfusion),
      lastDialled_append fun e he _ _ => by rw [reads e he]; exact Event.noConfusion]
    exact dialled later

variable (options first) in
/-- Where a connection goes: the first one as the caller's options say, a later one to
a host by whose name its certificate is checked. -/
def Bound (via : Options) (p : Process ω) : Prop :=
  (p.opened = first ∧ via.tls = options.tls) ∨
    (first < p.opened ∧ ∀ opts, via.tls = some opts → opts.serverName = some via.host)

theorem asAsked_of_dialled {via : Options} {p : Process ω} (alike : Alike options via)
    (bound : Bound options first via p) {log : List Event} {address : String}
    {addresses : List String} {w : ω} (resolved : (H.resolve via.host via.port w).1 = .ok addresses)
    (hm : address ∈ addresses) (last : lastDialled log = some address) (opts : TlsOptions)
    (ho : via.tls = some opts) :
    AsAsked H options first log p.opened opts (opts.serverName.getD "localhost") where
  asked := by
    obtain ⟨tls, ht, heq⟩ := alike.tls opts ho
    refine ⟨tls, ht, heq, fun here => ?_⟩
    rcases bound with ⟨-, same⟩ | ⟨later, -⟩
    · exact Option.some.inj (ho.symm.trans (same.trans ht))
    · exact absurd here later.ne'
  named := rfl
  dialled there := by
    rcases bound with ⟨here, -⟩ | ⟨-, name⟩
    · exact absurd here there
    · rw [name opts ho]
      exact ⟨rfl, via.port, w, addresses, address, resolved, hm, last⟩

theorem owning_guarded {via : Options} (alike : Alike options via) {log : List Event}
    {client : Client} {p : Process ω} (hs : Sealed options first log (client, p)) :
    Throughout (Guarded H options first) log (owning H client (handshake H via) p).events ∧
      ∀ c, (owning H client (handshake H via) p).outcome = .returned c →
        Sealed options first (log ++ (owning H client (handshake H via) p).events)
          (c, (owning H client (handshake H via) p).state) := by
  have kept := keptSealed_handshake (H := H) alike hs
  rcases run : handshake H via (client, p) with ⟨o, s, es⟩
  rw [run] at kept
  obtain ⟨shakes, after⟩ := kept
  obtain ⟨closes, -⟩ := sealing_closeInner (H := H) s _ after
  cases o with
  | returned u =>
    rw [owning_returned H run]
    refine ⟨shakes, fun c h => ?_⟩
    cases h
    exact after
  | failed e =>
    rw [owning_failed H run]
    exact ⟨(throughout_append ..).mpr ⟨shakes, closes⟩, fun c h => by cases h⟩
  | panicked =>
    rw [owning_panicked H run]
    exact ⟨(throughout_append ..).mpr ⟨shakes, closes⟩, fun c h => by cases h⟩

theorem connect_guarded {via : Options} {p : Process ω} (alike : Alike options via)
    (bound : Bound options first via p) (log : List Event) :
    Throughout (Guarded H options first) log (connect H via p).events ∧
      ∀ c, (connect H via p).outcome = .returned c →
        Sealed options first (log ++ (connect H via p).events) (c, (connect H via p).state) := by
  have first_le : first ≤ p.opened := bound.elim (fun h => h.1.ge) fun h => h.1.le
  obtain ⟨dialPassing, reached⟩ :=
    dial_dialsTo (H := H) via.host via.port via.connectTimeout p
  have dialFresh := (dial_spec (H := H) (fun _ => True) via.host via.port via.connectTimeout p).fresh
  have dialled : Throughout (Guarded H options first) log _ := guarded_of_passing dialPassing log
  have steps := connectSteps (H := H) via p
  generalize connect H via p = r at steps ⊢
  cases steps with
  | undialled e p₁ es₁ dial =>
    rw [dial] at dialled
    exact ⟨dialled, fun c h => by cases h⟩
  | unsecured tcp p₁ es₁ dial e p₂ es₂ secured =>
    rw [dial] at reached dialled
    obtain ⟨rfl, w, addresses, address, resolved, hm, last⟩ := reached tcp rfl
    have opens := opens_secure (H := H) alike.plain
      (asAsked_of_dialled alike bound resolved hm (last log)) p₁
    rw [secured] at opens
    exact ⟨(throughout_append ..).mpr ⟨dialled, opens.1⟩, fun c h => by cases h⟩
  | handedOver t p₁ es₁ dial p₂ es₂ secured =>
    rw [dial] at reached dialFresh dialled
    obtain ⟨own, w, addresses, address, resolved, hm, last⟩ := reached _ rfl
    have quiet : (opening H fun _ => True).Respects (secure H via t.socket) :=
      opening_secure trivial via
    have securePath := quiet p₁
    have opens := opens_secure (H := H) alike.plain
      (asAsked_of_dialled alike bound resolved hm (last log)) p₁
    rw [← own, secured] at opens
    rw [secured] at securePath
    obtain ⟨secures, sealed⟩ := opens
    have before := (throughout_append ..).mpr ⟨dialled, secures⟩
    have later : first < p₂.opened :=
      Nat.lt_of_le_of_lt first_le (own ▸ Nat.lt_of_lt_of_le (dialFresh _ rfl).2 securePath.1)
    have ready : Sealed options first (log ++ (es₁ ++ es₂))
        (newClient t (nextPrefix H p₂) via, stamped H p₂) := by
      refine ⟨fun tls => ?_, alike, alike.database, later⟩
      rw [← List.append_assoc]
      exact sealed t rfl tls
    obtain ⟨rest, returned⟩ := owning_guarded (H := H) alike ready
    have whole := (throughout_append ..).mpr ⟨before, rest⟩
    simp only [List.append_assoc] at whole returned
    simp only [Execution.after_events, Execution.after_outcome, Execution.after_state,
      List.append_assoc]
    exact ⟨whole, returned⟩

/-! ## Calls -/

theorem sealing_moveTo (address : String) :
    (sealing H options first).Respects (moveTo H address) := by
  rintro ⟨c, p⟩ log h
  have hm := moving (H := H) address c p
  generalize moveTo H address (c, p) = r at hm
  have opens (host : String) (port : UInt16) := connect_guarded (H := H) (h.alike.follow host port)
    (p := p) (.inr ⟨h.later, fun opts ho => by
      obtain ⟨tls, -, rfl⟩ := Option.map_eq_some_iff.mp ho
      rfl⟩) log
  cases hm with
  | unreadable _ => exact (sealing H options first).refl _ log h
  | stayed host port _ e p' es run =>
    obtain ⟨guarded, -⟩ := opens host port
    have opened := (connect_sparing (H := H) perSocket_unit 0 _ p run).1
    rw [run] at guarded
    exact ⟨guarded, h.later_on (a := (c, p)) (b := (c, p')) rfl rfl rfl opened es⟩
  | moved host port _ fresh p' es run =>
    obtain ⟨guarded, returned⟩ := opens host port
    rw [run] at guarded returned
    have fresh_sealed := returned fresh rfl
    refine ⟨(throughout_append ..).mpr ⟨guarded, trivial, trivial, trivial⟩, ?_⟩
    rw [← List.append_assoc]
    exact ⟨fun tls => (fresh_sealed.secured tls).append _, h.alike, h.database, fresh_sealed.later⟩

theorem sealing_sendIn (op : Value) (txn : Option String) :
    (sealing H options first).Respects (sendIn H op txn) := by
  rintro ⟨c, p⟩ log h
  have speaks : options.Speaks .request (some (c.envelope op txn)) := by
    refine ⟨_, rfl, ?_⟩
    rw [← h.database]
    exact envelopeOf_database ..
  rw [sendIn_apply]
  have numbered : Sealed options first log (c.numbered, p) := ⟨h.secured, h.alike, h.database, h.later⟩
  have loops := respects_sendLoop (P := sealing H options first)
    (respects_sendOnce (sealing_exchange (by decide) speaks) sealing_poison) sealing_moveTo
    (fun _ s => sealing_of_passing ⟨rfl, rfl, rfl, Nat.le_refl _⟩ (by simp [Event.isPassing]))
    c.options.leaderRetries.toNat 0 c.options.leaderRetryDelay
  exact loops (c.numbered, p) log numbered

theorem requestPath_sealing : RequestPath H (sealing H options first) where
  sendIn := sealing_sendIn
  ping := respects_ping (sealing_exchange (by decide) trivial) sealing_poison
  cancel := respects_cancel (fun _ => sealing_exchange (by decide) trivial) sealing_poison
  update hf := sealing_update fun s =>
    have kept := hf.kept s.1
    ⟨kept.transport, kept.options, kept.database, Nat.le_refl _⟩
  withTxnOpen isOpen := sealing_update fun _ => ⟨rfl, rfl, rfl, Nat.le_refl _⟩

theorem sealing_proc (work : Proc α) : (sealing H options first).Respects (work.run H) :=
  respects_proc (fun _ => requestPath_sealing.run_of fun t _ => sealing_setReadTimeout t) work

/-- From the first dial to the last goodbye, whatever the servers answer and wherever
their hints lead, everything a client does is guarded. -/
theorem lifetime_guarded (H : Host ω) (options : Options) (p : Process ω) (work : Proc α) :
    Throughout (Guarded H options p.opened) [] (lifetime H options work p).events := by
  obtain ⟨opens, returned⟩ := connect_guarded (H := H) (p := p) (.refl options)
    (show Bound options p.opened options p from .inl ⟨rfl, rfl⟩) []
  unfold lifetime
  dsimp only
  split
  · rename_i c hc
    obtain ⟨uses, after⟩ := sealing_proc (H := H) work _ _ (returned c hc)
    obtain ⟨closes, -⟩ := sealing_closeInner (H := H) _ _ after
    exact (throughout_append ..).mpr ⟨opens, (throughout_append ..).mpr ⟨uses, closes⟩⟩
  · exact opens
  · exact opens

end

/-- Credentials over TLS, once the server has said hello. -/
example :
    (lifetime scripted
      { Options.default with user := some "u", tls := some ⟨none, some "a", false, none, none⟩ }
      (.done (.ok ()) : Proc Unit) (playing [replies .helloOk helloAll])).events.any
        (fun e => match e with | .wrote (.tls 0) .auth _ => true | _ => false) = true := by
  decide +kernel

end TricoreSdk
