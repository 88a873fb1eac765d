import TricoreSdk.Lib.Coupling
import TricoreSdk.Channel

/-! Where the secret goes. Two clients whose options differ in the secret only run side
by side; against servers that take either one they do the same, but for the one
field of the `AUTH` frame. -/

namespace TricoreSdk
open Effects

/-- The payload of the `AUTH` frame. -/
def credentials (user : String) (secret : Option String) : Value :=
  Value.ofFields
    [("username", .string user),
      ("secret", byteList ((secret.getD "").toList.flatMap String.utf8EncodeChar))]

/-- The user that two runs authenticate as, and the secret of each. -/
structure Twofold where
  user : Option String
  left : Option String
  right : Option String

namespace Twofold

variable (T : Twofold)

inductive Payload : Tag → Option Value → Option Value → Prop
  | same (tag : Tag) (payload : Option Value) : Payload tag payload payload
  | auth (user : String) (h : T.user = some user) :
    Payload .auth (some (credentials user T.left)) (some (credentials user T.right))

inductive Happens : Event → Event → Prop
  | same (e : Event) : Happens e e
  | auth (transport : Transport) (user : String) (h : T.user = some user) :
    Happens (.wrote transport .auth (some (credentials user T.left)))
      (.wrote transport .auth (some (credentials user T.right)))

structure Opts (o o' : Options) : Prop where
  user : o.user = T.user
  secret : o.secret = T.left
  twin : o' = { o with secret := T.right }

inductive Clients : Client → Client → Prop
  | mk (c : Client) (o : Options) (h : T.Opts c.options o) : Clients c { c with options := o }

end Twofold

/-- The same answer, in related worlds. -/
def AnswersAlike {ω ν α : Type} (W : ω → ν → Prop) (x : α × ω) (y : α × ν) : Prop := x.1 = y.1 ∧ W x.2 y.2

/-- Two outsides that cannot be told apart, as long as each is shown its own run's secret. -/
structure HostsAlike {ω ν : Type} (T : Twofold) (H : Host ω) (K : Host ν) (W : ω → ν → Prop) : Prop where
  serde : K.serde = H.serde
  processId : K.processId = H.processId
  clock : ∀ w v, W w v → AnswersAlike W (H.clock w) (K.clock v)
  resolve : ∀ host port w v, W w v → AnswersAlike W (H.resolve host port w) (K.resolve host port v)
  connect : ∀ socket address bound w v, W w v →
    AnswersAlike W (H.connect socket address bound w) (K.connect socket address bound v)
  setReadTimeout : ∀ socket bound w v, W w v →
    AnswersAlike W (H.setReadTimeout socket bound w) (K.setReadTimeout socket bound v)
  setWriteTimeout : ∀ socket bound w v, W w v →
    AnswersAlike W (H.setWriteTimeout socket bound w) (K.setWriteTimeout socket bound v)
  loadRoots : ∀ path w v, W w v → AnswersAlike W (H.loadRoots path w) (K.loadRoots path v)
  loadIdentity : ∀ cert key w v, W w v →
    AnswersAlike W (H.loadIdentity cert key w) (K.loadIdentity cert key v)
  tlsHandshake : ∀ socket opts name w v, W w v →
    AnswersAlike W (H.tlsHandshake socket opts name w) (K.tlsHandshake socket opts name v)
  send : ∀ transport {tag payload payload'}, T.Payload tag payload payload' → ∀ w v, W w v →
    AnswersAlike W (H.send transport tag payload w) (K.send transport tag payload' v)
  recv : ∀ transport w v, W w v → AnswersAlike W (H.recv transport w) (K.recv transport v)
  shutdown : ∀ socket w v, W w v → W (H.shutdown socket w) (K.shutdown socket v)
  /-- Either secret fits into a frame, or neither does, by the same number of bytes. -/
  fits : ∀ user, T.user = some user →
    ExceptRel (fun _ _ => True) (encode .auth (H.body (some (credentials user T.left))))
      (encode .auth (H.body (some (credentials user T.right))))

section

variable {ω ν α β : Type} {T : Twofold} {H : Host ω} {K : Host ν} {W : ω → ν → Prop}

/-- The same process, in related worlds. -/
structure ProcessesAlike (W : ω → ν → Prop) (p : Process ω) (q : Process ν) : Prop where
  sequence : p.sequence = q.sequence
  opened : p.opened = q.opened
  world : W p.world q.world

def PairedJobs (T : Twofold) (W : ω → ν → Prop) (A : α → β → Prop) (m : Job ω α) (m' : Job ν β) : Prop :=
  Coupled (ProcessesAlike W) T.Happens A m m'

def Paired (T : Twofold) (W : ω → ν → Prop) (A : α → β → Prop) (m : Method ω α) (m' : Method ν β) : Prop :=
  Coupled (fun s s' => T.Clients s.1 s'.1 ∧ ProcessesAlike W s.2 s'.2) T.Happens A m m'

theorem pairedJobs_emit (e : Event) :
    PairedJobs T W Eq (Action.emit e : Job ω Unit) (Action.emit e) := .emit (.same e)

theorem pairedJobs_onWorld {f : ω → α × ω} {g : ν → α × ν} (h : ∀ w v, W w v → AnswersAlike W (f w) (g v)) :
    PairedJobs T W Eq (Job.onWorld f) (Job.onWorld g) := by
  intro p q alike
  obtain ⟨same, worlds⟩ := h _ _ alike.world
  exact ⟨.returned same, ⟨alike.sequence, alike.opened, worlds⟩, .nil⟩

theorem pairedJobs_ofIo {f : ω → Option IoError × ω} {g : ν → Option IoError × ν}
    (h : ∀ w v, W w v → AnswersAlike W (f w) (g v)) :
    PairedJobs T W Eq (Job.ofIo f) (Job.ofIo g) := by
  refine (pairedJobs_onWorld h).bind_eq fun r => ?_
  cases r with
  | none => exact .pure rfl
  | some e => exact .fail _

theorem pairedJobs_ofTls {f : ω → Except String Unit × ω} {g : ν → Except String Unit × ν}
    (h : ∀ w v, W w v → AnswersAlike W (f w) (g v)) :
    PairedJobs T W Eq (Job.ofTls f) (Job.ofTls g) := by
  refine (pairedJobs_onWorld h).bind_eq fun r => ?_
  cases r with
  | ok u => exact .pure rfl
  | error text => exact .fail _

namespace HostsAlike

variable (alike : HostsAlike T H K W)

include alike

theorem readDeadline (socket : Socket) (timeout : Option Duration) :
    PairedJobs T W Eq (H.readDeadline socket timeout) (K.readDeadline socket timeout) :=
  (pairedJobs_ofIo (alike.setReadTimeout socket _)).bind_eq fun _ => pairedJobs_emit _

theorem writeDeadline (socket : Socket) (timeout : Option Duration) :
    PairedJobs T W Eq (H.writeDeadline socket timeout) (K.writeDeadline socket timeout) :=
  (pairedJobs_ofIo (alike.setWriteTimeout socket _)).bind_eq fun _ => pairedJobs_emit _

theorem shutdownSocket (socket : Socket) :
    PairedJobs T W Eq (H.shutdownSocket socket) (K.shutdownSocket socket) :=
  (pairedJobs_emit _).bind_eq fun _ => pairedJobs_onWorld fun _ _ h => ⟨rfl, alike.shutdown socket _ _ h⟩

theorem writeOn (transport : Transport) {tag : Tag} {payload payload' : Option Value}
    (h : T.Payload tag payload payload') :
    PairedJobs T W Eq (H.writeOn transport tag payload) (K.writeOn transport tag payload') := by
  have wrote : T.Happens (.wrote transport tag payload) (.wrote transport tag payload') := by
    cases h with
    | same => exact .same _
    | auth user hu => exact .auth transport user hu
  exact Coupled.bind_eq (.emit wrote) fun _ => pairedJobs_onWorld (alike.send transport h)

theorem readOn (transport : Transport) :
    PairedJobs T W Eq (H.readOn transport) (K.readOn transport) := by
  refine (pairedJobs_onWorld (alike.recv transport)).bind_eq fun r => ?_
  cases r with
  | ok frame => exact (pairedJobs_emit _).bind_eq fun _ => .pure rfl
  | error e => exact .pure rfl

theorem dialOnce (address : String) (bound : Option Duration) :
    PairedJobs T W Eq (H.dialOnce address bound) (K.dialOnce address bound) := by
  refine (pairedJobs_emit _).bind_eq fun _ =>
    Coupled.bind_eq (.view fun _ _ h => h.opened) fun socket =>
      (pairedJobs_onWorld (alike.connect socket address bound)).bind_eq fun r => ?_
  cases r with
  | ok u =>
    exact Coupled.bind_eq (.modify fun _ _ h => ⟨h.sequence, by simp [h.opened], h.world⟩) fun _ =>
      .pure rfl
  | error text => exact .pure rfl

theorem dialEach (host : String) (port : UInt16) (bound : Option Duration) (addresses : List String)
    (last : String) :
    PairedJobs T W Eq (H.dialEach host port bound addresses last)
      (K.dialEach host port bound addresses last) := by
  induction addresses generalizing last with
  | nil => exact .fail _
  | cons address rest ih =>
    refine (alike.dialOnce address _).bind_eq fun r => ?_
    cases r with
    | ok socket => exact .pure rfl
    | error text => exact ih text

theorem dial (host : String) (port : UInt16) (bound : Option Duration) :
    PairedJobs T W Eq (H.dial host port bound) (K.dial host port bound) := by
  refine (pairedJobs_onWorld (alike.resolve host port)).bind_eq fun r => ?_
  match r with
  | .error e => exact .fail _
  | .ok [] => exact .fail _
  | .ok (address :: rest) => exact alike.dialEach _ _ _ _ _

theorem wrap (socket : Socket) (opts : TlsOptions) :
    PairedJobs T W Eq (H.wrap socket opts) (K.wrap socket opts) := by
  refine Coupled.bind_eq (.when _ ?_) fun _ => ?_
  · cases opts.caFile with
    | none => exact .pure rfl
    | some path => exact pairedJobs_ofTls (alike.loadRoots path)
  · have finish : PairedJobs T W Eq (do
          Action.emit (.tlsHandshake socket opts (opts.serverName.getD "localhost"))
          Job.ofTls (H.tlsHandshake socket opts (opts.serverName.getD "localhost"))
          pure (.tls socket) : Job ω Transport) (do
          Action.emit (.tlsHandshake socket opts (opts.serverName.getD "localhost"))
          Job.ofTls (K.tlsHandshake socket opts (opts.serverName.getD "localhost"))
          pure (.tls socket) : Job ν Transport) :=
      (pairedJobs_emit _).bind_eq fun _ =>
        (pairedJobs_ofTls (alike.tlsHandshake socket opts _)).bind_eq fun _ => .pure rfl
    cases opts.clientCertFile <;> cases opts.clientKeyFile
    · exact finish
    · exact Coupled.bind_eq (.fail _) fun _ => finish
    · exact Coupled.bind_eq (.fail _) fun _ => finish
    · exact (pairedJobs_ofTls (alike.loadIdentity _ _)).bind_eq fun _ => finish

theorem secure {o o' : Options} (h : T.Opts o o') (socket : Socket) :
    PairedJobs T W Eq (TricoreSdk.secure H o socket) (TricoreSdk.secure K o' socket) := by
  rw [h.twin]
  unfold TricoreSdk.secure
  dsimp only
  cases o.tls with
  | none => exact .pure rfl
  | some opts =>
    exact (alike.readDeadline _ _).bind_eq fun _ => (alike.writeDeadline _ _).bind_eq fun _ =>
      alike.wrap socket opts

theorem nextConnectionPrefix :
    PairedJobs T W Eq (TricoreSdk.nextConnectionPrefix H) (TricoreSdk.nextConnectionPrefix K) := by
  refine (pairedJobs_onWorld alike.clock).bind_eq fun stamp =>
    Coupled.bind_eq (.view fun _ _ h => h.sequence) fun sequence =>
      Coupled.bind_eq (.modify fun _ _ h => ⟨by simp [h.sequence], h.opened, h.world⟩) fun _ => ?_
  rw [alike.processId]
  exact .pure rfl

end HostsAlike

/-! ## One client -/

theorem paired_self : Paired T W T.Clients (Method.self : Method ω Client) (Method.self : Method ν Client) :=
  .view fun _ _ h => h.1

theorem paired_update (f : Client → Client) (options : ∀ c, (f c).options = c.options)
    (twin : ∀ c o, f { c with options := o } = { f c with options := o }) :
    Paired T W Eq (Method.update f : Method ω Unit) (Method.update f) := by
  refine .modify fun s s' h => ⟨?_, h.2⟩
  obtain ⟨c, p⟩ := s
  obtain ⟨c', q⟩ := s'
  obtain ⟨hc, -⟩ := h
  cases hc with
  | mk o ho =>
    have same : T.Opts (f c).options o := (options c).symm ▸ ho
    exact twin c o ▸ .mk (f c) o same

theorem paired_emit (e : Event) : Paired T W Eq (Action.emit e : Method ω Unit) (Action.emit e) :=
  .emit (.same e)

theorem paired_bind_self {f : Client → Method ω α} {f' : Client → Method ν β} {A : α → β → Prop}
    (h : ∀ c o, T.Opts c.options o → Paired T W A (f c) (f' { c with options := o })) :
    Paired T W A (Method.self >>= f) (Method.self >>= f') := by
  refine paired_self.bind fun c c' hc => ?_
  cases hc with
  | mk o ho => exact h c o ho

theorem paired_forgetTxn (txn : String) :
    Paired T W Eq (Method.update (Client.forgetTxn txn) : Method ω Unit)
      (Method.update (Client.forgetTxn txn)) := by
  refine paired_update _ (fun c => ?_) fun c o => ?_ <;>
    by_cases h : c.requestTxn = some txn <;> simp [Client.forgetTxn, h]

theorem opts_follow {o o' : Options} (h : T.Opts o o') (host : String) (port : UInt16) :
    T.Opts (followOptions o host port) (followOptions o' host port) := by
  obtain ⟨user, secret, rfl⟩ := h
  exact ⟨user, secret, rfl⟩

namespace HostsAlike

variable (alike : HostsAlike T H K W)

include alike

theorem transportShutdown : Paired T W Eq (TricoreSdk.transportShutdown H) (TricoreSdk.transportShutdown K) :=
  paired_bind_self fun _ _ _ => (alike.shutdownSocket _).onRight

theorem poison (error : Error) : Paired T W Eq (TricoreSdk.poison H error) (TricoreSdk.poison K error) :=
  paired_bind_self fun _ _ _ => (Coupled.when _ (alike.transportShutdown.bind_eq fun _ =>
    paired_update (Client.poisoned error) (fun _ => rfl) fun _ _ => rfl)).bind_eq fun _ => .pure rfl

theorem body (payload : Option Value) : K.body payload = H.body payload := by
  unfold Host.body
  rw [alike.serde]

theorem encodes {tag : Tag} {payload payload' : Option Value} (h : T.Payload tag payload payload') :
    ExceptRel (fun _ _ => True) (encode tag (H.body payload)) (encode tag (K.body payload')) := by
  rw [alike.body]
  cases h with
  | same => exact .refl (fun _ => trivial) _
  | auth user hu => exact alike.fits user hu

theorem exchange {tag : Tag} {payload payload' : Option Value} (h : T.Payload tag payload payload') :
    Paired T W Eq (TricoreSdk.exchange H tag payload) (TricoreSdk.exchange K tag payload') := by
  refine paired_bind_self fun c o _ => ?_
  dsimp only
  cases c.fault with
  | some fault => exact .fail _
  | none =>
    dsimp only
    split
    · exact .fail _
    · refine (Coupled.ofExcept (alike.encodes h)).bind fun _ _ _ =>
        (alike.writeOn c.transport h).onRight.bind_eq fun sent => ?_
      cases sent with
      | error e => exact (alike.poison _).bind_eq fun _ => .fail _
      | ok u =>
        refine (alike.readOn c.transport).onRight.bind_eq fun reply => ?_
        cases reply with
        | ok frame => exact .pure rfl
        | error e => exact (alike.poison _).bind_eq fun _ => .fail _

theorem unexpected (wanted : String) (tag : Tag) :
    Paired T W Eq (TricoreSdk.unexpected H wanted tag : Method ω α)
      (TricoreSdk.unexpected K wanted tag) :=
  (alike.poison _).bind_eq fun _ => .fail _

theorem refusal (kind : ErrorKind) (payload : List UInt8) :
    TricoreSdk.refusal K kind payload = TricoreSdk.refusal H kind payload := by
  unfold TricoreSdk.refusal
  rw [alike.serde]

theorem hello (clientName : String) (features : UInt64) :
    Paired T W Eq (TricoreSdk.hello H clientName features) (TricoreSdk.hello K clientName features) := by
  unfold TricoreSdk.hello
  simp only [alike.refusal, alike.serde]
  refine (alike.exchange (.same _ _)).bind_eq fun frame => ?_
  split
  · refine (Coupled.ofExcept_eq _).bind_eq fun body => ?_
    split
    · exact .fail _
    · exact (paired_update (Client.granting body.features) (fun _ => rfl) fun _ _ => rfl).bind_eq
        fun _ => paired_bind_self fun c _ _ => paired_emit (.granted c.transport body.features)
  · exact .fail _
  · exact alike.unexpected _ _

theorem auth {user : String} (h : T.user = some user) :
    Paired T W Eq (TricoreSdk.auth H user (T.left.getD "")) (TricoreSdk.auth K user (T.right.getD "")) := by
  unfold TricoreSdk.auth
  simp only [alike.refusal, alike.serde]
  refine (alike.exchange (.auth user h)).bind_eq fun frame => ?_
  split
  · refine (Coupled.ofExcept_eq _).bind_eq fun body => ?_
    split
    · exact .fail _
    · exact paired_update (Client.identified body.sessionId) (fun _ => rfl) fun _ _ => rfl
  · exact .fail _
  · exact alike.unexpected _ _

theorem transportReadTimeout (timeout : Option Duration) :
    Paired T W Eq (TricoreSdk.transportReadTimeout H timeout) (TricoreSdk.transportReadTimeout K timeout) :=
  paired_bind_self fun _ _ _ => (alike.readDeadline _ _).onRight

theorem transportWriteTimeout (timeout : Option Duration) :
    Paired T W Eq (TricoreSdk.transportWriteTimeout H timeout)
      (TricoreSdk.transportWriteTimeout K timeout) :=
  paired_bind_self fun _ _ _ => (alike.writeDeadline _ _).onRight

theorem setsReadTimeout (timeout : Option Duration) :
    Paired T W Eq (TricoreSdk.setReadTimeout H timeout) (TricoreSdk.setReadTimeout K timeout) :=
  (paired_update (Client.withReadTimeout timeout) (fun _ => rfl) fun _ _ => rfl).bind_eq fun _ => alike.transportReadTimeout _

theorem goodbye : Paired T W Eq (TricoreSdk.goodbye H) (TricoreSdk.goodbye K) :=
  paired_bind_self fun c _ _ => (alike.writeOn c.transport (.same _ _)).onRight.bind_eq fun _ =>
    (alike.readOn c.transport).onRight.bind_eq fun _ => alike.transportShutdown

theorem closeInner : Paired T W Eq (TricoreSdk.closeInner H) (TricoreSdk.closeInner K) := by
  refine paired_bind_self fun c o _ => ?_
  dsimp only
  split
  · exact .pure rfl
  · refine (paired_update Client.closing (fun _ => rfl) fun _ _ => rfl).bind_eq fun _ => ?_
    split
    · exact alike.transportShutdown
    · exact ((alike.transportReadTimeout _).attempt_eq.bind_eq fun _ => .pure rfl).bind_eq fun _ =>
        ((alike.transportWriteTimeout _).attempt_eq.bind_eq fun _ => .pure rfl).bind_eq fun _ =>
          alike.goodbye

theorem owning {c c' : Client} (hc : T.Clients c c') {setUp : Method ω Unit} {setUp' : Method ν Unit}
    (h : Paired T W Eq setUp setUp') :
    PairedJobs T W T.Clients (TricoreSdk.owning H c setUp) (TricoreSdk.owning K c' setUp') := by
  intro p q processes
  have runs := h (c, p) (c', q) ⟨hc, processes⟩
  have closes := alike.closeInner
  rcases hr : setUp (c, p) with ⟨o, s, es⟩
  rcases hr' : setUp' (c', q) with ⟨o', s', es'⟩
  rw [hr, hr'] at runs
  obtain ⟨ends, states, events⟩ := runs
  have dropped := closes s s' states
  cases ends with
  | returned _ =>
    rw [owning_returned H hr, owning_returned K hr']
    exact ⟨.returned states.1, states.2, events⟩
  | failed e =>
    rw [owning_failed H hr, owning_failed K hr']
    exact ⟨.failed e, dropped.state.2, List.rel_append events dropped.events⟩
  | panicked =>
    rw [owning_panicked H hr, owning_panicked K hr']
    exact ⟨.panicked, dropped.state.2, List.rel_append events dropped.events⟩

theorem authenticate {o o' : Options} (h : T.Opts o o') :
    Paired T W Eq (TricoreSdk.authenticate H o) (TricoreSdk.authenticate K o') := by
  obtain ⟨user, secret, rfl⟩ := h
  unfold TricoreSdk.authenticate
  dsimp only
  cases hu : o.user with
  | none => exact .pure rfl
  | some name =>
    dsimp only
    rw [secret]
    exact alike.auth (user ▸ hu)

theorem handshake {o o' : Options} (h : T.Opts o o') :
    Paired T W Eq (TricoreSdk.handshake H o) (TricoreSdk.handshake K o') := by
  have authenticates := alike.authenticate h
  obtain ⟨user, secret, rfl⟩ := h
  exact (alike.transportReadTimeout _).bind_eq fun _ => (alike.transportWriteTimeout _).bind_eq fun _ =>
    (alike.hello _ _).bind_eq fun _ => authenticates.bind_eq fun _ =>
      (alike.transportWriteTimeout none).bind_eq fun _ => alike.setsReadTimeout _

theorem connects {o o' : Options} (h : T.Opts o o') :
    PairedJobs T W T.Clients (TricoreSdk.connect H o) (TricoreSdk.connect K o') := by
  have secures := alike.secure h
  have shakes := alike.handshake h
  have twins (t : Transport) (pre : String) : T.Clients (newClient t pre o) (newClient t pre o') := by
    obtain ⟨user, secret, rfl⟩ := h
    exact .mk _ _ ⟨user, secret, rfl⟩
  obtain ⟨user, secret, rfl⟩ := h
  exact (alike.dial _ _ _).bind_eq fun tcp => (secures tcp).bind_eq fun transport =>
    alike.nextConnectionPrefix.bind_eq fun pre => alike.owning (twins transport pre) shakes

/-! ## Requests -/

theorem moveTo (address : String) :
    Paired T W Eq (TricoreSdk.moveTo H address) (TricoreSdk.moveTo K address) := by
  unfold TricoreSdk.moveTo
  cases splitAddress address with
  | none => exact .pure rfl
  | some target =>
    obtain ⟨host, port⟩ := target
    refine paired_bind_self fun c o ho => ?_
    refine (alike.connects (opts_follow ho host port)).onRight.attempt.bind fun r r' hr => ?_
    cases hr with
    | error e => exact .pure rfl
    | @ok fresh fresh' twins =>
      cases twins with
      | mk o' ho' =>
        exact (paired_update (Client.adopting fresh address) (fun _ => rfl) fun _ _ => rfl).bind_eq
          fun _ => (paired_emit _).bind_eq fun _ => (alike.shutdownSocket _).onRight.bind_eq fun _ =>
            .pure rfl

theorem followHint (hint : Option String) :
    Paired T W Eq (TricoreSdk.followHint H hint) (TricoreSdk.followHint K hint) := by
  cases hint with
  | none => exact .pure rfl
  | some address =>
    refine paired_bind_self fun c o _ => ?_
    dsimp only
    split
    · exact alike.moveTo address
    · exact .pure rfl

theorem readResponse (payload : List UInt8) :
    TricoreSdk.readResponse K payload = TricoreSdk.readResponse H payload := by
  unfold TricoreSdk.readResponse
  rw [alike.serde]

theorem sendOnce (envelope : Value) :
    Paired T W Eq (TricoreSdk.sendOnce H envelope) (TricoreSdk.sendOnce K envelope) := by
  unfold TricoreSdk.sendOnce
  simp only [alike.refusal, alike.readResponse]
  refine (alike.exchange (.same _ _)).bind_eq fun frame => ?_
  split
  · exact .ofExcept_eq _
  · exact .fail _
  · exact alike.unexpected _ _

theorem sendLoop (envelope : Value) (left retried : Nat) (pause : Duration) :
    Paired T W Eq (TricoreSdk.sendLoop H envelope left retried pause)
      (TricoreSdk.sendLoop K envelope left retried pause) := by
  induction left generalizing retried pause with
  | zero =>
    unfold TricoreSdk.sendLoop
    refine (alike.sendOnce envelope).attempt_eq.bind_eq fun r => ?_
    cases r with
    | ok response => exact .pure rfl
    | error e =>
      dsimp only
      split
      · exact .fail _
      · refine paired_bind_self fun c o ho => ?_
        obtain ⟨-, -, rfl⟩ := ho
        dsimp only
        split <;> exact .fail _
  | succ left ih =>
    unfold TricoreSdk.sendLoop
    refine (alike.sendOnce envelope).attempt_eq.bind_eq fun r => ?_
    cases r with
    | ok response => exact .pure rfl
    | error e =>
      dsimp only
      split
      · exact .fail _
      · refine paired_bind_self fun c o ho => ?_
        obtain ⟨-, -, rfl⟩ := ho
        dsimp only
        split
        · exact .fail _
        · refine (alike.followHint _).bind_eq fun moved => ?_
          split
          · exact ih _ _
          · refine (paired_emit _).bind_eq fun _ => ?_
            split
            · exact .panic
            · exact ih _ _

theorem sendIn (op : Value) (txn : Option String) :
    Paired T W Eq (TricoreSdk.sendIn H op txn) (TricoreSdk.sendIn K op txn) := by
  refine (paired_update Client.counted (fun _ => rfl) fun _ _ => rfl).bind_eq fun _ =>
    paired_bind_self fun c o ho => ?_
  obtain ⟨-, -, rfl⟩ := ho
  exact (paired_update (Client.remembering c.requestId) (fun _ => rfl) fun _ _ => rfl).bind_eq fun _ =>
    alike.sendLoop _ _ _ _

theorem sends (op : Value) : Paired T W Eq (TricoreSdk.send H op) (TricoreSdk.send K op) :=
  paired_bind_self fun _ _ _ => alike.sendIn op _

theorem ping : Paired T W Eq (TricoreSdk.ping H) (TricoreSdk.ping K) := by
  refine (alike.exchange (.same _ _)).bind_eq fun frame => ?_
  split
  · exact .pure rfl
  · exact alike.unexpected _ _

theorem cancel (requestId : String) :
    Paired T W Eq (TricoreSdk.cancel H requestId) (TricoreSdk.cancel K requestId) := by
  unfold TricoreSdk.cancel
  simp only [alike.refusal, alike.serde]
  split
  · exact .fail _
  · refine (alike.exchange (.same _ _)).bind_eq fun frame => ?_
    split
    · exact .ofExcept_eq _
    · exact .fail _
    · exact alike.unexpected _ _

theorem executeParams (sql : String) (params : List Param) :
    Paired T W Eq (TricoreSdk.executeParams H sql params) (TricoreSdk.executeParams K sql params) :=
  paired_bind_self fun _ _ _ => (Coupled.ofOutcome_eq _).bind_eq fun _ => alike.sends _

theorem queryParams (sql : String) (params : List Param) :
    Paired T W Eq (TricoreSdk.queryParams H sql params) (TricoreSdk.queryParams K sql params) := by
  unfold TricoreSdk.queryParams TricoreSdk.rowsOf
  rw [alike.serde]
  exact paired_bind_self fun _ _ _ => (Coupled.ofOutcome_eq _).bind_eq fun _ =>
    (alike.sends _).bind_eq fun _ => .ofExcept_eq _

theorem decodeResult : TricoreSdk.decodeResult K = TricoreSdk.decodeResult H := by
  unfold TricoreSdk.decodeResult
  rw [alike.serde]

theorem transaction (statements : List Statement) :
    Paired T W Eq (TricoreSdk.transaction H statements) (TricoreSdk.transaction K statements) := by
  unfold TricoreSdk.transaction
  rw [alike.decodeResult]
  exact (Coupled.ofExcept_eq _).bind_eq fun _ => (alike.executeParams _ _).bind_eq fun _ =>
    .ofExcept_eq _

theorem transactionControl (keyword : String) :
    Paired T W Eq (TricoreSdk.transactionControl H keyword) (TricoreSdk.transactionControl K keyword) := by
  unfold TricoreSdk.transactionControl
  rw [alike.decodeResult]
  refine (alike.executeParams keyword []).attempt_eq.bind_eq fun r => ?_
  cases r with
  | ok response =>
    exact (Coupled.ofExcept_eq _).bind_eq fun result =>
      (paired_update (Client.withTxnOpen (keyword == "BEGIN" || result.nestedDepth.isSome))
        (fun _ => rfl) fun _ _ => rfl).bind_eq fun _ => .pure rfl
  | error error =>
    exact (Coupled.when _ (paired_update (Client.withTxnOpen false) (fun _ => rfl)
      fun _ _ => rfl)).bind_eq fun _ => .fail _

theorem begin : Paired T W Eq (TricoreSdk.begin H) (TricoreSdk.begin K) := by
  refine paired_bind_self fun c o _ => ?_
  change Paired T W Eq _ (if (!c.sessionTxnGranted) = true then _ else _)
  split
  · exact .fail _
  · exact alike.transactionControl _

theorem beginRequestTxn (op : Value) (key : String) :
    Paired T W Eq (TricoreSdk.beginRequestTxn H op key) (TricoreSdk.beginRequestTxn K op key) := by
  unfold TricoreSdk.beginRequestTxn TricoreSdk.begunTxn
  rw [alike.serde]
  exact (alike.sendIn op none).bind_eq fun _ => .ofExcept_eq _

theorem endRequestTxn (op : Value) (txn : String) :
    Paired T W Eq (TricoreSdk.endRequestTxn H op txn) (TricoreSdk.endRequestTxn K op txn) :=
  (alike.sendIn op (some txn)).attempt_eq.bind_eq fun _ => (paired_forgetTxn txn).bind_eq fun _ =>
    .ofExcept_eq _

theorem decodes : TricoreSdk.documentCommitted K = TricoreSdk.documentCommitted H ∧
    TricoreSdk.graphCommitted K = TricoreSdk.graphCommitted H ∧
    TricoreSdk.graphRolledBack K = TricoreSdk.graphRolledBack H := by
  unfold TricoreSdk.documentCommitted TricoreSdk.graphCommitted TricoreSdk.graphRolledBack
  simp only [alike.serde, and_self]

theorem run (call : Call) : Paired T W Eq (call.run H) (call.run K) := by
  obtain ⟨documents, graphs, rolledBack⟩ := alike.decodes
  have map {γ : Type} {m : Method ω γ} {m' : Method ν γ} (h : Paired T W Eq m m') (f : γ → Reply) :
      Paired T W Eq (do return f (← m) : Method ω Reply) (do return f (← m')) :=
    h.bind_eq fun _ => .pure rfl
  cases call with
  | request op => exact map (alike.sends op) _
  | execute sql => exact map (alike.executeParams sql []) _
  | executeParams sql params => exact map (alike.executeParams sql params) _
  | query sql => exact map (alike.queryParams sql []) _
  | queryParams sql params => exact map (alike.queryParams sql params) _
  | transaction statements => exact map (alike.transaction statements) _
  | begin => exact map alike.begin _
  | commit => exact map (alike.transactionControl _) _
  | rollback => exact map (alike.transactionControl _) _
  | ping => exact map alike.ping fun _ => .unit
  | cancel requestId => exact map (alike.cancel requestId) _
  | setReadTimeout timeout => exact map (alike.setsReadTimeout timeout) fun _ => .unit
  | setRequestTimeout timeout =>
    exact map (paired_update (Client.withRequestTimeout timeout) (fun _ => rfl) fun _ _ => rfl)
      fun _ => .unit
  | setRequestTxn txn =>
    exact map (paired_update (Client.withRequestTxn txn) (fun _ => rfl) fun _ _ => rfl) fun _ => .unit
  | documentBegin serializable => exact map (alike.beginRequestTxn _ _) _
  | documentCommit txn =>
    refine map ?_ _
    unfold documentCommitTransaction
    rw [documents]
    exact (alike.endRequestTxn _ txn).bind_eq fun _ => .ofExcept_eq _
  | documentRollback txn =>
    exact map ((alike.endRequestTxn _ txn).bind_eq fun _ => .pure rfl) fun _ => .unit
  | graphBegin graph => exact map (alike.beginRequestTxn _ _) _
  | graphCommit graph txn =>
    refine map ?_ _
    unfold graphCommitTransaction
    rw [graphs]
    exact (alike.endRequestTxn _ txn).bind_eq fun _ => .ofExcept_eq _
  | graphRollback graph txn =>
    refine map ?_ _
    unfold graphRollbackTransaction
    rw [rolledBack]
    exact (alike.endRequestTxn _ txn).bind_eq fun _ => .ofExcept_eq _

end HostsAlike

/-! ## Whole runs -/

/-- A closure that looks at its client, but not at the secret in its options, which no method
hands out. -/
def Proc.Blind (T : Twofold) : Proc α → Prop
  | .done _ => True
  | .panic => True
  | .look next => ∀ c, (next c).Blind T ∧ ∀ c', T.Clients c c' → next c' = next c
  | .call _ next => ∀ o, (next o).Blind T

theorem HostsAlike.proc (alike : HostsAlike T H K W) {work : Proc α} (blind : work.Blind T) :
    Paired T W Eq (work.run H) (work.run K) := by
  induction work with
  | done result => exact .ofExcept_eq result
  | panic => exact .panic
  | look next ih =>
    refine paired_self.bind fun c c' hc => ?_
    rw [(blind c).2 c' hc]
    exact ih c (blind c).1
  | call c next ih => exact (alike.run c).observe_eq.bind_eq fun o => ih o (blind o)

/-- What shows of the secret: with another one, and servers that take either, a client ends alike,
with the same errors word for word, and does the same from its first dial to its last goodbye, but
for the payload of its `AUTH` frames. -/
theorem lifetime_secret (options : Options) (secret : Option String)
    (alike : HostsAlike ⟨options.user, options.secret, secret⟩ H K W) {work : Proc α}
    (blind : work.Blind ⟨options.user, options.secret, secret⟩) {p : Process ω} {q : Process ν}
    (processes : ProcessesAlike W p q) :
    (lifetime H options work p).outcome = (lifetime K { options with secret := secret } work q).outcome ∧
      List.Forall₂ (Twofold.Happens ⟨options.user, options.secret, secret⟩)
        (lifetime H options work p).events
        (lifetime K { options with secret := secret } work q).events ∧
      ProcessesAlike W (lifetime H options work p).state
        (lifetime K { options with secret := secret } work q).state := by
  have opens := alike.connects ⟨rfl, rfl, rfl⟩ p q processes
  unfold lifetime
  rcases hp : connect H options p with ⟨o, p', es⟩
  rcases hq : connect K { options with secret := secret } q with ⟨o', q', es'⟩
  rw [hp, hq] at opens
  obtain ⟨ends, states, events⟩ := opens
  cases ends with
  | failed e => exact ⟨rfl, events, states⟩
  | panicked => exact ⟨rfl, events, states⟩
  | @returned c c' twins =>
    have used := alike.proc blind (c, p') (c', q') ⟨twins, states⟩
    have closes := alike.closeInner _ _ used.state
    exact ⟨outcomeRel_eq.mp used.outcome,
      List.rel_append events (List.rel_append used.events closes.events), closes.state.2⟩

end

def welcoming : Host (List (Except WireError Frame)) :=
  { scripted with serde := { scriptSerde with authOk := fun _ => .ok ⟨true, none, ""⟩ } }

theorem alike_welcoming : HostsAlike ⟨some "u", some "a", some "b"⟩ welcoming welcoming Eq := by
  constructor
  case fits =>
    rintro user ⟨⟩
    have left : ∃ bytes, encode .auth (welcoming.body (some (credentials "u" (some "a")))) = .ok bytes :=
      ⟨_, by with_unfolding_all rfl⟩
    have right : ∃ bytes, encode .auth (welcoming.body (some (credentials "u" (some "b")))) = .ok bytes :=
      ⟨_, by with_unfolding_all rfl⟩
    obtain ⟨_, left⟩ := left
    obtain ⟨_, right⟩ := right
    rw [left, right]
    exact .ok trivial
  all_goals
    intros
    first | rfl | (subst_vars; first | rfl | exact ⟨rfl, rfl⟩)

def keyed (secret : String) : Options :=
  { Options.default with user := some "u", secret := some secret }

theorem lifetime_secret_welcoming :
    let script := playing [replies .helloOk helloAll, replies .authOk [], replies .response began]
    let work : Proc Unit := .ofCalls [.begin]
    (lifetime welcoming (keyed "a") work script).outcome =
        (lifetime welcoming (keyed "b") work script).outcome ∧
      List.Forall₂ (Twofold.Happens ⟨some "u", some "a", some "b"⟩)
        (lifetime welcoming (keyed "a") work script).events
        (lifetime welcoming (keyed "b") work script).events ∧
      ProcessesAlike Eq (lifetime welcoming (keyed "a") work script).state
        (lifetime welcoming (keyed "b") work script).state := by
  intro script work
  have blind : work.Blind ⟨some "u", some "a", some "b"⟩ := fun _ => trivial
  exact lifetime_secret (keyed "a") (some "b") alike_welcoming blind ⟨rfl, rfl, rfl⟩

end TricoreSdk
