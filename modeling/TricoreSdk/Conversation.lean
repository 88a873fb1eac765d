import TricoreSdk.Lib.Monitor
import TricoreSdk.Channel

/-! The conversation on a connection. Whatever the servers answer, what a client
writes on each connection is a `HELLO`, an `AUTH` if it has a user, requests once the
handshake is accepted, and at most one `CLOSE`; it writes the next frame only
after the answer to the last one, and nothing once the connection is shut down. -/

namespace TricoreSdk
open Effects Path

/-- Where the conversation on a connection stands. `greeted` waits for the `AUTH`, `refused` had
its handshake refused, and on a `dead` one the answer was to something else. -/
inductive Stage where
  | fresh
  | asked (tag : Tag)
  | greeted
  | ready
  | refused
  | dead
  | gone
  deriving DecidableEq

def Tag.answeredBy : Tag → Tag → Bool
  | .hello, .helloOk | .auth, .authOk | .request, .response | .ping, .pong | .cancel, .cancelOk => true
  | .hello, .error | .auth, .error | .request, .error | .cancel, .error => true
  | _, _ => false

namespace Stage

def allows : Stage → Tag → Bool
  | fresh, .hello | greeted, .auth | ready, .request | ready, .ping | ready, .cancel => true
  | fresh, .close | greeted, .close | ready, .close | refused, .close => true
  | _, _ => false

/-- No answer is awaited. -/
def rests : Stage → Bool
  | asked _ | dead => false
  | _ => true

/-- Nothing was ever written, or nothing ever will be. -/
def Settled (st : Stage) : Prop := st = fresh ∨ st = gone

theorem rests_of_allows {st : Stage} {tag : Tag} (h : st.allows tag = true) : st.rests = true := by
  cases st <;> first | rfl | cases tag <;> cases h

end Stage

/-- The handshake's verdict on a `HELLO`. -/
def welcomes (S : Serde) (frame : Frame) : Bool :=
  frame.tag == .helloOk && match S.helloOk frame.payload with
    | .ok body => body.ok
    | .error _ => false

/-- And on an `AUTH`. -/
def admits (S : Serde) (frame : Frame) : Bool :=
  frame.tag == .authOk && match S.authOk frame.payload with
    | .ok body => body.ok
    | .error _ => false

/-- After the `HELLO`, an `AUTH` if there is a user to authenticate. -/
def welcomed (login : Bool) : Stage := if login then .greeted else .ready

/-- Where an answer leads. -/
def heard (S : Serde) (login : Bool) (tag : Tag) (frame : Frame) : Stage :=
  if tag.answeredBy frame.tag then
    match tag with
    | .hello => if welcomes S frame then welcomed login else .refused
    | .auth => if admits S frame then .ready else .refused
    | _ => .ready
  else .dead

/-- The rules of a conversation. -/
def conversation (S : Serde) (login : Bool) : Monitor Stage Event where
  next st
    | .dialing _ _ | .paused _ => some st
    | .tlsHandshake _ _ _ => if st = .fresh then some st else none
    | .readTimeout _ _ | .writeTimeout _ _ => if st.rests then some st else none
    | .wrote _ tag _ => if st.allows tag then some (.asked tag) else none
    | .answered _ frame =>
      match st with
      | .asked tag => some (heard S login tag frame)
      | _ => none
    | .granted _ _ => if st = welcomed login then some st else none
    | .moved _ => if st = .ready then some st else none
    | .shutdown _ => some .gone

section

variable {ω α β : Type} {H : Host ω} {login : Bool} {k : Socket} {st st' st'' : Stage}

def conversations (H : Host ω) (login : Bool) : Monitor (Socket → Stage) Event :=
  (conversation H.serde login).each Event.socket?

/-- A part of the conversation on one connection. -/
structure Talks (H : Host ω) (login : Bool) (k : Socket) (st st' : Stage) (es : List Event) : Prop where
  own : ∀ e ∈ es, e.socket? = some k
  run : (conversation H.serde login).run st es = some st'

theorem Talks.nil : Talks H login k st st [] := ⟨fun _ he => absurd he List.not_mem_nil, rfl⟩

theorem Talks.append {es fs : List Event} (h : Talks H login k st st' es)
    (h' : Talks H login k st' st'' fs) : Talks H login k st st'' (es ++ fs) :=
  ⟨fun e he => (List.mem_append.mp he).elim (h.own e) (h'.own e), Monitor.run_append_of h.run h'.run⟩

theorem Talks.all {es : List Event} (h : Talks H login k st st' es) {m : Socket → Stage} (at_ : m k = st) :
    (conversations H login).run m es = some (Function.update m k st') :=
  Monitor.each_run_own h.own (at_ ▸ h.run)

theorem talks_shutdown : Talks H login k st .gone [.shutdown k] :=
  ⟨by simp [Event.socket?], by simp [conversation]⟩

theorem talks_readTimeout (h : st.rests = true) {es : List Event} {bound : Option Duration}
    (all : ∀ e ∈ es, e = .readTimeout k bound) : Talks H login k st st es :=
  ⟨fun e he => by rw [all e he]; rfl, Monitor.run_of_ignored fun e he => by
    rw [all e he]; simp [conversation, h]⟩

theorem talks_writeTimeout (h : st.rests = true) {es : List Event} {bound : Option Duration}
    (all : ∀ e ∈ es, e = .writeTimeout k bound) : Talks H login k st st es :=
  ⟨fun e he => by rw [all e he]; rfl, Monitor.run_of_ignored fun e he => by
    rw [all e he]; simp [conversation, h]⟩

theorem talks_answered {t : Transport} {tag : Tag} (h : st.allows tag = true)
    (payload : Option Value) (frame : Frame) :
    Talks H login t.socket st (heard H.serde login tag frame)
      [.wrote t tag payload, .answered t frame] :=
  ⟨by simp [Event.socket?], by simp [conversation, h]⟩

theorem talks_unanswered {t : Transport} {tag : Tag} (h : st.allows tag = true)
    (payload : Option Value) :
    Talks H login t.socket st .gone [.wrote t tag payload, .shutdown t.socket] :=
  ⟨by simp [Event.socket?], by simp [conversation, h]⟩

theorem talks_granted {t : Transport} (features : UInt64) :
    Talks H login t.socket (welcomed login) (welcomed login) [.granted t features] :=
  ⟨by simp [Event.socket?], by simp [conversation]⟩

/-! ## The handshake and the goodbye -/

/-- A client that may be dropped: its connection is still good for a goodbye, or is shut down. -/
inductive Spare (c : Client) : Stage → Prop
  | usable (live : c.Live) (st : Stage) (h : st.allows .close = true) : Spare c st
  | broken (isOpen : c.closed = false) (fault : c.fault.isSome) : Spare c .gone

/-- A step of the handshake on its connection, from one stage to the next; when it fails, the
client may be dropped. -/
def Converses (H : Host ω) (login : Bool) (t : Transport) (st next : Stage)
    (r : Execution (Client × Process ω) Error Event α) : Prop :=
  r.state.1.transport = t ∧ ∃ st', Talks H login t.socket st st' r.events ∧
    match r.outcome with
    | .returned _ => r.state.1.Live ∧ st' = next
    | .failed _ => Spare r.state.1 st'
    | .panicked => False

variable {t : Transport}

theorem Converses.bind {m : Method ω α} {f : α → Method ω β} {s : Client × Process ω}
    (hm : Converses H login t st st' (m s))
    (hf : ∀ a s', s'.1.transport = t → s'.1.Live → Converses H login t st' st'' (f a s')) :
    Converses H login t st st'' ((m >>= f) s) := by
  unfold Converses at hm hf ⊢
  rw [Action.bind_apply]
  generalize m s = r at hm ⊢
  obtain ⟨o, s', es⟩ := r
  obtain ⟨same, mid, talks, ends⟩ := hm
  cases o with
  | panicked => exact absurd ends not_false
  | failed e => exact ⟨same, mid, talks, ends⟩
  | returned a =>
    obtain ⟨live, rfl⟩ := ends
    obtain ⟨same', last, talks', ends'⟩ := hf a s' same live
    exact ⟨same', last, talks.append talks', ends'⟩

theorem converses_readTimeout (h : st.allows .close = true) {c : Client} (live : c.Live)
    (timeout : Option Duration) (p : Process ω) :
    Converses H login c.transport st st (transportReadTimeout H timeout (c, p)) := by
  have quiet := (readDeadline_quiet (H := H) c.transport.socket timeout p).2
  have ends := (readDeadline_returns (H := H) c.transport.socket timeout).ne_panicked p
  have run : transportReadTimeout H timeout (c, p) =
      ⟨(H.readDeadline c.transport.socket timeout p).outcome,
        (c, (H.readDeadline c.transport.socket timeout p).state),
        (H.readDeadline c.transport.socket timeout p).events⟩ := rfl
  rw [run]
  refine ⟨rfl, st, talks_readTimeout (Stage.rests_of_allows h) quiet, ?_⟩
  cases ho : (H.readDeadline c.transport.socket timeout p).outcome with
  | returned u => exact ⟨live, rfl⟩
  | failed e => exact .usable live st h
  | panicked => exact absurd ho ends

theorem converses_writeTimeout (h : st.allows .close = true) {c : Client} (live : c.Live)
    (timeout : Option Duration) (p : Process ω) :
    Converses H login c.transport st st (transportWriteTimeout H timeout (c, p)) := by
  have quiet := (writeDeadline_quiet (H := H) c.transport.socket timeout p).2
  have ends := (writeDeadline_returns (H := H) c.transport.socket timeout).ne_panicked p
  have run : transportWriteTimeout H timeout (c, p) =
      ⟨(H.writeDeadline c.transport.socket timeout p).outcome,
        (c, (H.writeDeadline c.transport.socket timeout p).state),
        (H.writeDeadline c.transport.socket timeout p).events⟩ := rfl
  rw [run]
  refine ⟨rfl, st, talks_writeTimeout (Stage.rests_of_allows h) quiet, ?_⟩
  cases ho : (H.writeDeadline c.transport.socket timeout p).outcome with
  | returned u => exact ⟨live, rfl⟩
  | failed e => exact .usable live st h
  | panicked => exact absurd ho ends

theorem converses_exchange {tag : Tag} (h : st.allows tag = true) (closes : st.allows .close = true)
    {c : Client} (live : c.Live) (payload : Option Value) (p : Process ω) {f : Frame → Method ω α}
    (answered : ∀ frame p', ∃ st', Talks H login c.transport.socket (heard H.serde login tag frame) st'
        (f frame (c, p')).events ∧ (f frame (c, p')).state.1.transport = c.transport ∧
      match (f frame (c, p')).outcome with
      | .returned _ => (f frame (c, p')).state.1.Live ∧ st' = st''
      | .failed _ => Spare (f frame (c, p')).state.1 st'
      | .panicked => False) :
    Converses H login c.transport st st'' ((exchange H tag payload >>= f) (c, p)) := by
  have hx := exchanged H tag payload c p
  rw [Action.bind_apply]
  generalize exchange H tag payload (c, p) = r at hx ⊢
  cases hx with
  | faulted fault hf => exact absurd (live.fault.symm.trans hf) (by simp)
  | closed hf hc => exact absurd (live.open_.symm.trans hc) (by simp)
  | tooLarge _ e he => exact ⟨rfl, st, .nil, .usable live st closes⟩
  | writeFailed _ bytes he e w hw =>
    exact ⟨rfl, .gone, talks_unanswered h payload, .broken live.open_ rfl⟩
  | readFailed _ bytes he e w w' hw hr =>
    exact ⟨rfl, .gone, talks_unanswered h payload, .broken live.open_ rfl⟩
  | answered _ bytes he frame w w' hw hr =>
    obtain ⟨last, talks, same, ends⟩ := answered frame { p with world := w' }
    exact ⟨same, last, (talks_answered h payload frame).append talks, ends⟩

theorem heard_unanswered {S : Serde} {tag : Tag} {frame : Frame} (h : tag.answeredBy frame.tag = false) :
    heard S login tag frame = .dead := by
  simp [heard, h]

theorem converses_hello {c : Client} (live : c.Live) (clientName : String) (features : UInt64)
    (p : Process ω) :
    Converses H login c.transport .fresh (welcomed login) (hello H clientName features (c, p)) := by
  refine converses_exchange rfl rfl live _ p fun frame p' => ?_
  obtain ⟨tag, payload⟩ := frame
  cases tag
  case helloOk =>
    cases hb : H.serde.helloOk payload with
    | error text =>
      have refused : heard H.serde login .hello ⟨.helloOk, payload⟩ = .refused := by
        simp [heard, Tag.answeredBy, welcomes, hb]
      rw [refused]
      exact ⟨.refused, by simpa [parseBody, hb] using .nil, by simp [parseBody],
        by simpa [parseBody, hb] using .usable live .refused rfl⟩
    | ok body =>
      cases ok : body.ok with
      | false =>
        have refused : heard H.serde login .hello ⟨.helloOk, payload⟩ = .refused := by
          simp [heard, Tag.answeredBy, welcomes, hb, ok]
        rw [refused]
        exact ⟨.refused, by simpa [parseBody, hb, ok] using .nil, by simp [parseBody, ok],
          by simpa [parseBody, hb, ok] using .usable live .refused rfl⟩
      | true =>
        have accepted : heard H.serde login .hello ⟨.helloOk, payload⟩ = welcomed login := by
          simp [heard, Tag.answeredBy, welcomes, hb, ok]
        rw [accepted]
        refine ⟨welcomed login, ?_, ?_, ?_⟩
        · simpa [parseBody, hb, ok, recordGrant, Execution.after, Client.granting] using
            talks_granted (t := c.transport) body.features
        · simp [parseBody, ok, recordGrant, Execution.after, Client.granting]
        · simpa [parseBody, hb, ok, recordGrant, Execution.after, Client.granting] using
            (⟨live.fault, live.open_⟩ : (c.granting body.features).Live)
  case error =>
    have refused : heard H.serde login .hello ⟨.error, payload⟩ = .refused := rfl
    rw [refused]
    exact ⟨.refused, .nil, rfl, .usable live .refused rfl⟩
  all_goals
    rw [heard_unanswered rfl]
    simp only [unexpected_live H live.fault]
    exact ⟨.gone, talks_shutdown, rfl, .broken live.open_ rfl⟩

theorem converses_auth {c : Client} (live : c.Live) (user secret : String) (p : Process ω) :
    Converses H login c.transport .greeted .ready (auth H user secret (c, p)) := by
  refine converses_exchange rfl rfl live _ p fun frame p' => ?_
  obtain ⟨tag, payload⟩ := frame
  cases tag
  case authOk =>
    cases hb : H.serde.authOk payload with
    | error text =>
      have refused : heard H.serde login .auth ⟨.authOk, payload⟩ = .refused := by
        simp [heard, Tag.answeredBy, admits, hb]
      rw [refused]
      exact ⟨.refused, by simpa [parseBody, hb] using .nil, by simp [parseBody],
        by simpa [parseBody, hb] using .usable live .refused rfl⟩
    | ok body =>
      cases ok : body.ok with
      | false =>
        have refused : heard H.serde login .auth ⟨.authOk, payload⟩ = .refused := by
          simp [heard, Tag.answeredBy, admits, hb, ok]
        rw [refused]
        exact ⟨.refused, by simpa [parseBody, hb, ok] using .nil, by simp [parseBody, ok],
          by simpa [parseBody, hb, ok] using .usable live .refused rfl⟩
      | true =>
        have accepted : heard H.serde login .auth ⟨.authOk, payload⟩ = .ready := by
          simp [heard, Tag.answeredBy, admits, hb, ok]
        rw [accepted]
        exact ⟨.ready, by simpa [parseBody, hb, ok] using .nil,
          by simp [parseBody, ok, Client.identified],
          by simpa [parseBody, hb, ok] using
            (⟨live.fault, live.open_⟩ : (c.identified body.sessionId).Live)⟩
  case error =>
    have refused : heard H.serde login .auth ⟨.error, payload⟩ = .refused := rfl
    rw [refused]
    exact ⟨.refused, .nil, rfl, .usable live .refused rfl⟩
  all_goals
    rw [heard_unanswered rfl]
    simp only [unexpected_live H live.fault]
    exact ⟨.gone, talks_shutdown, rfl, .broken live.open_ rfl⟩

theorem converses_authenticate {c : Client} (live : c.Live) (options : Options) (p : Process ω) :
    Converses H options.user.isSome c.transport (welcomed options.user.isSome) .ready
      (authenticate H options (c, p)) := by
  unfold authenticate
  cases hu : options.user with
  | none => exact ⟨rfl, .ready, .nil, live, rfl⟩
  | some user => exact converses_auth live user _ p

theorem converses_handshake {c : Client} (live : c.Live) (options : Options) (p : Process ω) :
    Converses H options.user.isSome c.transport .fresh .ready (handshake H options (c, p)) := by
  refine (converses_readTimeout rfl live _ p).bind ?_
  rintro - ⟨c₁, p₁⟩ same live
  rw [← same]
  refine (converses_writeTimeout rfl live _ p₁).bind ?_
  rintro - ⟨c₂, p₂⟩ same live
  rw [← same]
  refine (converses_hello live _ _ p₂).bind ?_
  rintro - ⟨c₃, p₃⟩ same live
  rw [← same]
  refine (converses_authenticate live options p₃).bind ?_
  rintro - ⟨c₄, p₄⟩ same live
  rw [← same]
  refine (converses_writeTimeout rfl live _ p₄).bind ?_
  rintro - ⟨c₅, p₅⟩ same live
  rw [← same]
  exact converses_readTimeout (c := c₅.withReadTimeout options.readTimeout) rfl ⟨live.fault, live.open_⟩ _ p₅

theorem ignoring_readTimeout (c : Client) (p : Process ω) (timeout : Option Duration) :
    ∃ p' es, ignoring (transportReadTimeout H timeout) (c, p) = ⟨.returned (), (c, p'), es⟩ ∧
      ∀ e ∈ es, e = .readTimeout c.transport.socket (Duration.nonZero timeout) := by
  rcases h : H.setReadTimeout c.transport.socket (Duration.nonZero timeout) p.world with ⟨_ | e, w⟩ <;>
    simp [ignoring, transportReadTimeout, Host.readDeadline, Job.ofIo, Action.attempt, h,
      Execution.after]

theorem ignoring_writeTimeout (c : Client) (p : Process ω) (timeout : Option Duration) :
    ∃ p' es, ignoring (transportWriteTimeout H timeout) (c, p) = ⟨.returned (), (c, p'), es⟩ ∧
      ∀ e ∈ es, e = .writeTimeout c.transport.socket (Duration.nonZero timeout) := by
  rcases h : H.setWriteTimeout c.transport.socket (Duration.nonZero timeout) p.world with ⟨_ | e, w⟩ <;>
    simp [ignoring, transportWriteTimeout, Host.writeDeadline, Job.ofIo, Action.attempt, h,
      Execution.after]

theorem talks_goodbye (h : st.allows .close = true) (c : Client) (p : Process ω) :
    Talks H login c.transport.socket st .gone (goodbye H (c, p)).events := by
  obtain ⟨es, answer, run⟩ := goodbye_apply H c p
  rw [run]
  rcases answer with rfl | ⟨frame, rfl, -⟩
  · exact talks_unanswered h none
  · exact (talks_answered h none frame).append talks_shutdown

theorem talks_closeInner {c : Client} (spare : Spare c st) (p : Process ω) :
    Talks H login c.transport.socket st .gone (closeInner H (c, p)).events := by
  unfold closeInner
  rw [Action.bind_apply, Method.self_apply, Execution.follow_returned, Execution.after_nil]
  cases spare with
  | broken isOpen fault =>
    simpa [isOpen, fault, Client.closing, transportShutdown, Execution.after] using
      (talks_shutdown : Talks H login c.transport.socket .gone .gone _)
  | usable live st h =>
    obtain ⟨p₁, es₁, reads, all₁⟩ := ignoring_readTimeout (H := H) c.closing p (some closeTimeout)
    obtain ⟨p₂, es₂, writes, all₂⟩ := ignoring_writeTimeout (H := H) c.closing p₁ (some closeTimeout)
    have leaves : Talks H login c.closing.transport.socket st .gone _ := talks_goodbye h c.closing p₂
    have deadlines : Talks H login c.transport.socket st st (es₁ ++ es₂) :=
      (talks_readTimeout (Stage.rests_of_allows h) all₁).append
        (talks_writeTimeout (Stage.rests_of_allows h) all₂)
    simpa [live.open_, live.fault, reads, writes, Execution.after] using deadlines.append leaves

/-! ## Opening a connection -/

theorem owning_talks (transport : Transport) (requestIdPrefix : String) (options : Options)
    (p : Process ω) : ∃ last,
      Talks H options.user.isSome transport.socket .fresh last
        (owning H (newClient transport requestIdPrefix options) (handshake H options) p).events ∧
      match (owning H (newClient transport requestIdPrefix options) (handshake H options) p).outcome with
      | .returned c => c.Live ∧ c.transport = transport ∧ last = .ready
      | _ => last = .gone := by
  obtain ⟨same, last, talks, ends⟩ := converses_handshake (H := H)
    (c := newClient transport requestIdPrefix options) ⟨rfl, rfl⟩ options p
  rcases run : handshake H options (newClient transport requestIdPrefix options, p) with ⟨o, s, es⟩
  rw [run] at same talks ends
  cases o with
  | panicked => exact absurd ends not_false
  | returned u =>
    rw [owning_returned H run]
    exact ⟨last, talks, ends.1, same, ends.2⟩
  | failed e =>
    rw [owning_failed H run]
    have closes : Talks H options.user.isSome _ _ .gone _ := talks_closeInner ends s.2
    rw [show s.1.transport = transport from same] at closes
    exact ⟨.gone, talks.append closes, rfl⟩

theorem conversations_of_opening {own : Socket → Prop} {es : List Event}
    (opens : ∀ e ∈ es, e.IsOpening own) {m : Socket → Stage} (fresh : ∀ k, own k → m k = .fresh) :
    (conversations H login).run m es = some m := by
  refine Monitor.run_of_ignored fun e he => ?_
  have := opens e he
  cases e with
  | dialing address bound => rfl
  | tlsHandshake k opts name =>
    exact Monitor.each_next_ignored (k := k) rfl (by simp [conversation, fresh k this])
  | readTimeout k bound =>
    exact Monitor.each_next_ignored (k := k) rfl (by simp [conversation, fresh k this, Stage.rests])
  | writeTimeout k bound =>
    exact Monitor.each_next_ignored (k := k) rfl (by simp [conversation, fresh k this, Stage.rests])
  | _ => exact absurd this not_false

theorem settled_update {m : Socket → Stage} {j : Socket} (other : j ≠ k → (m j).Settled) :
    (Function.update m k .gone j).Settled := by
  by_cases hj : j = k
  · subst hj
    exact .inr (Function.update_self ..)
  · rw [Function.update_of_ne hj]
    exact other hj

/-- What opening a connection makes of the conversations: there is one more, ready for requests,
or one more that is over, or none. -/
inductive Underway (m : Socket → Stage) (p : Process ω) :
    Execution (Process ω) Error Event Client → (Socket → Stage) → Prop
  | ready (c : Client) (p' : Process ω) (es : List Event) (live : c.Live)
    (low : p.opened ≤ c.transport.socket) (high : c.transport.socket < p'.opened) :
    Underway m p ⟨.returned c, p', es⟩ (Function.update m c.transport.socket .ready)
  | gone (e : Error) (p' : Process ω) (es : List Event) (k : Socket) (low : p.opened ≤ k)
    (high : k < p'.opened) : Underway m p ⟨.failed e, p', es⟩ (Function.update m k .gone)
  | never (e : Error) (p' : Process ω) (es : List Event) (grows : p.opened ≤ p'.opened) :
    Underway m p ⟨.failed e, p', es⟩ m

theorem connect_conversations (options : Options) (p : Process ω) {m : Socket → Stage}
    (fresh : ∀ k, p.opened ≤ k → m k = .fresh) : ∃ m',
      (conversations H options.user.isSome).run m (connect H options p).events = some m' ∧
        Underway m p (connect H options p) m' := by
  have hc := connecting (H := H) options p
  have grows := (connect_sparing (H := H) perSocket_unit 0 options p rfl).1
  have returns := connected (H := H) setUpPath_anyPath options p
  generalize connect H options p = r at hc grows returns ⊢
  cases hc with
  | gaveUp e p' es path =>
    exact ⟨m, conversations_of_opening path.2.2 fresh, .never e p' es grows⟩
  | handedOver transport pre p₁ es path low high =>
    obtain ⟨last, talks, ends⟩ := owning_talks (H := H) transport pre options p₁
    refine ⟨_, Monitor.run_append_of (conversations_of_opening path.2.2 fresh)
      (talks.all (fresh _ low)), ?_⟩
    have wider := (setUpPath_sparing (H := H) (s := 0) perSocket_unit).owning
      (newClient transport pre options) (handshake H options)
      ((setUpPath_sparing perSocket_unit).handshake options) p₁
    obtain ⟨c, rel, -⟩ := wider
    have high' := Nat.lt_of_lt_of_le high rel.1
    generalize owning H (newClient transport pre options) (handshake H options) p₁ = r
      at talks ends returns high' ⊢
    obtain ⟨o, p', fs⟩ := r
    cases o with
    | panicked => cases returns
    | failed e =>
      obtain rfl : last = .gone := ends
      exact .gone e p' _ transport.socket low high'
    | returned c =>
      obtain ⟨live, rfl, rfl⟩ : c.Live ∧ c.transport = transport ∧ last = .ready := ends
      exact .ready c p' _ live low high'

/-! ## Requests -/

/-- Where the conversations of a client's run stand: its own connection is ready as long as it was
not dropped, and every other one is over. -/
structure Linked (login : Bool) (m : Socket → Stage) (s : Client × Process ω) : Prop where
  user : s.1.options.user.isSome = login
  isOpen : s.1.closed = false
  opened : s.1.transport.socket < s.2.opened
  live : s.1.fault = none → m s.1.transport.socket = .ready
  dropped : s.1.fault ≠ none → m s.1.transport.socket = .gone
  fresh : ∀ k, s.2.opened ≤ k → m k = .fresh
  others : ∀ k, k ≠ s.1.transport.socket → (m k).Settled

/-- The path of a client whose conversations keep to the rules. -/
def speaking (H : Host ω) (login : Bool) : Path (Client × Process ω) Event :=
  (conversations H login).following (Linked login)

variable {c : Client} {p : Process ω} {m : Socket → Stage}

theorem Linked.spare (h : Linked login m (c, p)) : Spare c (m c.transport.socket) := by
  cases hf : c.fault with
  | none =>
    rw [h.live hf]
    exact .usable ⟨hf, h.isOpen⟩ .ready rfl
  | some fault =>
    rw [h.dropped (by simp [hf])]
    exact .broken h.isOpen (by simp [hf])

theorem Linked.later {c' : Client} {p' : Process ω} (h : Linked login m (c, p)) (user : c'.options = c.options)
    (isOpen : c'.closed = c.closed) (transport : c'.transport = c.transport) (fault : c'.fault = c.fault)
    (opened : p'.opened = p.opened) : Linked login m (c', p') where
  user := user ▸ h.user
  isOpen := isOpen.trans h.isOpen
  opened := by
    rw [transport, opened]
    exact h.opened
  live hf := transport ▸ h.live (fault ▸ hf)
  dropped hf := transport ▸ h.dropped (fault ▸ hf)
  fresh k hk := h.fresh k (opened ▸ hk)
  others := transport ▸ h.others

theorem Linked.talked {es : List Event} (h : Linked login m (c, p)) (live : c.Live)
    (talks : Talks H login c.transport.socket .ready .ready es) (w : ω) :
    ∃ m', (conversations H login).run m es = some m' ∧ Linked login m' (c, { p with world := w }) := by
  have ready := h.live live.fault
  have run := talks.all ready
  rw [← ready, Function.update_eq_self] at run
  exact ⟨m, run, h.later rfl rfl rfl rfl rfl⟩

theorem Linked.hungUp {es : List Event} (h : Linked login m (c, p)) (live : c.Live)
    (talks : Talks H login c.transport.socket .ready .gone es) (e : Error) (w : ω) :
    ∃ m', (conversations H login).run m es = some m' ∧
      Linked login m' (c.poisoned e, H.dropped c p w) := by
  refine ⟨_, talks.all (h.live live.fault), ⟨h.user, h.isOpen, h.opened, ?_, ?_, ?_, ?_⟩⟩
  · intro hf
    cases hf
  · exact fun _ => Function.update_self ..
  · intro k hk
    have other : k ≠ c.transport.socket := (Nat.lt_of_lt_of_le h.opened hk).ne'
    rw [Function.update_of_ne other]
    exact h.fresh k hk
  · intro k other
    have hk : k ≠ c.transport.socket := other
    rw [Function.update_of_ne hk]
    exact h.others k other

theorem heard_request {S : Serde} {frame : Frame} (h : Tag.request.answeredBy frame.tag = true) :
    heard S login .request frame = .ready := by
  simp [heard, h]

theorem answeredBy_of_reply {frame : Frame} {reply : Except Error Response}
    (h : replyOf H frame = some reply) : Tag.request.answeredBy frame.tag = true := by
  obtain ⟨tag, payload⟩ := frame
  cases tag <;> first | rfl | cases h

theorem answeredBy_of_misanswer {frame : Frame} (h : replyOf H frame = none) :
    Tag.request.answeredBy frame.tag = false := by
  obtain ⟨tag, payload⟩ := frame
  cases tag <;> first | rfl | cases h

theorem speaking_sendOnce (envelope : Value) : (speaking H login).Respects (sendOnce H envelope) := by
  rintro ⟨c, p⟩ m h
  have hs := sentOnce H envelope c p
  generalize sendOnce H envelope (c, p) = r at hs
  cases hs with
  | dead e he => exact ⟨m, rfl, h⟩
  | tooLarge live e he => exact ⟨m, rfl, h⟩
  | broken live bytes he e w hw => exact h.hungUp live (talks_unanswered rfl _) e.val w
  | misanswered live bytes he frame w w' hw hr hf e hk =>
    have talks : Talks H login c.transport.socket .ready (heard H.serde login .request frame) _ :=
      talks_answered rfl (some envelope) frame
    rw [heard_unanswered (answeredBy_of_misanswer hf)] at talks
    exact h.hungUp live (talks.append talks_shutdown) e w'
  | replied live bytes he frame w w' hw hr reply hf =>
    have talks : Talks H login c.transport.socket .ready (heard H.serde login .request frame) _ :=
      talks_answered rfl (some envelope) frame
    rw [heard_request (answeredBy_of_reply hf)] at talks
    exact h.talked live talks w'

theorem live_of_sent (envelope : Value) (p : Process ω) (h : (sendOnce H envelope (c, p)).events ≠ []) :
    c.Live := by
  have hs := sentOnce H envelope c p
  generalize sendOnce H envelope (c, p) = r at hs h
  cases hs with
  | dead e he => exact absurd rfl h
  | tooLarge live _ _ => exact live
  | broken live _ _ _ _ _ => exact live
  | misanswered live _ _ _ _ _ _ _ _ _ _ => exact live
  | replied live _ _ _ _ _ _ _ _ _ => exact live

theorem speaking_moveTo (address : String) {c : Client} {p : Process ω} (live : c.Live) :
    (speaking H login).rel (c, p) (moveTo H address (c, p)).events (moveTo H address (c, p)).state := by
  intro m h
  have hm := moving (H := H) address c p
  generalize moveTo H address (c, p) = r at hm
  have opens (host : String) (port : UInt16) : ∃ m', (conversations H login).run m
      (connect H (followOptions c.options host port) p).events = some m' ∧
        Underway m p (connect H (followOptions c.options host port) p) m' := by
    rw [← h.user]
    exact connect_conversations (followOptions c.options host port) p h.fresh
  cases hm with
  | unreadable _ => exact ⟨m, rfl, h⟩
  | stayed host port _ e p' es run =>
    obtain ⟨m', allowed, begins⟩ := opens host port
    rw [run] at allowed begins
    refine ⟨m', allowed, ?_⟩
    cases begins with
    | never _ _ _ grows =>
      exact ⟨h.user, h.isOpen, Nat.lt_of_lt_of_le h.opened grows, h.live, h.dropped,
        fun k hk => h.fresh k (Nat.le_trans grows hk), h.others⟩
    | gone _ _ _ k low high =>
      have ne : c.transport.socket ≠ k := (Nat.lt_of_lt_of_le h.opened low).ne
      refine ⟨h.user, h.isOpen, Nat.lt_trans (Nat.lt_of_lt_of_le h.opened low) high, ?_, ?_, ?_, ?_⟩
      · rw [Function.update_of_ne ne]
        exact h.live
      · rw [Function.update_of_ne ne]
        exact h.dropped
      · intro j hj
        rw [Function.update_of_ne (Nat.lt_of_lt_of_le high hj).ne']
        exact h.fresh j (Nat.le_trans low (Nat.le_trans high.le hj))
      · exact fun j hj => settled_update fun _ => h.others j hj
  | moved host port _ fresh p' es run =>
    obtain ⟨m', allowed, begins⟩ := opens host port
    rw [run] at allowed begins
    cases begins with
    | ready _ _ _ fresh_live low high =>
      have ne : c.transport.socket ≠ fresh.transport.socket := (Nat.lt_of_lt_of_le h.opened low).ne
      set ready := Function.update m fresh.transport.socket Stage.ready
      have adopted : (conversations H login).run ready [.moved fresh.transport] = some ready :=
        Monitor.run_of_ignored fun e he => by
          rw [List.mem_singleton.mp he]
          exact Monitor.each_next_ignored (k := fresh.transport.socket) rfl
            (by simp [conversation, ready])
      have leaves : Talks H login c.transport.socket .ready .gone _ := talks_shutdown
      have left := leaves.all (m := ready) ((Function.update_of_ne ne ..).trans (h.live live.fault))
      refine ⟨_, Monitor.run_append_of allowed (Monitor.run_append_of adopted left), ?_⟩
      refine ⟨h.user, h.isOpen, high, fun _ => ?_, fun hf => absurd live.fault hf, ?_, ?_⟩
      · exact (Function.update_of_ne ne.symm ..).trans (Function.update_self ..)
      · intro j hj
        have hj' : fresh.transport.socket < j := Nat.lt_of_lt_of_le high hj
        have above : c.transport.socket < j :=
          Nat.lt_trans (Nat.lt_of_lt_of_le h.opened low) hj'
        refine (Function.update_of_ne above.ne' ..).trans ((Function.update_of_ne hj'.ne' ..).trans ?_)
        exact h.fresh j (Nat.le_trans low hj'.le)
      · intro j hj
        have elsewhere : ready j = m j := Function.update_of_ne hj ..
        exact settled_update fun hk => elsewhere ▸ h.others j hk

theorem speaking_followHint (hint : Option String) {c : Client} {p : Process ω} (live : c.Live) :
    (speaking H login).rel (c, p) (followHint H hint (c, p)).events (followHint H hint (c, p)).state := by
  have hh := hinting (H := H) hint (c, p)
  generalize followHint H hint (c, p) = r at hh
  cases hh with
  | stays => exact (speaking H login).refl _
  | moves address => exact speaking_moveTo address live

theorem speaking_paused (delay : Duration) (s : Client × Process ω) :
    (speaking H login).rel s [.paused delay] s := fun m h => ⟨m, rfl, h⟩

theorem speaking_sendLoop (envelope : Value) (left retried : Nat) (pause : Duration) :
    (speaking H login).Respects (sendLoop H envelope left retried pause) := by
  rintro ⟨c, p⟩
  induction left using Nat.strong_induction_on generalizing retried pause c p with
  | _ left ih =>
    have hround := sendLoop_round (H := H) envelope left retried pause c p
    have once : (speaking H login).rel _ (sendOnce H envelope (c, p)).events _ :=
      speaking_sendOnce envelope (c, p)
    generalize sendLoop H envelope left retried pause (c, p) = r at hround ⊢
    cases hround with
    | last o o' s es run ends =>
      rw [run] at once
      exact once
    | again left' hl follow txn e redirect frame w reply run moved s fs hint =>
      have live : c.Live := live_of_sent (H := H) envelope p (by rw [run]; simp)
      have moves : (speaking H login).rel (c, { p with world := w })
          (followHint H e.leaderHint (c, { p with world := w })).events _ :=
        speaking_followHint e.leaderHint live
      rw [run] at once
      rw [hint] at moves
      refine (speaking H login).trans ((speaking H login).trans once moves) ?_
      have rest (pause : Duration) := ih left' (by omega) (retried + 1) pause s.1 s.2
      unfold sendAgain
      cases moved with
      | true => exact rest pause
      | false =>
        dsimp only
        cases nextPause pause with
        | none => exact speaking_paused pause s
        | some next => exact (speaking H login).trans (speaking_paused pause s) (rest next)

theorem speaking_update {f : Client → Client} (h : ∀ c, Bookkept c (f c)) :
    (speaking H login).Respects (Method.update f : Method ω Unit) := fun s =>
  Monitor.following_silent fun _ hm => hm.later (h s.1).options (h s.1).closed (h s.1).transport
    (h s.1).fault rfl

theorem speaking_sendIn (op : Value) (txn : Option String) :
    (speaking H login).Respects (sendIn H op txn) :=
  (speaking_update Bookkeeping.counted.kept).bind fun _ => respects_self.bind fun _ =>
    (speaking_update (Bookkeeping.remembering _).kept).bind fun _ => speaking_sendLoop _ _ _ _

/-- A call that asks once, and ignores no answer: it ends on one that belongs to it, and drops the
connection after any other. -/
theorem speaking_asks {tag : Tag} (h : Stage.ready.allows tag = true) (payload : Option Value)
    {f : Frame → Method ω α}
    (own : ∀ frame (s : Client × Process ω), heard H.serde login tag frame = .ready →
      (f frame s).events = [] ∧ (f frame s).state = s)
    (other : ∀ frame (c : Client) (p : Process ω), c.Live → heard H.serde login tag frame = .dead →
      ∃ e, (f frame (c, p)).events = [.shutdown c.transport.socket] ∧
        (f frame (c, p)).state = (c.poisoned e, H.dropped c p p.world))
    (either : ∀ frame, heard H.serde login tag frame = .ready ∨ heard H.serde login tag frame = .dead) :
    (speaking H login).Respects (exchange H tag payload >>= f) := by
  rintro ⟨c, p⟩ m linked
  have hx := exchanged H tag payload c p
  rw [Action.bind_apply]
  generalize exchange H tag payload (c, p) = r at hx ⊢
  cases hx with
  | faulted fault hf => exact ⟨m, rfl, linked⟩
  | closed hf hc => exact ⟨m, rfl, linked⟩
  | tooLarge live e he => exact ⟨m, rfl, linked⟩
  | writeFailed live bytes he e w hw => exact linked.hungUp live (talks_unanswered h payload) e.val w
  | readFailed live bytes he e w w' hw hr =>
    exact linked.hungUp live (talks_unanswered h payload) e.val w'
  | answered live bytes he frame w w' hw hr =>
    have talks : Talks H login c.transport.socket _ _ _ := talks_answered h payload frame
    rw [Execution.follow_returned, Execution.after_events, Execution.after_state]
    rcases either frame with ready | dead
    · obtain ⟨events, state⟩ := own frame (c, { p with world := w' }) ready
      rw [ready] at talks
      rw [events, state]
      exact linked.talked live talks w'
    · obtain ⟨e, events, state⟩ := other frame c { p with world := w' } live dead
      rw [dead] at talks
      rw [events, state]
      exact linked.hungUp live (talks.append talks_shutdown) e w'

theorem speaking_ping : (speaking H login).Respects (ping H) := by
  refine speaking_asks rfl none ?_ ?_ ?_
  · rintro ⟨tag, payload⟩ s ready
    cases tag <;> first | exact ⟨rfl, rfl⟩ | cases ready
  · rintro ⟨tag, payload⟩ c p live dead
    refine ⟨Error.protocol ("expected PONG, got " ++ tag.debug), ?_⟩
    cases tag
    case pong => cases dead
    all_goals exact ⟨by simp [unexpected_live H live.fault], by simp [unexpected_live H live.fault]⟩
  · rintro ⟨tag, payload⟩
    cases tag <;> first | exact .inl rfl | exact .inr rfl

theorem speaking_cancel (requestId : String) : (speaking H login).Respects (cancel H requestId) := by
  unfold cancel
  split
  · exact respects_fail _
  · refine speaking_asks rfl _ ?_ ?_ ?_
    · rintro ⟨tag, payload⟩ s ready
      cases tag
      case cancelOk =>
        cases parseBody (H.serde.cancelOk payload) "CANCEL_OK" <;> simp
      case error => exact ⟨rfl, rfl⟩
      all_goals cases ready
    · rintro ⟨tag, payload⟩ c p live dead
      refine ⟨Error.protocol ("expected CANCEL_OK, got " ++ tag.debug), ?_⟩
      cases tag
      case cancelOk => cases dead
      case error => cases dead
      all_goals exact ⟨by simp [unexpected_live H live.fault], by simp [unexpected_live H live.fault]⟩
    · rintro ⟨tag, payload⟩
      cases tag <;> first | exact .inl rfl | exact .inr rfl

theorem speaking_setReadTimeout (timeout : Option Duration) :
    (speaking H login).Respects (setReadTimeout H timeout) := by
  rintro ⟨c, p⟩ m h
  have quiet := (readDeadline_quiet (H := H) c.transport.socket (Duration.nonZero timeout) p)
  have run : setReadTimeout H timeout (c, p) =
      ⟨(H.readDeadline c.transport.socket (Duration.nonZero timeout) p).outcome,
        (c.withReadTimeout timeout, (H.readDeadline c.transport.socket (Duration.nonZero timeout) p).state),
        (H.readDeadline c.transport.socket (Duration.nonZero timeout) p).events⟩ := rfl
  have rests : (m c.transport.socket).rests = true := by
    cases hf : c.fault with
    | none => rw [h.live hf]; rfl
    | some fault => rw [h.dropped (by simp [hf])]; rfl
  have bounds : Talks H login c.transport.socket _ _ _ := talks_readTimeout rests quiet.2
  have allowed := bounds.all (m := m) rfl
  rw [Function.update_eq_self] at allowed
  rw [run]
  exact ⟨m, allowed, h.later rfl rfl rfl rfl quiet.1⟩

theorem requestPath_speaking : RequestPath H (speaking H login) where
  sendIn := speaking_sendIn
  ping := speaking_ping
  cancel := speaking_cancel
  update hf := speaking_update hf.kept
  withTxnOpen _ _ := Monitor.following_silent fun _ hm => hm.later rfl rfl rfl rfl rfl

theorem speaking_run (call : Call) : (speaking H login).Respects (call.run H) :=
  requestPath_speaking.run_of fun t _ => speaking_setReadTimeout t

theorem speaking_proc (work : Proc α) : (speaking H login).Respects (work.run H) :=
  respects_proc speaking_run work

/-! ## From the first connection to the last -/

/-- What happened on a connection kept to the rules of a conversation, and is over. -/
def Completed (H : Host ω) (login : Bool) (k : Socket) (log : List Event) : Prop :=
  ∃ last, (conversation H.serde login).run .fresh (Monitor.project Event.socket? k log) = some last ∧
    last.Settled

/-- Whatever the caller asks and the servers answer, and wherever hints lead, the conversation on
every connection that a client opens keeps to the rules, and every connection on which a frame was
written is shut down in the end. -/
theorem lifetime_conversation (H : Host ω) (options : Options) (work : Proc α) (p : Process ω)
    (k : Socket) : Completed H options.user.isSome k (lifetime H options work p).events := by
  suffices h : ∃ m, (conversations H options.user.isSome).run (fun _ => .fresh)
      (lifetime H options work p).events = some m ∧ ∀ k, (m k).Settled by
    obtain ⟨m, allowed, settled⟩ := h
    exact ⟨m k, Monitor.each_run_iff.mp allowed k, settled k⟩
  obtain ⟨m, allowed, begins⟩ := connect_conversations (H := H) options p (m := fun _ => .fresh)
    fun _ _ => rfl
  unfold lifetime
  rcases run : connect H options p with ⟨o, p', es⟩
  rw [run] at allowed begins
  cases begins with
  | never e _ _ grows => exact ⟨_, allowed, fun _ => .inl rfl⟩
  | gone e _ _ k low high => exact ⟨_, allowed, fun _ => settled_update fun _ => .inl rfl⟩
  | ready c _ _ live low high =>
    have linked : Linked options.user.isSome (Function.update (fun _ => Stage.fresh) c.transport.socket
        .ready) (c, p') := by
      refine ⟨by rw [connect_options run], live.open_, high, fun _ => Function.update_self ..,
        fun hf => absurd live.fault hf, fun k hk => ?_, fun k hk => ?_⟩
      · exact Function.update_of_ne (Nat.lt_of_lt_of_le high hk).ne' ..
      · exact .inl (Function.update_of_ne hk ..)
    have works : (speaking H options.user.isSome).Respects (work.run H) := speaking_proc work
    obtain ⟨m', used, linked'⟩ := works (c, p') _ linked
    have leaves : Talks H options.user.isSome _ _ .gone _ :=
      talks_closeInner linked'.spare (work.run H (c, p')).state.2
    have closes := leaves.all rfl
    exact ⟨_, Monitor.run_append_of allowed (Monitor.run_append_of used closes),
      fun k => settled_update (linked'.others k)⟩

end

end TricoreSdk
