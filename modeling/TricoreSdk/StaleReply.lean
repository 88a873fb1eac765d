import TricoreSdk.RequestCalls
import TricoreSdk.Scripted
import TricoreSdk.Stream

/-! No stale reply: while a client can be used, nothing is left over on its
connection, so the next frame read is the answer to the last frame written. -/

namespace TricoreSdk
open Effects Path

def Event.writesOn (socket : Socket) : Event → Bool
  | .wrote transport _ _ => transport.socket == socket
  | _ => false

def writes (socket : Socket) (log : List Event) : Nat := log.countP (Event.writesOn socket)

def Event.wire? : Event → Option Socket
  | .wrote transport _ _ => some transport.socket
  | .answered transport _ => some transport.socket
  | .shutdown socket => some socket
  | _ => none

theorem Event.socket?_of_wire? {e : Event} {socket : Socket} (h : e.wire? = some socket) :
    e.socket? = some socket := by
  cases e <;> first | exact h | cases h

theorem writes_append (socket : Socket) (log es : List Event) :
    writes socket (log ++ es) = writes socket log + writes socket es := List.countP_append ..

theorem writes_of_elsewhere {socket : Socket} {es : List Event}
    (h : ∀ e ∈ es, e.wire? ≠ some socket) : writes socket es = 0 := by
  refine List.countP_eq_zero.mpr fun e he hw => h e he ?_
  cases e with
  | wrote transport tag payload => exact congrArg some (beq_iff_eq.mp hw)
  | _ => cases hw

/-- Events that do not begin with an answer to something before them. -/
def BeginsFresh (es : List Event) : Prop :=
  ∀ transport frame, es.head? ≠ some (.answered transport frame)

theorem beginsFresh_append {es fs : List Event} (h : BeginsFresh es) (h' : BeginsFresh fs) :
    BeginsFresh (es ++ fs) := by
  cases es with
  | nil => exact h'
  | cons e es => exact h

theorem beginsFresh_of_quiet {es : List Event} (h : ∀ e ∈ es, e.wire? = none) : BeginsFresh es := by
  intro transport frame hh
  have := h _ (List.mem_of_mem_head? hh)
  simp [Event.wire?] at this

section

variable {σ : Type} {B : Host σ} {W : Wire σ}

variable (B) in
/-- The frame is the server's answer to the frame written last: the write just
before, and in the server's own ledger the answer to the frame after as many. -/
def AnswersLast (links : Socket → Link) (log es : List Event) (transport : Transport)
    (frame : Frame) : Prop :=
  ∃ before tag payload a, es = before ++ [.wrote transport tag payload] ∧
    (links transport.socket).ledger[writes transport.socket (log ++ before)]? =
      some (frameBytes tag (B.body payload), a) ∧ a.Reads frame

variable (B) in
/-- Every frame that is read among these events answers one written among them. -/
def AnswersOwn (links : Socket → Link) (log es : List Event) : Prop :=
  ∀ fs transport frame gs, es = fs ++ .answered transport frame :: gs →
    AnswersLast B links log fs transport frame

variable (B) in
/-- Frames move only on connections that were not shut down, and each one that
is read answers the last one written. -/
def InOrder (links : Socket → Link) (log : List Event) : Event → Prop
  | .wrote transport _ _ => ∀ e ∈ log, e ≠ .shutdown transport.socket
  | .answered transport frame =>
    (∀ e ∈ log, e ≠ .shutdown transport.socket) ∧ AnswersLast B links [] log transport frame
  | _ => True

theorem inOrder_of_quiet {links : Socket → Link} {es : List Event} (h : ∀ e ∈ es, e.wire? = none)
    (log : List Event) : Throughout (InOrder B links) log es := by
  refine throughout_of_forall (fun e he log => ?_) log
  have := h e he
  cases e <;> trivial

theorem answersOwn_of_inOrder {links : Socket → Link} {log es : List Event}
    (h : Throughout (InOrder B links) log es) (fresh : BeginsFresh es) :
    AnswersOwn B links log es := by
  rintro fs transport frame gs rfl
  obtain ⟨-, before, tag, payload, a, last, entry, reads⟩ := ((throughout_append ..).mp h).2.1
  rcases List.eq_nil_or_concat fs with rfl | ⟨fs, e, rfl⟩
  · exact absurd rfl (fresh transport frame)
  · rw [List.concat_eq_append, ← List.append_assoc] at last
    obtain ⟨rfl, ⟨⟩⟩ := List.append_inj' last rfl
    exact ⟨fs, tag, payload, a, List.concat_eq_append, entry, reads⟩

/-- A server's ledger is never rewritten. -/
def Extends (links links' : Socket → Link) : Prop :=
  ∀ socket, (links socket).ledger <+: (links' socket).ledger

theorem Grows.extends {socket : Socket} {w w' : World σ} (h : Grows socket w w') :
    Extends w.links w'.links := by
  intro s
  by_cases hs : socket = s
  · exact hs ▸ h.ledger
  · exact prefix_of_eq (by rw [h.others s hs])

theorem InOrder.mono {links links' : Socket → Link} (h : Extends links links') {log : List Event}
    {e : Event} (he : InOrder B links log e) : InOrder B links' log e := by
  cases e with
  | answered transport frame =>
    obtain ⟨unshut, before, tag, payload, a, last, entry, reads⟩ := he
    refine ⟨unshut, before, tag, payload, a, last, ?_, reads⟩
    obtain ⟨rest, hr⟩ := h transport.socket
    rw [← hr, List.getElem?_append_left (List.getElem?_eq_some_iff.mp entry).1]
    exact entry
  | _ => exact he

variable (B) in
/-- What a log leaves of the connections of a process: those it names were
opened, those not opened yet have carried nothing, and frames moved in order. -/
structure Carried (log : List Event) (p : Process (World σ)) : Prop where
  known : ∀ e ∈ log, ∀ socket, e.wire? = some socket → socket < p.opened
  unused : ∀ socket, p.opened ≤ socket → p.world.links socket = Link.new
  inOrder : Throughout (InOrder B p.world.links) [] log

variable (B) in
/-- A client whose connection has nothing left over, unless it was shut down. -/
structure Aligned (log : List Event) (s : Client × Process (World σ)) : Prop where
  carried : Carried B log s.2
  opened : s.1.transport.socket < s.2.opened
  live : s.1.Live → ∀ e ∈ log, e ≠ .shutdown s.1.transport.socket
  rest : (∀ e ∈ log, e ≠ .shutdown s.1.transport.socket) →
    (s.2.world.links s.1.transport.socket).AtRest ∧
      (s.2.world.links s.1.transport.socket).ledger.length = writes s.1.transport.socket log

theorem Carried.append {log es : List Event} {p p' : Process (World σ)} (h : Carried B log p)
    (ho : p.opened ≤ p'.opened) (extends_ : Extends p.world.links p'.world.links)
    (known : ∀ e ∈ es, ∀ socket, e.wire? = some socket → socket < p'.opened)
    (unused : ∀ socket, p'.opened ≤ socket → p'.world.links socket = Link.new)
    (inOrder : Throughout (InOrder B p'.world.links) log es) : Carried B (log ++ es) p' where
  known e he socket hs := by
    rcases List.mem_append.mp he with he | he
    · exact Nat.lt_of_lt_of_le (h.known e he socket hs) ho
    · exact known e he socket hs
  unused := unused
  inOrder := by
    refine (throughout_append ..).mpr ⟨h.inOrder.imp fun _ _ => InOrder.mono extends_, ?_⟩
    simpa using inOrder

theorem Carried.quiet {log es : List Event} {p p' : Process (World σ)} (h : Carried B log p)
    (ho : p.opened ≤ p'.opened) (links : p'.world.links = p.world.links)
    (quiet : ∀ e ∈ es, e.wire? = none) : Carried B (log ++ es) p' := by
  refine h.append ho (fun s => prefix_of_eq (by rw [links]))
    (fun e he socket hs => by simp [quiet e he] at hs) ?_ (inOrder_of_quiet quiet log)
  intro socket hs
  rw [links]
  exact h.unused socket (Nat.le_trans ho hs)

variable (B) in
def aligning : Path (Client × Process (World σ)) Event where
  rel s es s' := s.2.opened ≤ s'.2.opened ∧ BeginsFresh es ∧
    ∀ log, Aligned B log s → Aligned B (log ++ es) s'
  refl s := ⟨Nat.le_refl _, fun _ _ => by simp, fun log h => by rwa [List.append_nil]⟩
  trans h h' := ⟨Nat.le_trans h.1 h'.1, beginsFresh_append h.2.1 h'.2.1, fun log ht => by
    rw [← List.append_assoc]
    exact h'.2.2 _ (h.2.2 log ht)⟩

theorem aligning_of_quiet {s s' : Client × Process (World σ)} {es : List Event}
    (ht : s'.1.transport = s.1.transport) (hl : s'.1.Live → s.1.Live) (ho : s.2.opened ≤ s'.2.opened)
    (links : s'.2.world.links = s.2.world.links) (quiet : ∀ e ∈ es, e.wire? = none) :
    (aligning B).rel s es s' := by
  refine ⟨ho, beginsFresh_of_quiet quiet, fun log h => ⟨h.carried.quiet ho links quiet, ?_, ?_, ?_⟩⟩
  · exact ht ▸ Nat.lt_of_lt_of_le h.opened ho
  · intro live e he
    rw [ht]
    rcases List.mem_append.mp he with he | he
    · exact h.live (hl live) e he
    · rintro rfl
      exact absurd (quiet _ he) (by simp [Event.wire?])
  · intro up
    rw [ht] at up ⊢
    have none_more : writes s.1.transport.socket es = 0 :=
      writes_of_elsewhere fun e he => by simp [quiet e he]
    rw [links, writes_append, none_more]
    exact h.rest fun e he => up e (List.mem_append_left _ he)

theorem aligning_of_shutdown {s s' : Client × Process (World σ)} {log : List Event} (es : List Event)
    (h : Aligned B log s) (ht : s'.1.transport = s.1.transport) (dead : ¬s'.1.Live)
    (carried : Carried B (log ++ (es ++ [.shutdown s.1.transport.socket])) s'.2)
    (ho : s.2.opened ≤ s'.2.opened) :
    Aligned B (log ++ (es ++ [.shutdown s.1.transport.socket])) s' where
  carried := carried
  opened := ht ▸ Nat.lt_of_lt_of_le h.opened ho
  live live := absurd live dead
  rest up := absurd (ht ▸ rfl) (up (.shutdown s.1.transport.socket) (by simp))

theorem carried_wrote {log : List Event} {c : Client} {p : Process (World σ)} {w : World σ}
    (h : Aligned B log (c, p)) (up : ∀ e ∈ log, e ≠ .shutdown c.transport.socket)
    (grows : Grows c.transport.socket p.world w) (tag : Tag) (payload : Option Value)
    (fs : List Event) (own : ∀ e ∈ fs, ∀ socket, e.wire? = some socket → socket = c.transport.socket)
    (inOrder : Throughout (InOrder B w.links) (log ++ [.wrote c.transport tag payload]) fs) :
    Carried B (log ++ (.wrote c.transport tag payload :: fs)) { p with world := w } := by
  refine h.carried.append (Nat.le_refl _) grows.extends ?_ ?_ ⟨up, inOrder⟩
  · intro e he socket hs
    rcases List.mem_cons.mp he with rfl | he
    · cases hs
      exact h.opened
    · exact own e he socket hs ▸ h.opened
  · intro socket hs
    have : c.transport.socket ≠ socket := Nat.ne_of_lt (Nat.lt_of_lt_of_le h.opened hs)
    rw [grows.others socket this]
    exact h.carried.unused socket hs

theorem standing_wrote {log : List Event} {socket : Socket} (up : ∀ e ∈ log, e ≠ .shutdown socket)
    (transport : Transport) (tag : Tag) (payload : Option Value) :
    ∀ e ∈ log ++ [.wrote transport tag payload], e ≠ .shutdown socket := by
  intro e he
  rcases List.mem_append.mp he with he | he
  · exact up e he
  · rw [List.mem_singleton.mp he]
    exact Event.noConfusion

theorem answersLast_of_entry {log : List Event} {c : Client} {p : Process (World σ)} {l : Link}
    {links : Socket → Link} (tag : Tag) {payload : Option Value} {a : Answer} {frame : Frame}
    (h : Aligned B log (c, p)) (up : ∀ e ∈ log, e ≠ .shutdown c.transport.socket)
    (hl : links c.transport.socket = l)
    (ledger : l.ledger = (p.world.links c.transport.socket).ledger ++
      [(frameBytes tag (B.body payload), a)]) (reads : a.Reads frame) :
    AnswersLast B links [] (log ++ [.wrote c.transport tag payload]) c.transport frame := by
  refine ⟨log, tag, payload, a, rfl, ?_, reads⟩
  rw [hl, ledger, List.nil_append, ← (h.rest up).2]
  simp

theorem aligning_exchange (tag : Tag) (payload : Option Value) :
    (aligning B).Respects (exchange (B.overStreams W) tag payload) := by
  rintro ⟨c, p⟩
  have hx := exchanged (B.overStreams W) tag payload c p
  generalize exchange (B.overStreams W) tag payload (c, p) = r at hx
  have sends := grows_send (B := B) (W := W) c.transport tag payload p.world
  have recvs := grows_recv (B := B) (W := W) c.transport
  -- A frame that got no answer leaves the connection shut down.
  have dropped (live : c.Live) (e : Error) {w : World σ} (grows : Grows c.transport.socket p.world w) :
      (aligning B).rel (c, p) [.wrote c.transport tag payload, .shutdown c.transport.socket]
        (c.poisoned e, (B.overStreams W).dropped c p w) := by
    refine ⟨Nat.le_refl _, fun _ _ => by simp, fun log h => ?_⟩
    refine aligning_of_shutdown [.wrote c.transport tag payload] h rfl
      (fun live => by cases live.fault) ?_ (Nat.le_refl _)
    have gone : Grows c.transport.socket p.world ((B.overStreams W).dropped c p w).world :=
      grows.trans (.of_links rfl)
    exact carried_wrote h (h.live live) gone tag payload [.shutdown c.transport.socket]
      (by simp [Event.wire?]) ⟨trivial, trivial⟩
  cases hx with
  | faulted fault hf => exact (aligning B).refl _
  | closed hf hc => exact (aligning B).refl _
  | tooLarge live e he => exact (aligning B).refl _
  | writeFailed live bytes he e w hw => exact dropped live e.val (by rwa [hw] at sends)
  | readFailed live bytes he e w w' hw hr =>
    have received := recvs w
    rw [hw] at sends
    rw [hr] at received
    exact dropped live e.val (sends.trans received)
  | answered live bytes he frame w w' hw hr =>
    refine ⟨Nat.le_refl _, fun _ _ => by simp, fun log h => ?_⟩
    have up := h.live live
    have received := recvs w
    rw [hw] at sends
    rw [hr] at received
    have fits : (B.body payload).length ≤ tag.maxPayload := (encode_ok he).1
    obtain ⟨a, sent⟩ := send_ok fits (h.rest up).1 hw
    obtain ⟨reads, own⟩ := recv_answer (by rw [sent]) hr
    rw [sent] at own
    have last := answersLast_of_entry tag h up own rfl reads
    have still := standing_wrote up c.transport tag payload
    refine ⟨carried_wrote h up (sends.trans received) tag payload [.answered c.transport frame]
      (by simp [Event.wire?]) ⟨⟨still, last⟩, trivial⟩, h.opened, fun _ e he => ?_, fun _ => ?_⟩
    · rcases List.mem_append.mp he with he | he
      · exact up e he
      · rcases List.mem_pair.mp he with rfl | rfl <;> exact Event.noConfusion
    · have count : writes c.transport.socket
          (log ++ [.wrote c.transport tag payload, .answered c.transport frame]) =
            (p.world.links c.transport.socket).ledger.length + 1 := by
        rw [writes_append, (h.rest up).2]
        simp [writes, Event.writesOn]
      refine ⟨?_, ?_⟩
      · rw [own]
        exact ⟨rfl, rfl⟩
      · rw [own, count]
        simp

theorem Event.IsOpening.wire? {own : Socket → Prop} {e : Event} (h : e.IsOpening own) :
    e.wire? = none := by
  cases e <;> first | rfl | exact absurd h not_false

theorem Quiet.links {w w' : World σ} (h : Quiet (B.overStreams W) w w') : w'.links = w.links := by
  induction h with
  | refl w => rfl
  | trans h h' ih ih' => exact ih'.trans ih
  | _ => rfl

theorem aligning_update {f : Client → Client} (ht : ∀ c, (f c).transport = c.transport)
    (hl : ∀ c, (f c).Live → c.Live) :
    (aligning B).Respects (Method.update f : Method (World σ) Unit) := fun s =>
  aligning_of_quiet (ht s.1) (hl s.1) (Nat.le_refl _) rfl (by simp)

theorem aligning_deadline {c c' : Client} {p p' : Process (World σ)} {es : List Event}
    (ht : c'.transport = c.transport) (hl : c'.Live → c.Live)
    (path : (opening (B.overStreams W) (· = c.transport.socket)).rel p es p') :
    (aligning B).rel (c, p) es (c', p') := by
  obtain ⟨ho, quiet, events⟩ := path
  exact aligning_of_quiet ht hl ho quiet.links fun e he => (events e he).wire?

theorem aligning_readTimeout (timeout : Option Duration) :
    (aligning B).Respects (transportReadTimeout (B.overStreams W) timeout) := fun s =>
  aligning_deadline rfl id (readDeadline_own s.1.transport.socket timeout s.2)

theorem aligning_writeTimeout (timeout : Option Duration) :
    (aligning B).Respects (transportWriteTimeout (B.overStreams W) timeout) := fun s =>
  aligning_deadline rfl id (writeDeadline_own s.1.transport.socket timeout s.2)

theorem aligning_drop {c c' : Client} {p : Process (World σ)} {w : World σ}
    (ht : c'.transport = c.transport) (dead : ¬c'.Live) (links : w.links = p.world.links) :
    (aligning B).rel (c, p) [.shutdown c.transport.socket] (c', { p with world := w }) := by
  refine ⟨Nat.le_refl _, fun _ _ => by simp, fun log h => ?_⟩
  refine aligning_of_shutdown [] h ht dead ?_ (Nat.le_refl _)
  refine h.carried.append (Nat.le_refl _) (fun s => prefix_of_eq (by rw [links])) ?_ ?_
    ⟨trivial, trivial⟩
  · simpa [Event.wire?] using h.opened
  · simpa [links] using h.carried.unused

theorem aligning_poison (error : Error) : (aligning B).Respects (poison (B.overStreams W) error) :=
  respects_poison_of_dropped fun _ _ _ => aligning_drop rfl (fun live => by cases live.fault) rfl

theorem aligning_recordGrant (features : UInt64) :
    (aligning B).Respects (recordGrant features : Method (World σ) Unit) := fun s =>
  aligning_of_quiet rfl (fun live => ⟨live.fault, live.open_⟩) (Nat.le_refl _) rfl
    (by simp [recordGrant, Execution.after, Event.wire?])

theorem aligning_closeInner : (aligning B).Respects (closeInner (B.overStreams W)) := by
  rintro ⟨c, p⟩
  have hc := closing (H := B.overStreams W) c p
  generalize closeInner (B.overStreams W) (c, p) = r at hc
  have dead (p' : Process (World σ)) : ¬(c.closing).Live := fun live => by cases live.open_
  cases hc with
  | already h => exact (aligning B).refl _
  | faulted h hf => exact aligning_drop rfl (dead p) rfl
  | farewell live p' es fs path answer =>
    refine (aligning B).trans (aligning_deadline rfl id path) 
      ⟨Nat.le_refl _, fun _ _ => by simp, fun log h => ?_⟩
    have up := h.live live
    have sends := grows_send (B := B) (W := W) c.transport .close none p'.world
    have recvs := grows_recv (B := B) (W := W) c.transport
      ((B.overStreams W).send c.transport .close none p'.world).2
    have gone : Grows c.transport.socket p'.world ((B.overStreams W).dropped c p'
        ((B.overStreams W).recv c.transport
          ((B.overStreams W).send c.transport .close none p'.world).2).2).world :=
      (sends.trans recvs).trans (.of_links rfl)
    refine aligning_of_shutdown (.wrote c.transport .close none :: fs) h rfl (dead p') ?_
      (Nat.le_refl _)
    rcases answer with rfl | ⟨frame, rfl, read⟩
    · exact carried_wrote h up gone .close none [.shutdown c.transport.socket]
        (by simp [Event.wire?]) ⟨trivial, trivial⟩
    · have delivered := send_delivers (B := B) (W := W) c.transport .close none
        (Nat.zero_le _) (h.rest up).1
      rcases hr : (B.overStreams W).recv c.transport
        ((B.overStreams W).send c.transport .close none p'.world).2 with ⟨x, w⟩
      rw [hr] at read gone
      obtain rfl : x = .ok frame := read
      -- Only an answer to the goodbye can have been read.
      have last :
          AnswersLast B w.links [] (log ++ [.wrote c.transport .close none]) c.transport frame := by
        generalize hl : ((B.overStreams W).send c.transport .close none p'.world).2.links
          c.transport.socket = l at delivered
        cases delivered with
        | cut received => exact absurd (congrArg Prod.fst hr) (recv_nothing (by rw [hl]))
        | whole a =>
          obtain ⟨reads, own⟩ := recv_answer (by rw [hl]) hr
          rw [hl] at own
          exact answersLast_of_entry .close h up own rfl reads
      have still := standing_wrote up c.transport .close none
      exact carried_wrote h up gone .close none [.answered c.transport frame, .shutdown c.transport.socket]
        (by simp [Event.wire?]) ⟨⟨still, last⟩, trivial, trivial⟩

theorem setUpPath_aligning : SetUpPath (B.overStreams W) (aligning B) where
  hello := aligning_exchange .hello
  auth := aligning_exchange .auth
  poison := aligning_poison
  readTimeout := aligning_readTimeout
  writeTimeout := aligning_writeTimeout
  recordGrant := aligning_recordGrant
  identified id :=
    aligning_update (f := Client.identified id) (fun _ => rfl) fun _ live => ⟨live.fault, live.open_⟩
  withReadTimeout t := aligning_update (f := Client.withReadTimeout t) (fun _ => rfl) fun _ live =>
    ⟨live.fault, live.open_⟩
  closeInner := aligning_closeInner

/-! ## New connections -/

theorem perSocket_links : PerSocket (B.overStreams W) fun w socket => w.links socket where
  quiet h := h.links
  send hs tag payload w := (grows_send _ tag payload w).others _ hs
  recv hs w := (grows_recv _ w).others _ hs
  shutdown _ _ := rfl

theorem Carried.opening {own : Socket → Prop} {log es : List Event} {p p' : Process (World σ)}
    (h : Carried B log p) (path : (opening (B.overStreams W) own).rel p es p') :
    Carried B (log ++ es) p' :=
  h.quiet path.1 path.2.1.links fun e he => (path.2.2 e he).wire?

theorem connect_fresh {options : Options} {p : Process (World σ)}
    {r : Execution (Process (World σ)) Error Event Client}
    (run : connect (B.overStreams W) options p = r) :
    p.opened ≤ r.state.opened ∧ BeginsFresh r.events := by
  have hc := connected (H := B.overStreams W) setUpPath_aligning options p
  rw [run] at hc
  have opens {p₁ : Process (World σ)} {es : List Event}
      (path : (opening (B.overStreams W) (p.opened ≤ ·)).rel p es p₁) : BeginsFresh es :=
    beginsFresh_of_quiet fun e he => (path.2.2 e he).wire?
  cases hc with
  | gaveUp e p' es path => exact ⟨path.1, opens path⟩
  | refused e t pre p₁ p' es es' c path low high rel
  | shookHands t pre p₁ p' es es' fresh path low high rel shaken =>
    exact ⟨Nat.le_trans path.1 rel.1, beginsFresh_append (opens path) rel.2.1⟩

theorem aligned_new {log es : List Event} {p p₁ : Process (World σ)} (h : Carried B log p)
    {t : Transport} (pre : String) (options : Options)
    (path : (opening (B.overStreams W) (p.opened ≤ ·)).rel p es p₁) (low : p.opened ≤ t.socket)
    (high : t.socket < p₁.opened) : Aligned B (log ++ es) (newClient t pre options, p₁) := by
  have untouched : ∀ e ∈ log ++ es, e.wire? ≠ some t.socket := by
    intro e he hw
    rcases List.mem_append.mp he with he | he
    · exact Nat.not_lt.mpr low (h.known e he _ hw)
    · simp [(path.2.2 e he).wire?] at hw
  refine ⟨h.opening path, high, fun _ e he hs => untouched e he (by rw [hs]; rfl), fun _ => ?_⟩
  have new : p₁.world.links t.socket = Link.new := by
    rw [path.2.1.links]
    exact h.unused _ low
  have none_yet : writes t.socket (log ++ es) = 0 := writes_of_elsewhere untouched
  change (p₁.world.links t.socket).AtRest ∧ (p₁.world.links t.socket).ledger.length =
    writes t.socket (log ++ es)
  rw [new, none_yet]
  exact ⟨⟨rfl, rfl⟩, rfl⟩

theorem connect_aligned {log : List Event} {p : Process (World σ)} (h : Carried B log p)
    (options : Options) {r : Execution (Process (World σ)) Error Event Client}
    (run : connect (B.overStreams W) options p = r) :
    Carried B (log ++ r.events) r.state ∧
      ∀ fresh, r.outcome = .returned fresh → Aligned B (log ++ r.events) (fresh, r.state) := by
  have hc := connected (H := B.overStreams W) setUpPath_aligning options p
  rw [run] at hc
  cases hc with
  | gaveUp e p' es path => exact ⟨h.opening path, fun f hf => by cases hf⟩
  | refused e t pre p₁ p' es es' c path low high rel =>
    have aligned := rel.2.2 _ (aligned_new h pre options path low high)
    rw [List.append_assoc] at aligned
    exact ⟨aligned.carried, fun f hf => by cases hf⟩
  | shookHands t pre p₁ p' es es' fresh path low high rel shaken =>
    have aligned := rel.2.2 _ (aligned_new h pre options path low high)
    rw [List.append_assoc] at aligned
    refine ⟨aligned.carried, ?_⟩
    rintro f ⟨⟩
    exact aligned

theorem aligning_moveTo (address : String) :
    (aligning B).Respects (moveTo (B.overStreams W) address) := by
  rintro ⟨c, p⟩
  have hm := moving (H := B.overStreams W) address c p
  generalize moveTo (B.overStreams W) address (c, p) = r at hm
  cases hm with
  | unreadable _ => exact (aligning B).refl _
  | stayed host port _ e p' es run =>
    obtain ⟨ho, fresh⟩ := connect_fresh run
    refine ⟨ho, fresh, fun log h => ?_⟩
    have carried := (connect_aligned h.carried _ run).1
    -- The failed attempt did nothing on the old connection.
    obtain ⟨elsewhere, same⟩ := (connect_sparing perSocket_links c.transport.socket _ p run).2 h.opened
    have untouched : ∀ e ∈ es, e.wire? ≠ some c.transport.socket := fun e he hw =>
      elsewhere e he (Event.socket?_of_wire? hw)
    refine ⟨carried, Nat.lt_of_lt_of_le h.opened ho, fun live e he => ?_, fun up => ?_⟩
    · rcases List.mem_append.mp he with he | he
      · exact h.live live e he
      · rintro rfl
        exact untouched _ he rfl
    · change (p'.world.links c.transport.socket).AtRest ∧
        (p'.world.links c.transport.socket).ledger.length = writes c.transport.socket (log ++ es)
      rw [same, writes_append, writes_of_elsewhere untouched]
      exact h.rest fun e he => up e (List.mem_append_left _ he)
  | moved host port _ fresh p' es run =>
    obtain ⟨ho, begins⟩ := connect_fresh run
    refine ⟨ho, beginsFresh_append begins (fun _ _ => by simp), fun log h => ?_⟩
    obtain ⟨carried, aligned⟩ := connect_aligned h.carried _ run
    have aligned := aligned fresh rfl
    have up := aligned.live (connect_live run)
    have other : c.transport.socket ≠ fresh.transport.socket :=
      Nat.ne_of_lt (Nat.lt_of_lt_of_le h.opened (connect_socket run).1)
    have quiet : ∀ e ∈ [Event.moved fresh.transport, .shutdown c.transport.socket],
        e.wire? ≠ some fresh.transport.socket := by simp [Event.wire?, other]
    rw [← List.append_assoc]
    refine ⟨?_, aligned.opened, fun _ e he => ?_, fun _ => ?_⟩
    · refine carried.append (Nat.le_refl _) (fun _ => List.prefix_refl _) ?_ carried.unused
        ⟨trivial, trivial, trivial⟩
      simpa [Event.wire?, Host.dropped] using Nat.lt_of_lt_of_le h.opened ho
    · rcases List.mem_append.mp he with he | he
      · exact up e he
      · rintro rfl
        exact quiet _ he rfl
    · change (p'.world.links fresh.transport.socket).AtRest ∧
        (p'.world.links fresh.transport.socket).ledger.length =
          writes fresh.transport.socket (log ++ es ++ _)
      rw [writes_append, writes_of_elsewhere quiet]
      exact aligned.rest up

theorem callPath_aligning : CallPath (B.overStreams W) (aligning B) where
  exchange := aligning_exchange
  poison := aligning_poison
  moveTo := aligning_moveTo
  setReadTimeout t := (aligning_update (f := Client.withReadTimeout t) (fun _ => rfl) fun _ live =>
    ⟨live.fault, live.open_⟩).bind fun _ => aligning_readTimeout _
  paused _ := fun _ => aligning_of_quiet rfl id (Nat.le_refl _) rfl (by simp [Event.wire?])
  update hf := aligning_update (fun c => (hf.kept c).transport) fun c live =>
    ⟨(hf.kept c).fault.symm.trans live.fault, (hf.kept c).closed.symm.trans live.open_⟩
  withTxnOpen isOpen := aligning_update (f := Client.withTxnOpen isOpen) (fun _ => rfl) fun _ live =>
    ⟨live.fault, live.open_⟩

/-! ## Calls on an aligned client -/

theorem inTransaction_faulted {c : Client} {fault : Error} (h : c.fault = some fault) :
    c.inTransaction = false := by
  simp [Client.inTransaction, h]

/-- A call on a client that was dropped moves no bytes. -/
structure Untouched (c : Client) (p : Process (World σ))
    (r : Execution (Client × Process (World σ)) Error Event Reply) : Prop where
  same : SameConnection c r.state.1
  links : r.state.2.world.links = p.world.links
  silent : ∀ e ∈ r.events, e.wire? = none

theorem run_faulted {call : Call} {c : Client} {fault : Error} (h : c.fault = some fault)
    (p : Process (World σ)) : Untouched c p (call.run (B.overStreams W) (c, p)) := by
  cases hf : call.frame? c with
  | none =>
    have idle := run_idles (H := B.overStreams W) hf p
    exact ⟨idle.same, idle.path.2.1.links, fun e he => (idle.path.2.2 e he).wire?⟩
  | some frame =>
    obtain ⟨tag, payload⟩ := frame
    obtain ⟨c', run, same⟩ := run_stops (H := B.overStreams W) hf (.fault fault h) p
    rw [run]
    exact ⟨same, rfl, by simp⟩

variable (B W) in
/-- What a call reads, and how it ends, when nothing stale is on the connection. -/
structure NoStaleReply (log : List Event) (s : Client × Process (World σ)) (call : Call) : Prop where
  own : AnswersOwn B (call.run (B.overStreams W) s).state.2.world.links log
    (call.run (B.overStreams W) s).events
  concluded : (call.frame? s.1).isSome →
    Concludes (B.overStreams W) (call.Reads (B.overStreams W)) (call.run (B.overStreams W) s)
  idle : call.frame? s.1 = none → ∀ e ∈ (call.run (B.overStreams W) s).events, e.wire? = none
  dropped : ∀ fault, s.1.fault = some fault →
    s.1.inTransaction = false ∧ (call.run (B.overStreams W) s).state.1.inTransaction = false ∧
      Untouched s.1 s.2 (call.run (B.overStreams W) s) ∧
      ((call.frame? s.1).isSome → ∃ e quoting, (call.run (B.overStreams W) s).outcome = .failed e ∧
        e.kind = .closed ∧ e.message = quoting ++ fault.message)
  large : s.1.Live → ∀ tag payload e, call.frame? s.1 = some (tag, payload) →
    encode tag (B.body payload) = .error e → ∃ c, c.Live ∧ SameConnection s.1 c ∧
      call.run (B.overStreams W) s = ⟨.failed e, (c, s.2), []⟩

theorem call_noStaleReply {log : List Event} {s : Client × Process (World σ)} (call : Call)
    (h : Aligned B log s) : NoStaleReply B W log s call := by
  rcases s with ⟨c, p⟩
  obtain ⟨-, fresh, aligned⟩ := callPath_aligning (B := B) (W := W) |>.run call (c, p)
  refine ⟨?_, ?_, ?_, ?_, ?_⟩
  · exact answersOwn_of_inOrder ((throughout_append ..).mp (aligned log h).carried.inOrder).2 fresh
  · intro some
    obtain ⟨frame, hf⟩ := Option.isSome_iff_exists.mp some
    exact run_concludes hf p
  · intro hf e he
    exact ((run_idles (H := B.overStreams W) hf p).path.2.2 e he).wire?
  · intro fault h
    have still : Untouched c p (call.run (B.overStreams W) (c, p)) := run_faulted h p
    refine ⟨inTransaction_faulted h, inTransaction_faulted (still.same.fault.trans h), still, ?_⟩
    intro some
    obtain ⟨⟨tag, payload⟩, hf⟩ := Option.isSome_iff_exists.mp some
    obtain ⟨c', run, -⟩ := run_stops (H := B.overStreams W) hf (.fault fault h) p
    exact ⟨_, _, by rw [run], rfl, rfl⟩
  · intro live tag payload e hf he
    obtain ⟨c', run, same⟩ := run_stops (H := B.overStreams W) hf (.large live e he) p
    exact ⟨c', same.live live, same, run⟩

/-- No stale reply, from connecting through any calls to the goodbye. -/
theorem noStaleReply {α : Type} {p : Process (World σ)}
    (unused : ∀ socket, p.opened ≤ socket → p.world.links socket = Link.new) (options : Options)
    (work : Proc α) :
    let r := connect (B.overStreams W) options p
    AnswersOwn B r.state.world.links [] r.events ∧
      Throughout (InOrder B r.state.world.links) [] r.events ∧
      ∀ c, r.outcome = .returned c →
        AlongRun (B.overStreams W) (NoStaleReply B W) r.events (c, r.state) work ∧
          let w := work.run (B.overStreams W) (c, r.state)
          let d := closeInner (B.overStreams W) w.state
          AnswersOwn B d.state.2.world.links (r.events ++ w.events) d.events ∧
            Throughout (InOrder B d.state.2.world.links) [] (r.events ++ w.events ++ d.events) := by
  intro r
  have new : Carried B [] p := ⟨by simp, unused, trivial⟩
  obtain ⟨carried, aligned⟩ := connect_aligned (B := B) (W := W) new options rfl
  refine ⟨answersOwn_of_inOrder carried.inOrder (connect_fresh rfl).2, carried.inOrder, ?_⟩
  intro c returned
  have start := aligned c returned
  have path := callPath_aligning (B := B) (W := W)
  refine ⟨alongRun_of_invariant (I := Aligned B) (fun log s call h =>
    ⟨call_noStaleReply call h, (path.run call s).2.2 log h⟩) start work, ?_⟩
  have worked := (path.proc work (c, r.state)).2.2 _ start
  obtain ⟨-, fresh, closed⟩ := aligning_closeInner (B := B) (W := W)
    (work.run (B.overStreams W) (c, r.state)).state
  have ended := (closed _ worked).carried.inOrder
  exact ⟨answersOwn_of_inOrder ((throughout_append ..).mp ended).2 fresh, ended⟩

end

/-- Streams that never stall, to a server that shakes hands and answers pings. -/
def attentive : Wire (List (Except WireError Frame)) where
  write _ _ net := (none, net)
  flush _ net := (none, net)
  read _ _ net := ((none, ⟨.timedOut, "timed out"⟩), net)
  answer _ frame net :=
    (if frame[1]? = some Tag.hello.asU8 then
      ⟨frameVersion, Tag.helloOk.asU8, helloAll, by decide⟩
    else ⟨frameVersion, Tag.pong.asU8, [], by decide⟩, net)

def untouched : Process (World (List (Except WireError Frame))) := ⟨0, 0, [], fun _ => Link.new⟩

theorem noStaleReply_ping :
    ∃ p, connect (scripted.overStreams attentive) Options.default untouched =
        ⟨.returned session, p, sessionLog⟩ ∧
      AlongRun (scripted.overStreams attentive) (NoStaleReply scripted attentive) sessionLog
        (session, p) (Proc.ofCalls [.ping]) := by
  have run : ∃ p, connect (scripted.overStreams attentive) Options.default untouched =
      ⟨.returned session, p, sessionLog⟩ := ⟨_, by with_unfolding_all rfl⟩
  obtain ⟨p, run⟩ := run
  have none_stale := noStaleReply (B := scripted) (W := attentive) (p := untouched)
    (fun _ _ => rfl) Options.default (Proc.ofCalls [.ping])
  simp only [run] at none_stale
  exact ⟨p, run, (none_stale.2.2 session rfl).1⟩

end TricoreSdk
