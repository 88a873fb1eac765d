import Mathlib.Data.List.Induction
import Mathlib.Data.List.Nodup
import TricoreSdk.AtMostOnce
import TricoreSdk.Footprint
import TricoreSdk.Lib.Numerals
import TricoreSdk.PublicCall
import TricoreSdk.Scripted

/-! The ids of the requests a process sends: a prefix for each connection, which is its
process id, a reading of the clock and a sequence number in hexadecimal, one after the
other, and the number of the request on it. -/

namespace TricoreSdk
open Effects Path Numerals

/-! ## The readings of the clock -/

section

variable {ω α : Type}

def Host.recorded (H : Host ω) : Host (ω × List UInt64) where
  serde := H.serde
  processId := H.processId
  clock w := ((H.clock w.1).1, (H.clock w.1).2, w.2 ++ [(H.clock w.1).1])
  resolve host port w := ((H.resolve host port w.1).1, (H.resolve host port w.1).2, w.2)
  connect socket address bound w :=
    ((H.connect socket address bound w.1).1, (H.connect socket address bound w.1).2, w.2)
  setReadTimeout socket bound w :=
    ((H.setReadTimeout socket bound w.1).1, (H.setReadTimeout socket bound w.1).2, w.2)
  setWriteTimeout socket bound w :=
    ((H.setWriteTimeout socket bound w.1).1, (H.setWriteTimeout socket bound w.1).2, w.2)
  loadRoots path w := ((H.loadRoots path w.1).1, (H.loadRoots path w.1).2, w.2)
  loadIdentity cert key w := ((H.loadIdentity cert key w.1).1, (H.loadIdentity cert key w.1).2, w.2)
  tlsHandshake socket opts name w :=
    ((H.tlsHandshake socket opts name w.1).1, (H.tlsHandshake socket opts name w.1).2, w.2)
  send transport tag payload w :=
    ((H.send transport tag payload w.1).1, (H.send transport tag payload w.1).2, w.2)
  recv transport w := ((H.recv transport w.1).1, (H.recv transport w.1).2, w.2)
  shutdown socket w := (H.shutdown socket w.1, w.2)

def Process.readings (p : Process (ω × List UInt64)) : List UInt64 := p.world.2

/-- The path along which the clock is not read, and no sequence number taken. -/
def unread : Path (Process (ω × List UInt64)) Event where
  rel p _ p' := p'.sequence = p.sequence ∧ p'.readings = p.readings
  refl _ := ⟨rfl, rfl⟩
  trans h h' := ⟨h'.1.trans h.1, h'.2.trans h.2⟩

variable {H : Host ω}

/-- The sequence number that comes next, and what the clock has read. -/
def Process.numbers (p : Process (ω × List UInt64)) : UInt64 × List UInt64 := (p.sequence, p.readings)

theorem unseen_numbers : Unseen H.recorded (Process.numbers (ω := ω)) := by
  constructor <;> intros <;> rfl

theorem unread_of_still {job : Job (ω × List UInt64) α}
    (h : (still Process.numbers).Respects job) : unread.Respects job :=
  h.mono fun _ _ _ same => Prod.mk.inj same

theorem dial_unread (host : String) (port : UInt16) (timeout : Option Duration) :
    unread.Respects (H.recorded.dial host port timeout) :=
  unread_of_still (respects_dial (onWorld_still fun _ => rfl) (fun _ => still_emit _)
    (fun _ _ => onWorld_still fun _ => rfl) fun _ => rfl)

theorem secure_unread (options : Options) (socket : Socket) :
    unread.Respects (secure H.recorded options socket) :=
  unread_of_still (unseen_numbers.secure options socket)

/-! ## What a client is named by -/

/-- What the ids of a client's requests are made of, and the last of them. -/
def Client.naming (c : Client) : String × UInt64 × Option String :=
  (c.requestIdPrefix, c.requestCounter, c.lastRequestId)

/-- The path along which besides the client keeps what it is named by. -/
def unnamed : Path (Client × Process (ω × List UInt64)) Event where
  rel s es s' := s'.1.naming = s.1.naming ∧ unread.rel s.2 es s'.2
  refl s := ⟨rfl, unread.refl s.2⟩
  trans h h' := ⟨h'.1.trans h.1, unread.trans h.2 h'.2⟩

theorem forgetTxn_naming (txn : String) (c : Client) : (c.forgetTxn txn).naming = c.naming := by
  unfold Client.forgetTxn
  split <;> rfl

theorem fixed_naming : Fixed Client.naming := by
  constructor
  case forgetTxn => exact forgetTxn_naming
  all_goals intros; rfl

theorem unnamed_of_unmoved {s s' : Client × Process (ω × List UInt64)} {es : List Event}
    (h : (unmoved Client.naming Process.numbers).rel s es s') : unnamed.rel s es s' :=
  ⟨h.1, Prod.mk.inj h.2⟩

theorem exchange_unnamed (tag : Tag) (payload : Option Value) :
    unnamed.Respects (exchange H.recorded tag payload) :=
  (unseen_numbers.exchange fixed_naming tag payload).mono fun _ _ _ => unnamed_of_unmoved

theorem poison_unnamed (error : Error) : unnamed.Respects (poison H.recorded error) :=
  (unseen_numbers.poison fixed_naming error).mono fun _ _ _ => unnamed_of_unmoved

/-! ## A connection's prefix -/

def prefixText (processId : UInt32) (stamp sequence : UInt64) : String :=
  String.ofList (Nat.toDigits 16 processId.toNat ++ Nat.toDigits 16 stamp.toNat ++
    Nat.toDigits 16 sequence.toNat)

/-- How opening a connection goes by the clock: it ends before a prefix is taken, or the
clock is read for it. -/
inductive ConnectedAt (H : Host ω) (p : Process (ω × List UInt64)) :
    Execution (Process (ω × List UInt64)) Error Event Client → Prop
  | early (o : Outcome Error Client) (p' : Process (ω × List UInt64)) (es : List Event)
    (path : unread.rel p es p') (failed : ∀ c, o ≠ .returned c) : ConnectedAt H p ⟨o, p', es⟩
  | named (o : Outcome Error Client) (p' : Process (ω × List UInt64)) (es : List Event)
    (stamp : UInt64) (sequence : p'.sequence = p.sequence + 1)
    (readings : p'.readings = p.readings ++ [stamp])
    (naming : ∀ c, o = .returned c →
      c.naming = (prefixText H.processId stamp p.sequence, 0, none)) : ConnectedAt H p ⟨o, p', es⟩

theorem connectedAt (options : Options) (p : Process (ω × List UInt64)) :
    ConnectedAt H p (connect H.recorded options p) := by
  have dialled := dial_unread (H := H) options.host options.port options.connectTimeout p
  have steps := connectSteps (H := H.recorded) options p
  generalize connect H.recorded options p = r at steps ⊢
  cases steps with
  | undialled e p₁ es₁ dial =>
    rw [dial] at dialled
    exact .early (.failed e) p₁ es₁ dialled fun c h => by cases h
  | unsecured tcp p₁ es₁ dial e p₂ es₂ secured =>
    have secure := secure_unread (H := H) options tcp p₁
    rw [dial] at dialled
    rw [secured] at secure
    exact .early (.failed e) p₂ _ (unread.trans dialled secure) fun c h => by cases h
  | handedOver transport p₁ es₁ dial p₂ es₂ secured =>
    have secure := secure_unread (H := H) options transport.socket p₁
    rw [dial] at dialled
    rw [secured] at secure
    have path : unread.rel p (es₁ ++ es₂) p₂ := unread.trans dialled secure
    have setUp := (unseen_numbers (H := H)).setUpPath fixed_naming
    obtain ⟨c, rel, made⟩ := setUp.owning (newClient transport (nextPrefix H.recorded p₂) options)
      (handshake H.recorded options) (setUp.handshake options) (stamped H.recorded p₂)
    generalize owning H.recorded (newClient transport (nextPrefix H.recorded p₂) options)
      (handshake H.recorded options) (stamped H.recorded p₂) = r at rel made ⊢
    rcases r with ⟨o, p₄, es₄⟩
    obtain ⟨sequence, readings⟩ := Prod.mk.inj rel.2
    refine .named o p₄ _ (H.clock p₂.world.1).1 ?_ ?_ fun f hf => ?_
    · rw [sequence, ← path.1]
      rfl
    · rw [readings, ← path.2]
      rfl
    · rw [made f hf, rel.1, ← path.1]
      rfl

/-! ## Sequence numbers -/

/-- As many sequence numbers were taken as the clock was read. -/
def Process.InStep (p : Process (ω × List UInt64)) : Prop :=
  p.sequence = UInt64.ofNat p.readings.length

def advancing : Path (Process (ω × List UInt64)) Event where
  rel p _ p' := (p.InStep → p'.InStep) ∧ p.readings <+: p'.readings
  refl _ := ⟨id, List.prefix_rfl⟩
  trans h h' := ⟨h'.1 ∘ h.1, h.2.trans h'.2⟩

theorem advancing_of_unread {p p' : Process (ω × List UInt64)} {es : List Event}
    (h : unread.rel p es p') : advancing.rel p es p' := by
  obtain ⟨sequence, readings⟩ := h
  refine ⟨fun inStep => ?_, readings ▸ List.prefix_rfl⟩
  rw [Process.InStep, sequence, readings]
  exact inStep

theorem ConnectedAt.advancing {p : Process (ω × List UInt64)}
    {r : Execution (Process (ω × List UInt64)) Error Event Client} (h : ConnectedAt H p r) :
    TricoreSdk.advancing.rel p r.events r.state := by
  cases h with
  | early o p' es path failed => exact advancing_of_unread path
  | named o p' es stamp sequence readings naming =>
    refine ⟨fun inStep => ?_, by simp [readings]⟩
    rw [Process.InStep, sequence, readings, inStep, List.length_append, List.length_singleton,
      UInt64.ofNat_add]
    rfl

/-- The path along which the client keeps its naming while its process goes on. -/
def numbering : Path (Client × Process (ω × List UInt64)) Event where
  rel s es s' := s'.1.naming = s.1.naming ∧ advancing.rel s.2 es s'.2
  refl s := ⟨rfl, advancing.refl s.2⟩
  trans h h' := ⟨h'.1.trans h.1, advancing.trans h.2 h'.2⟩

theorem numbering_of_unnamed {s s' : Client × Process (ω × List UInt64)} {es : List Event}
    (h : unnamed.rel s es s') : numbering.rel s es s' := ⟨h.1, advancing_of_unread h.2⟩

theorem moveTo_numbering (address : String) : numbering.Respects (moveTo H.recorded address) := by
  rintro ⟨c, p⟩
  have hm := moving (H := H.recorded) address c p
  generalize moveTo H.recorded address (c, p) = r at hm ⊢
  cases hm with
  | unreadable _ => exact numbering.refl _
  | stayed host port _ e p' es run =>
    have advanced := (connectedAt (H := H) (followOptions c.options host port) p).advancing
    rw [run] at advanced
    exact ⟨rfl, advanced⟩
  | moved host port _ fresh p' es run =>
    have advanced := (connectedAt (H := H) (followOptions c.options host port) p).advancing
    rw [run] at advanced
    exact ⟨rfl, advanced⟩

/-! ## Calls -/

def PublicCall.takesId (c : Client) : PublicCall α → Bool
  | call k => (k.request? c).isSome
  | typed m => m.op.isOk

theorem sendIn_numbering (op : Value) (txn : Option String) (c : Client)
    (p : Process (ω × List UInt64)) :
    numbering.rel (c.numbered, p) (sendIn H.recorded op txn (c, p)).events
      (sendIn H.recorded op txn (c, p)).state := by
  rw [sendIn_apply]
  have once : unnamed.Respects (sendOnce H.recorded (c.envelope op txn)) :=
    respects_sendOnce (exchange_unnamed _ _) poison_unnamed
  exact respects_sendLoop (once.mono fun _ _ _ => numbering_of_unnamed) moveTo_numbering
    (fun _ _ => numbering.refl _) _ _ _ (c.numbered, p)

theorem sendIn_requestId (H : Host ω) (op : Value) (txn : Option String) (c : Client) (p : Process ω) :
    ∀ x ∈ copies (sendIn H op txn (c, p)).events,
      x.payload.bind (Value.get "request_id") = c.numbered.lastRequestId.map .string := by
  intro x hx
  rw [sendIn_apply] at hx
  have same : x.payload = some (c.envelope op txn) := (sendLoop_sends _ _ 0 _ c.numbered p).same x hx
  rw [same, Option.bind_some, Client.envelope, envelopeOf_requestId]
  rfl

/-- What a call leaves: the client's naming, or its next one if the call took an id. -/
structure Numbered (c : Client) (p : Process (ω × List UInt64)) (took : Bool)
    (s : Client × Process (ω × List UInt64)) : Prop where
  naming : s.1.naming = if took then c.numbered.naming else c.naming
  inStep : p.InStep → s.2.InStep
  readings : p.readings <+: s.2.readings

variable {c : Client} {p : Process (ω × List UInt64)}

theorem Numbered.kept {es : List Event} {s : Client × Process (ω × List UInt64)}
    (h : numbering.rel (c, p) es s) : Numbered c p false s := ⟨h.1, h.2.1, h.2.2⟩

theorem Numbered.refused {r : Execution (Client × Process (ω × List UInt64)) Error Event α}
    (h : RefusedAtOnce (c, p) r) : Numbered c p false r.state := by
  cases h <;> exact ⟨rfl, id, List.prefix_rfl⟩

theorem Numbered.sent (op : Value) (txn : Option String) :
    Numbered c p true (sendIn H.recorded op txn (c, p)).state :=
  have h := sendIn_numbering (H := H) op txn c p
  ⟨h.1, h.2.1, h.2.2⟩

theorem call_numbered (call : Call) : Numbered c p (call.request? c).isSome
    (call.run H.recorded (c, p)).state := by
  cases hr : call.request? c with
  | none =>
    have kept := (unseen_numbers (H := H)).unrequested fixed_naming hr p
    exact .kept (numbering_of_unnamed (unnamed_of_unmoved kept))
  | some request =>
    obtain ⟨op, txn⟩ := request
    have sent : Numbered c p true (sendIn H.recorded op txn (c, p)).state := .sent op txn
    rw [run_request hr]
    exact ⟨(fixed_naming.settle ..).trans sent.naming, sent.inStep, sent.readings⟩

theorem publicCall_numbered (call : PublicCall α) : Numbered c p (call.takesId c)
    (call.run H.recorded (c, p)).state := by
  have same {β γ : Type} (m : Method (ω × List UInt64) β) (f : β → Except Error γ) :
      ((m >>= fun b => Action.ofExcept (f b) : Method (ω × List UInt64) γ) (c, p)).state =
        (m (c, p)).state := by
    rw [bind_concluded]
    rfl
  cases call with
  | call k =>
    change Numbered c p (k.request? c).isSome
      ((k.run H.recorded >>= fun r => Action.ofExcept (.ok (Sum.inl r)) :
        Method (ω × List UInt64) (Reply ⊕ α)) (c, p)).state
    rw [same]
    exact call_numbered k
  | typed m =>
    change Numbered c p m.op.isOk
      ((m.run H.recorded >>= fun a => Action.ofExcept (.ok (Sum.inr a)) :
        Method (ω × List UInt64) (Reply ⊕ α)) (c, p)).state
    rw [same]
    cases hop : m.op with
    | error e => exact .refused (typed_refused (by simp [PublicCall.frame?, hop]) p)
    | ok op =>
      have run : (m.run H.recorded (c, p)).state = (sendIn H.recorded op c.requestTxn (c, p)).state := by
        unfold TypedMethod.run
        rw [hop]
        exact same (send H.recorded op) m.decode
      rw [run]
      exact .sent op c.requestTxn

/-! ## The connections of a process -/

/-- A client of a process. For statements only: which of the readings of the clock went
into its prefix, and how many request ids it has taken. -/
structure Member where
  client : Client
  reading : Nat
  taken : Nat

def Member.after (m : Member) (took : Bool) (c : Client) : Member := ⟨c, m.reading, m.taken + took.toNat⟩

/-- A process with its clients, and the ids its requests took, first to last. -/
structure Fleet (ω : Type) where
  members : List Member
  process : Process (ω × List UInt64)
  ids : List String

def idTaken (took : Bool) (c : Client) : List String := if took then c.lastRequestId.toList else []

variable (H) in
/-- One step of a process: it opens a connection or fails to, makes a call on one of its
clients or closes it, or the world around it changes. -/
inductive FleetStep : Fleet ω → Fleet ω → Prop
  | connected (f : Fleet ω) (options : Options) (c : Client)
    (run : (connect H.recorded options f.process).outcome = .returned c) :
    FleetStep f ⟨f.members ++ [⟨c, f.process.readings.length, 0⟩],
      (connect H.recorded options f.process).state, f.ids⟩
  | refused (f : Fleet ω) (options : Options)
    (failed : ∀ c, (connect H.recorded options f.process).outcome ≠ .returned c) :
    FleetStep f { f with process := (connect H.recorded options f.process).state }
  | called (before after : List Member) (m : Member) (p : Process (ω × List UInt64))
    (ids : List String) {α : Type} (call : PublicCall α) :
    FleetStep ⟨before ++ m :: after, p, ids⟩
      ⟨before ++ m.after (call.takesId m.client) (call.run H.recorded (m.client, p)).state.1 :: after,
        (call.run H.recorded (m.client, p)).state.2,
        ids ++ idTaken (call.takesId m.client) (call.run H.recorded (m.client, p)).state.1⟩
  | closed (before after : List Member) (m : Member) (p : Process (ω × List UInt64))
    (ids : List String) :
    FleetStep ⟨before ++ m :: after, p, ids⟩
      ⟨before ++ m.after false (closeInner H.recorded (m.client, p)).state.1 :: after,
        (closeInner H.recorded (m.client, p)).state.2, ids⟩
  | outside (f : Fleet ω) (w : ω) :
    FleetStep f { f with process := { f.process with world := (w, f.process.readings) } }

def Fleet.initial (opened : Nat) (w : ω) : Fleet ω := ⟨[], ⟨0, opened, (w, [])⟩, []⟩

variable (H) in
def FleetReachable (f : Fleet ω) : Prop :=
  ∃ opened w, Relation.ReflTransGen (FleetStep H) (.initial opened w) f

/-- The id of the request with this number on the connection with this prefix. -/
def idText (requestIdPrefix : String) (counter : UInt64) : String :=
  "rs-" ++ requestIdPrefix ++ "-" ++ toString counter

def Member.ids (m : Member) : List String :=
  (List.range m.taken).map fun k => idText m.client.requestIdPrefix (UInt64.ofNat (k + 1))

variable (H) in
structure Member.Sound (readings : List UInt64) (m : Member) : Prop where
  named : ∃ stamp, readings[m.reading]? = some stamp ∧
    m.client.requestIdPrefix = prefixText H.processId stamp (UInt64.ofNat m.reading)
  counted : m.client.requestCounter = UInt64.ofNat m.taken

variable (H) in
structure Fleet.Sound (f : Fleet ω) : Prop where
  inStep : f.process.InStep
  members : ∀ m ∈ f.members, m.Sound H f.process.readings
  inOrder : (f.members.map Member.reading).Pairwise (· < ·)
  ids : f.ids.Perm (f.members.flatMap Member.ids)

variable {readings readings' : List UInt64} {m : Member} {f g : Fleet ω}

theorem Member.Sound.early (h : m.Sound H readings) : m.reading < readings.length := by
  obtain ⟨stamp, read, -⟩ := h.named
  exact (List.getElem?_eq_some_iff.mp read).1

theorem Member.Sound.grow (h : m.Sound H readings) (more : readings <+: readings') :
    m.Sound H readings' := by
  have early := h.early
  obtain ⟨⟨stamp, read, named⟩, counted⟩ := h
  obtain ⟨later, rfl⟩ := more
  exact ⟨⟨stamp, (List.getElem?_append_left early).trans read, named⟩, counted⟩

theorem Member.Sound.after {took : Bool} {s : Client × Process (ω × List UInt64)}
    (h : m.Sound H p.readings) (hn : Numbered m.client p took s) :
    (m.after took s.1).Sound H s.2.readings := by
  obtain ⟨named, counted⟩ := h.grow hn.readings
  have same := hn.naming
  cases took with
  | false =>
    rw [if_neg Bool.false_ne_true] at same
    refine ⟨?_, (congrArg (·.2.1) same).trans counted⟩
    obtain ⟨stamp, read, named⟩ := named
    exact ⟨stamp, read, (congrArg (·.1) same).trans named⟩
  | true =>
    rw [if_pos rfl] at same
    constructor
    · obtain ⟨stamp, read, named⟩ := named
      exact ⟨stamp, read, (congrArg (·.1) same).trans named⟩
    · calc s.1.requestCounter = m.client.requestCounter + 1 := congrArg (·.2.1) same
        _ = UInt64.ofNat (m.taken + 1) := by rw [counted, UInt64.ofNat_add]; rfl

theorem Member.after_ids {took : Bool} {s : Client × Process (ω × List UInt64)}
    (h : m.client.requestCounter = UInt64.ofNat m.taken) (hn : Numbered m.client p took s) :
    (m.after took s.1).ids = m.ids ++ idTaken took s.1 := by
  have same := hn.naming
  cases took with
  | false =>
    rw [if_neg Bool.false_ne_true] at same
    have named : s.1.requestIdPrefix = m.client.requestIdPrefix := congrArg (·.1) same
    simp [Member.ids, Member.after, named, idTaken]
  | true =>
    rw [if_pos rfl] at same
    have named : s.1.requestIdPrefix = m.client.requestIdPrefix := congrArg (·.1) same
    have last : s.1.lastRequestId = some (idText m.client.requestIdPrefix (UInt64.ofNat (m.taken + 1))) :=
      (congrArg (·.2.2) same).trans (by rw [UInt64.ofNat_add, ← h]; rfl)
    simp [Member.ids, Member.after, named, last, idTaken, List.range_succ]

theorem Fleet.Sound.world (h : f.Sound H) (p : Process (ω × List UInt64)) (es : List Event)
    (path : advancing.rel f.process es p) : ({ f with process := p } : Fleet ω).Sound H where
  inStep := path.1 h.inStep
  members m hm := (h.members m hm).grow path.2
  inOrder := h.inOrder
  ids := h.ids

theorem Fleet.Sound.worked {before after : List Member} {ids : List String} {took : Bool}
    {s : Client × Process (ω × List UInt64)} (h : Fleet.Sound H ⟨before ++ m :: after, p, ids⟩)
    (hn : Numbered m.client p took s) :
    Fleet.Sound H ⟨before ++ m.after took s.1 :: after, s.2, ids ++ idTaken took s.1⟩ where
  inStep := hn.inStep h.inStep
  members m' hm' := by
    rcases List.mem_append.mp hm' with hm' | hm'
    · exact (h.members m' (List.mem_append_left _ hm')).grow hn.readings
    · rcases List.mem_cons.mp hm' with rfl | hm'
      · exact (h.members m (by simp)).after hn
      · exact (h.members m' (List.mem_append_right _ (List.mem_cons_of_mem _ hm'))).grow hn.readings
  inOrder := by
    have inOrder := h.inOrder
    simp only [List.map_append, List.map_cons] at inOrder ⊢
    exact inOrder
  ids := by
    have perm := h.ids
    have counted := (h.members m (by simp)).counted
    simp only [List.flatMap_append, List.flatMap_cons] at perm ⊢
    rw [Member.after_ids counted hn]
    refine (perm.append_right _).trans ?_
    rw [List.append_assoc, List.append_assoc m.ids, List.append_assoc m.ids]
    exact (List.perm_append_comm.append_left _).append_left _

theorem Fleet.Sound.step (h : f.Sound H) (hs : FleetStep H f g) : g.Sound H := by
  cases hs with
  | connected _ options c run =>
    have opened := connectedAt (H := H) options f.process
    generalize connect H.recorded options f.process = r at run opened ⊢
    have path := opened.advancing
    cases opened with
    | early o p' es _ failed => exact absurd run (failed c)
    | named o p' es stamp sequence readings naming =>
      obtain ⟨inStep, members, inOrder, ids⟩ := h.world p' es path
      refine ⟨inStep, fun m hm => ?_, ?_, by simpa [Member.ids] using ids⟩
      · rcases List.mem_append.mp hm with hm | hm
        · exact members m hm
        · rw [List.mem_singleton.mp hm]
          have named := naming c run
          refine ⟨⟨stamp, by simp [readings], ?_⟩, congrArg (·.2.1) named⟩
          rw [← h.inStep]
          exact congrArg (·.1) named
      · rw [List.map_append]
        refine List.pairwise_append.mpr ⟨inOrder, List.pairwise_singleton .., fun k hk n hn => ?_⟩
        obtain ⟨m, hm, rfl⟩ := List.mem_map.mp hk
        rw [List.mem_singleton.mp hn]
        exact (h.members m hm).early
  | refused _ options failed => exact h.world _ _ (connectedAt options f.process).advancing
  | called before after m p ids call => exact h.worked (publicCall_numbered call)
  | closed before after m p ids =>
    have kept := ((unseen_numbers (H := H)).setUpPath fixed_naming).closeInner (m.client, p)
    have shut := h.worked (.kept (numbering_of_unnamed (unnamed_of_unmoved kept)))
    rwa [idTaken, if_neg Bool.false_ne_true, List.append_nil] at shut
  | outside _ w => exact h.world _ [] ⟨id, List.prefix_rfl⟩

theorem FleetReachable.sound (h : FleetReachable H f) : f.Sound H := by
  obtain ⟨opened, w, run⟩ := h
  induction run with
  | refl => exact ⟨rfl, fun m hm => (List.not_mem_nil hm).elim, .nil, .nil⟩
  | tail _ hs ih => exact ih.step hs

/-! ## When ids repeat -/

/-- The clock readings and sequence numbers of two prefixes, one after the other in
hexadecimal, read the same. -/
def Clash (stamp sequence stamp' sequence' : UInt64) : Prop :=
  (stamp = stamp' ∧ sequence = sequence') ∨
    Overlaps 16 stamp.toNat sequence.toNat stamp'.toNat sequence'.toNat ∨
      Overlaps 16 stamp'.toNat sequence'.toNat stamp.toNat sequence.toNat

instance (stamp sequence stamp' sequence' : UInt64) : Decidable (Clash stamp sequence stamp' sequence') :=
  inferInstanceAs (Decidable (_ ∨ _ ∨ _))

theorem prefixText_eq_iff {processId : UInt32} {stamp sequence stamp' sequence' : UInt64} :
    prefixText processId stamp sequence = prefixText processId stamp' sequence' ↔
      Clash stamp sequence stamp' sequence' := by
  unfold prefixText Clash
  rw [String.ofList_inj, List.append_assoc, List.append_assoc, List.append_right_inj,
    append_eq_iff (by decide) (by decide), UInt64.toNat_inj, UInt64.toNat_inj]

theorem minus_not_mem_prefixText (processId : UInt32) (stamp sequence : UInt64) :
    '-' ∉ (prefixText processId stamp sequence).toList := by
  have hex (n : Nat) : '-' ∉ Nat.toDigits 16 n := minus_not_mem_toDigits (by decide) (by decide) n
  simp [prefixText, hex]

theorem idText_toList (requestIdPrefix : String) (counter : UInt64) :
    (idText requestIdPrefix counter).toList =
      "rs-".toList ++ (requestIdPrefix.toList ++ '-' :: Nat.toDigits 10 counter.toNat) := by
  have number : (toString counter).toList = Nat.toDigits 10 counter.toNat := Nat.toList_repr
  unfold idText
  rw [String.toList_append, String.toList_append, String.toList_append, number]
  simp

theorem idText_inj {a b : String} {i j : UInt64} (ha : '-' ∉ a.toList) :
    idText a i = idText b j ↔ a = b ∧ i = j := by
  have dec (n : Nat) : '-' ∉ Nat.toDigits 10 n := minus_not_mem_toDigits (by decide) (by decide) n
  rw [← String.toList_inj, idText_toList, idText_toList, List.append_right_inj,
    List.append_cons_inj_of_notMem ha (dec _), toDigits_inj (by decide) (by decide), String.toList_inj,
    UInt64.toNat_inj]
  simp

theorem Member.Sound.minus_not_mem (h : m.Sound H readings) : '-' ∉ m.client.requestIdPrefix.toList := by
  obtain ⟨stamp, -, named⟩ := h.named
  rw [named]
  exact minus_not_mem_prefixText _ _ _

theorem Member.Sound.ids_nodup (h : m.Sound H readings) : m.ids.Nodup ↔ m.taken ≤ 2 ^ 64 := by
  unfold Member.ids
  rw [List.nodup_map_iff_inj_on List.nodup_range]
  simp only [List.mem_range, idText_inj h.minus_not_mem, true_and, ← UInt64.toNat_inj, UInt64.toNat_ofNat']
  constructor
  · intro inj
    by_contra many
    have round := inj 0 (by omega) (2 ^ 64) (by omega) (by decide)
    cases round
  · intro few x hx y hy same
    omega

theorem Member.Sound.ids_disjoint {n : Member} (h : m.Sound H readings)
    (apart : m.client.requestIdPrefix ≠ n.client.requestIdPrefix) : m.ids.Disjoint n.ids := by
  intro id hm hn
  obtain ⟨x, -, rfl⟩ := List.mem_map.mp hm
  obtain ⟨y, -, same⟩ := List.mem_map.mp hn
  exact apart ((idText_inj h.minus_not_mem).mp same.symm).1

/-- No two connections share a prefix, and no two requests an id. -/
structure Fleet.Unique (f : Fleet ω) : Prop where
  prefixes : (f.members.map fun m => m.client.requestIdPrefix).Nodup
  ids : f.ids.Nodup

def Fleet.stamp (f : Fleet ω) (m : Member) : UInt64 := f.process.readings.getD m.reading 0

/-- A process whose numbers set its connections apart. -/
structure Fleet.Apart (f : Fleet ω) : Prop where
  prefixes : f.members.Pairwise fun m n =>
    ¬Clash (f.stamp m) (UInt64.ofNat m.reading) (f.stamp n) (UInt64.ofNat n.reading)
  taken : ∀ m ∈ f.members, m.taken ≤ 2 ^ 64

theorem Fleet.Sound.prefix_eq (h : f.Sound H) (hm : m ∈ f.members) :
    m.client.requestIdPrefix = prefixText H.processId (f.stamp m) (UInt64.ofNat m.reading) := by
  obtain ⟨stamp, read, named⟩ := (h.members m hm).named
  rw [named, Fleet.stamp, List.getD_eq_getElem?_getD, read, Option.getD_some]

theorem Fleet.Sound.prefixes_nodup (h : f.Sound H) :
    (f.members.map fun m => m.client.requestIdPrefix).Nodup ↔ f.members.Pairwise fun m n =>
      ¬Clash (f.stamp m) (UInt64.ofNat m.reading) (f.stamp n) (UInt64.ofNat n.reading) := by
  rw [List.Nodup, List.pairwise_map]
  refine List.Pairwise.iff_of_mem fun hm hn => ?_
  rw [h.prefix_eq hm, h.prefix_eq hn, Ne, prefixText_eq_iff]

theorem Fleet.Sound.ids_nodup (h : f.Sound H)
    (prefixes : (f.members.map fun m => m.client.requestIdPrefix).Nodup) :
    f.ids.Nodup ↔ ∀ m ∈ f.members, m.taken ≤ 2 ^ 64 := by
  have disjoint : f.members.Pairwise (Function.onFun List.Disjoint Member.ids) :=
    (List.pairwise_map.mp prefixes).imp_of_mem fun hm _ apart => (h.members _ hm).ids_disjoint apart
  rw [h.ids.nodup_iff, List.nodup_flatMap, and_iff_left disjoint]
  exact forall₂_congr fun m hm => (h.members m hm).ids_nodup

/-- Ids repeat in a process exactly when the numbers of two connections clash, or a
connection's counter has come round. -/
theorem ids_unique_iff (reached : FleetReachable H f) : f.Unique ↔ f.Apart := by
  have sound := reached.sound
  constructor
  · rintro ⟨prefixes, ids⟩
    exact ⟨sound.prefixes_nodup.mp prefixes, (sound.ids_nodup prefixes).mp ids⟩
  · rintro ⟨prefixes, taken⟩
    have prefixes := sound.prefixes_nodup.mpr prefixes
    exact ⟨prefixes, (sound.ids_nodup prefixes).mpr taken⟩

/-- The later of two connections never clashes with the earlier one while the clock goes forward. -/
theorem not_clash_of_le {stamp sequence stamp' sequence' : UInt64} (forward : stamp ≤ stamp')
    (later : sequence < sequence') : ¬Clash stamp sequence stamp' sequence' := by
  rintro (⟨-, same⟩ | overlaps | overlaps)
  · exact (UInt64.ne_of_lt later) same
  · have := overlaps.first_lt (by decide)
    have := UInt64.le_iff_toNat_le.mp forward
    omega
  · have := overlaps.second_lt
    have := UInt64.lt_iff_toNat_lt.mp later
    omega

theorem unique_of_forward (reached : FleetReachable H f) (forward : f.process.readings.Pairwise (· ≤ ·))
    (few : f.process.readings.length ≤ 2 ^ 64) (taken : ∀ m ∈ f.members, m.taken ≤ 2 ^ 64) : f.Unique := by
  have sound := reached.sound
  have prefixes := sound.prefixes_nodup.mpr
    ((List.pairwise_map.mp sound.inOrder).imp_of_mem fun {m n} hm hn later => ?_)
  · exact ⟨prefixes, (sound.ids_nodup prefixes).mpr taken⟩
  · have early := (sound.members n hn).early
    refine not_clash_of_le ?_ ?_
    · have stamps := List.pairwise_iff_getElem.mp forward m.reading n.reading (by omega) early later
      simpa [Fleet.stamp, List.getD_eq_getElem?_getD, early, Nat.lt_trans later early] using stamps
    · rw [UInt64.lt_iff_toNat_lt, UInt64.toNat_ofNat', UInt64.toNat_ofNat']
      omega

end

/-! ## A clock set back -/

/-- A server that shakes hands with every caller, and a clock that shows these readings. -/
def clocked : Host (List UInt64) where
  serde := scriptSerde
  processId := 1
  clock w := (w.headD 0, w.tail)
  resolve host port w := (.ok [joinAddress host port], w)
  connect _ _ _ w := (.ok (), w)
  setReadTimeout _ _ w := (none, w)
  setWriteTimeout _ _ w := (none, w)
  loadRoots _ w := (.ok (), w)
  loadIdentity _ _ w := (.ok (), w)
  tlsHandshake _ _ _ w := (.ok (), w)
  send _ _ _ w := (.ok (), w)
  recv _ w := (.ok ⟨.helloOk, helloAll⟩, w)
  shutdown _ w := w

/-- The client of the connection with these numbers, which has sent nothing yet. -/
def fresh (opened : Nat) (stamp sequence : UInt64) : Client :=
  Client.granting 7 (newClient (.tcp opened) (prefixText 1 stamp sequence) Options.default)

theorem connect_clocked (sequence : UInt64) (opened : Nat) (stamp : UInt64) (later seen : List UInt64) :
    (connect clocked.recorded Options.default ⟨sequence, opened, (stamp :: later, seen)⟩).outcome =
        .returned (fresh opened stamp sequence) ∧
      (connect clocked.recorded Options.default ⟨sequence, opened, (stamp :: later, seen)⟩).state =
        ⟨sequence + 1, opened + 1, (later, seen ++ [stamp])⟩ :=
  ⟨by with_unfolding_all rfl, by with_unfolding_all rfl⟩

/-- The clients of a process that opened one connection at each of these readings. -/
def freshMembers (stamps : List UInt64) : List Member :=
  stamps.mapIdx fun k stamp => ⟨fresh k stamp (UInt64.ofNat k), k, 0⟩

theorem freshMembers_append (stamps : List UInt64) (stamp : UInt64) :
    freshMembers (stamps ++ [stamp]) = freshMembers stamps ++
      [⟨fresh stamps.length stamp (UInt64.ofNat stamps.length), stamps.length, 0⟩] := by
  simp [freshMembers, List.mapIdx_append]

/-- A process that opened one connection at each of these readings, and made no call yet. -/
def openedAt (stamps later : List UInt64) : Fleet (List UInt64) :=
  ⟨freshMembers stamps, ⟨UInt64.ofNat stamps.length, stamps.length, (later, stamps)⟩, []⟩

theorem openedAt_reachable (stamps later : List UInt64) : FleetReachable clocked (openedAt stamps later) := by
  induction stamps using List.reverseRecOn generalizing later with
  | nil => exact ⟨0, later, .refl⟩
  | append_singleton stamps stamp ih =>
    obtain ⟨opened, w, run⟩ := ih (stamp :: later)
    refine ⟨opened, w, run.tail ?_⟩
    have connected := connect_clocked (UInt64.ofNat stamps.length) stamps.length stamp later stamps
    have step := FleetStep.connected (openedAt stamps (stamp :: later)) Options.default _ connected.1
    unfold openedAt at step ⊢
    rw [connected.2] at step
    rw [freshMembers_append, List.length_append, List.length_singleton, UInt64.ofNat_add]
    exact step

theorem ids_unique_iff_still :
    FleetReachable clocked (openedAt [5, 5] []) ∧ (openedAt [5, 5] []).Unique :=
  ⟨openedAt_reachable _ _,
    (ids_unique_iff (openedAt_reachable _ _)).mpr ⟨by decide +kernel, by decide +kernel⟩⟩

theorem fresh_request (opened : Nat) (stamp sequence : UInt64) (op : Value)
    (p : Process (List UInt64 × List UInt64)) :
    ∃ c p', ((PublicCall.call (.request op) : PublicCall Unit).run clocked.recorded
        (fresh opened stamp sequence, p)).state = (c, p') ∧
      c.requestIdPrefix = prefixText 1 stamp sequence ∧
      idTaken true c = [idText (prefixText 1 stamp sequence) 1] ∧ p.readings <+: p'.readings := by
  have numbered := publicCall_numbered (H := clocked) (c := fresh opened stamp sequence) (p := p)
    (.call (.request op) : PublicCall Unit)
  exact ⟨_, _, rfl, congrArg (·.1) numbered.naming, congrArg (·.2.2.toList) numbered.naming, numbered.readings⟩

/-- A clock that stands at 17 for sixteen connections and is set back to 1 for another. -/
def setBack : List UInt64 := List.replicate 16 17 ++ [1]

theorem setBack_clash : prefixText 1 17 0 = prefixText 1 1 16 := prefixText_eq_iff.mpr (by decide)

theorem ids_repeat_setBack :
    ∃ f : Fleet (List UInt64), FleetReachable clocked f ∧ setBack <+: f.process.readings ∧
      ¬(f.members.map fun m => m.client.requestIdPrefix).Nodup ∧ ¬f.ids.Nodup := by
  let first : Member := ⟨fresh 0 17 0, 0, 0⟩
  let last : Member := ⟨fresh 16 1 16, 16, 0⟩
  let between := (freshMembers setBack).tail.dropLast
  let p : Process (List UInt64 × List UInt64) := ⟨17, 17, ([], setBack)⟩
  let ping : PublicCall Unit := .call (.request (.string "Ping"))
  obtain ⟨opened, w, run⟩ := openedAt_reachable setBack []
  have opening : openedAt setBack [] = ⟨first :: (between ++ [last]), p, []⟩ := rfl
  rw [opening] at run
  -- the first connection and the last each make a request
  have one := run.tail (.called [] (between ++ [last]) first p [] ping)
  obtain ⟨c, p', state, named, taken, read⟩ := fresh_request 0 17 0 (.string "Ping") p
  rw [state] at one
  have two := one.tail (.called (first.after true c :: between) [] last p' _ ping)
  obtain ⟨c', p'', state', named', taken', read'⟩ := fresh_request 16 1 16 (.string "Ping") p'
  rw [state'] at two
  refine ⟨_, ⟨opened, w, two⟩, read.trans read', fun prefixes => ?_, fun ids => ?_⟩
  · have apart := (List.nodup_cons.mp prefixes).1
    have member : last.after true c' ∈ between ++ [last.after true c'] :=
      List.mem_append_right _ (List.mem_singleton_self _)
    exact apart (List.mem_map.mpr ⟨_, member, named'.trans (setBack_clash.symm.trans named.symm)⟩)
  · change ([] ++ idTaken true c ++ idTaken true c').Nodup at ids
    rw [taken, taken', setBack_clash] at ids
    simp at ids

end TricoreSdk
