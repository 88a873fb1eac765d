import TricoreSdk.Footprint

/-! Connections as byte streams. Each carries bytes in order in both directions;
a write or a read may stall or break after any byte, and the server answers
every whole frame it has received with one frame. -/

namespace TricoreSdk
open Effects

/-- A frame as a server sends it: any version and tag byte, and a payload that
its length field can declare. -/
structure Answer where
  version : UInt8
  tag : UInt8
  payload : List UInt8
  fits : payload.length < 2 ^ 32

def Answer.bytes (a : Answer) : List UInt8 :=
  a.version :: a.tag :: (toBeBytes (UInt32.ofNat a.payload.length) ++ a.payload)

def Answer.Reads (a : Answer) (frame : Frame) : Prop :=
  Tag.fromU8 a.tag = some frame.tag ∧ a.payload = frame.payload

/-- One connection: what the server has received of an unfinished frame, what it
has sent that was not read yet, and every frame it received with its answer. -/
structure Link where
  received : List UInt8
  unread : List UInt8
  ledger : List (List UInt8 × Answer)

def Link.new : Link := ⟨[], [], []⟩

/-- Nothing is on its way in either direction. -/
structure Link.AtRest (l : Link) : Prop where
  received : l.received = []
  unread : l.unread = []

/-- What decides the fate of the bytes: `write` and `read` may stop after some
bytes with an error, a read that waits in vain ends with the error it names, and
`answer` is the server. -/
structure Wire (σ : Type) where
  write : Socket → List UInt8 → σ → Option (Nat × IoError) × σ
  flush : Socket → σ → Option IoError × σ
  read : Socket → Nat → σ → (Option Nat × IoError) × σ
  answer : Socket → List UInt8 → σ → Answer × σ

structure World (σ : Type) where
  net : σ
  links : Socket → Link

namespace World

variable {σ : Type}

def setLink (socket : Socket) (l : Link) (w : World σ) : World σ :=
  { w with links := fun s => if s = socket then l else w.links s }

def setNet (net : σ) (w : World σ) : World σ := { w with net := net }

@[simp] theorem setLink_links_self (socket : Socket) (l : Link) (w : World σ) :
    (w.setLink socket l).links socket = l := by simp [setLink]

theorem setLink_links_other {socket s : Socket} (h : socket ≠ s) (l : Link) (w : World σ) :
    (w.setLink socket l).links s = w.links s := by simp [setLink, h.symm]

@[simp] theorem setLink_net (socket : Socket) (l : Link) (w : World σ) :
    (w.setLink socket l).net = w.net := rfl

@[simp] theorem setNet_links (net : σ) (w : World σ) : (w.setNet net).links = w.links := rfl

@[simp] theorem setNet_net (net : σ) (w : World σ) : (w.setNet net).net = net := rfl

def onNet {α : Type} (f : σ → α × σ) (w : World σ) : α × World σ :=
  ((f w.net).1, w.setNet (f w.net).2)

@[simp] theorem onNet_links {α : Type} (f : σ → α × σ) (w : World σ) :
    (w.onNet f).2.links = w.links := rfl

end World

/-- The first whole frame of some bytes, and what follows it. -/
def takeFrame : List UInt8 → Option (List UInt8 × List UInt8)
  | v :: t :: a :: b :: c :: d :: rest =>
    let len := (fromBeBytes a b c d).toNat
    if len ≤ rest.length then some (v :: t :: a :: b :: c :: d :: rest.take len, rest.drop len)
    else none
  | _ => none

namespace Wire

variable {σ : Type} (W : Wire σ)

/-- The server answers a frame it has received. -/
def reply (socket : Socket) (frame rest : List UInt8) (w : World σ) : World σ :=
  let l := w.links socket
  let a := (W.answer socket frame w.net).1
  (w.setLink socket ⟨rest, l.unread ++ a.bytes, l.ledger ++ [(frame, a)]⟩).setNet
    (W.answer socket frame w.net).2

/-- The server answers the whole frames it has received, in order. -/
def serve (socket : Socket) : Nat → World σ → World σ
  | 0, w => w
  | n + 1, w =>
    match takeFrame (w.links socket).received with
    | none => w
    | some (frame, rest) => serve socket n (W.reply socket frame rest w)

def deliver (socket : Socket) (bytes : List UInt8) (w : World σ) : World σ :=
  let l := w.links socket
  let received := l.received ++ bytes
  W.serve socket received.length (w.setLink socket { l with received := received })

def writer (socket : Socket) : Writer (World σ) where
  writeAll bytes w :=
    match W.write socket bytes w.net with
    | (none, net) => (none, W.deliver socket bytes (w.setNet net))
    | (some (k, e), net) => (some e, W.deliver socket (bytes.take k) (w.setNet net))
  flush w := w.onNet (W.flush socket)

def reader (socket : Socket) : Reader (World σ) where
  readExact n w :=
    let l := w.links socket
    let ((stall, e), net) := W.read socket n w.net
    match stall with
    | some k => (.error e, (w.setLink socket { l with unread := l.unread.drop k }).setNet net)
    | none =>
      if h : n ≤ l.unread.length then
        (.ok ⟨l.unread.take n, by simp [h]⟩,
          (w.setLink socket { l with unread := l.unread.drop n }).setNet net)
      else (.error e, (w.setLink socket { l with unread := [] }).setNet net)

end Wire

/-- The result of a frame operation, whose errors are transport failures. -/
def onWire {α ω : Type} (r : Except Error α × ω) (h : ∀ e, r.1 = .error e → e.OnWire) :
    Except WireError α × ω :=
  (match hr : r.1 with
    | .error e => .error ⟨e, h e hr⟩
    | .ok a => .ok a, r.2)

theorem onWire_ok {α ω : Type} {r : Except Error α × ω} {h : ∀ e, r.1 = .error e → e.OnWire} {a : α}
    (ha : (onWire r h).1 = .ok a) : r.1 = .ok a := by
  rcases r with ⟨e | b, w⟩
  · cases ha
  · cases ha
    rfl

/-- The host `B` with its frames carried by byte streams. -/
def Host.overStreams {σ : Type} (B : Host σ) (W : Wire σ) : Host (World σ) where
  serde := B.serde
  processId := B.processId
  clock := World.onNet B.clock
  resolve host port := World.onNet (B.resolve host port)
  connect socket address bound := World.onNet (B.connect socket address bound)
  setReadTimeout socket bound := World.onNet (B.setReadTimeout socket bound)
  setWriteTimeout socket bound := World.onNet (B.setWriteTimeout socket bound)
  loadRoots path := World.onNet (B.loadRoots path)
  loadIdentity cert key := World.onNet (B.loadIdentity cert key)
  tlsHandshake socket opts name := World.onNet (B.tlsHandshake socket opts name)
  send transport tag payload w :=
    onWire (writeFrame (W.writer transport.socket) tag (B.body payload) w) fun _ h =>
      writeFrame_onWire (Prod.ext h rfl)
  recv transport w :=
    onWire (readFrame (W.reader transport.socket) w) fun _ h => readFrame_onWire (Prod.ext h rfl)
  shutdown socket w := w.setNet (B.shutdown socket w.net)

/-! ## Frames on a link -/

/-- What `write_frame` puts on the stream. -/
def frameBytes (tag : Tag) (payload : List UInt8) : List UInt8 :=
  frameVersion :: tag.asU8 :: (toBeBytes (UInt32.ofNat payload.length) ++ payload)

theorem frameBytes_length (tag : Tag) (payload : List UInt8) :
    (frameBytes tag payload).length = payload.length + 6 := by
  simp [frameBytes, toBeBytes]

theorem declared_length {n : Nat} (h : n < 2 ^ 32) :
    (fromBeBytes (UInt8.ofNat ((UInt32.ofNat n).toNat / 2 ^ 24))
      (UInt8.ofNat ((UInt32.ofNat n).toNat / 2 ^ 16)) (UInt8.ofNat ((UInt32.ofNat n).toNat / 2 ^ 8))
      (UInt8.ofNat (UInt32.ofNat n).toNat)).toNat = n := by
  rw [fromBeBytes_toBeBytes, UInt32.toNat_ofNat']
  exact Nat.mod_eq_of_lt h

theorem takeFrame_frameBytes {tag : Tag} {payload : List UInt8} (h : payload.length < 2 ^ 32) :
    takeFrame (frameBytes tag payload) = some (frameBytes tag payload, []) := by
  simp only [frameBytes, toBeBytes, takeFrame, List.cons_append, List.nil_append,
    declared_length h]
  simp

theorem takeFrame_take {tag : Tag} {payload : List UInt8} (h : payload.length < 2 ^ 32) {k : Nat}
    (hk : k < (frameBytes tag payload).length) :
    takeFrame ((frameBytes tag payload).take k) = none := by
  have length := frameBytes_length tag payload
  -- Either the header is short, or the payload is shorter than the header declares.
  match k, hk with
  | 0, _ | 1, _ | 2, _ | 3, _ | 4, _ | 5, _ => rfl
  | j + 6, hk =>
    simp only [frameBytes, toBeBytes, takeFrame, List.cons_append, List.nil_append,
      List.take_succ_cons, declared_length h]
    rw [if_neg]
    rw [List.length_take]
    omega

section

variable {σ : Type} {B : Host σ} {W : Wire σ} {socket : Socket}

theorem serve_of_none {w : World σ} (h : takeFrame (w.links socket).received = none) (n : Nat) :
    W.serve socket n w = w := by
  cases n with
  | zero => rfl
  | succ n => simp [Wire.serve, h]

theorem serve_of_some {w : World σ} {frame rest : List UInt8}
    (h : takeFrame (w.links socket).received = some (frame, rest)) (n : Nat) :
    W.serve socket (n + 1) w = W.serve socket n (W.reply socket frame rest w) := by
  simp [Wire.serve, h]

/-- How a link at rest can look once a frame was written on it: the frame was cut
short and is not answered, or it arrived and its answer is on the way. -/
inductive Delivered (frame : List UInt8) (l : Link) : Link → Prop
  | cut (received : List UInt8) : Delivered frame l ⟨received, [], l.ledger⟩
  | whole (a : Answer) : Delivered frame l ⟨[], a.bytes, l.ledger ++ [(frame, a)]⟩

theorem deliver_whole (tag : Tag) {payload : List UInt8} (h : payload.length < 2 ^ 32) {w : World σ}
    (rest : (w.links socket).AtRest) :
    ∃ a, (W.deliver socket (frameBytes tag payload) w).links socket =
      ⟨[], a.bytes, (w.links socket).ledger ++ [(frameBytes tag payload, a)]⟩ := by
  let w' := w.setLink socket { w.links socket with received := frameBytes tag payload }
  have arrived : W.deliver socket (frameBytes tag payload) w =
      W.serve socket (payload.length + 6) w' := by
    simp only [Wire.deliver, rest.received, List.nil_append, frameBytes_length, w']
  have first : takeFrame (w'.links socket).received = some (frameBytes tag payload, []) := by
    simp only [w', World.setLink_links_self, takeFrame_frameBytes h]
  rw [arrived, serve_of_some first, serve_of_none (by simp [Wire.reply, takeFrame])]
  refine ⟨(W.answer socket (frameBytes tag payload) w.net).1, ?_⟩
  simp [Wire.reply, w', rest.unread]

theorem deliver_cut {tag : Tag} {payload : List UInt8} (h : payload.length < 2 ^ 32) {w : World σ}
    (rest : (w.links socket).AtRest) {k : Nat} (hk : k < (frameBytes tag payload).length) :
    (W.deliver socket ((frameBytes tag payload).take k) w).links socket =
      ⟨(frameBytes tag payload).take k, [], (w.links socket).ledger⟩ := by
  unfold Wire.deliver
  simp only [rest.received, rest.unread, List.nil_append]
  rw [serve_of_none (by simp [takeFrame_take h hk])]
  simp

theorem deliver_take (tag : Tag) {payload : List UInt8} (h : payload.length < 2 ^ 32) {w : World σ}
    (rest : (w.links socket).AtRest) (k : Nat) :
    Delivered (frameBytes tag payload) (w.links socket)
      ((W.deliver socket ((frameBytes tag payload).take k) w).links socket) := by
  by_cases hk : k < (frameBytes tag payload).length
  · rw [deliver_cut h rest hk]
    exact .cut _
  · obtain ⟨a, ha⟩ := deliver_whole (W := W) tag h rest
    rw [List.take_of_length_le (by omega), ha]
    exact .whole a

variable (W socket) in
theorem serve_links (n : Nat) (w : World σ) :
    (∀ s, socket ≠ s → (W.serve socket n w).links s = w.links s) ∧
      (w.links socket).ledger <+: ((W.serve socket n w).links socket).ledger := by
  induction n generalizing w with
  | zero => exact ⟨fun _ _ => rfl, List.prefix_refl _⟩
  | succ n ih =>
    cases h : takeFrame (w.links socket).received with
    | none =>
      rw [serve_of_none h]
      exact ⟨fun _ _ => rfl, List.prefix_refl _⟩
    | some p =>
      obtain ⟨frame, rest⟩ := p
      rw [serve_of_some h]
      obtain ⟨others, ledger⟩ := ih (W.reply socket frame rest w)
      refine ⟨fun s hs => (others s hs).trans (World.setLink_links_other hs _ _), .trans ?_ ledger⟩
      simp [Wire.reply]

/-- A step of the outside that grows one connection's ledger and leaves the other
connections as they were. -/
structure Grows (socket : Socket) (w w' : World σ) : Prop where
  others : ∀ s, socket ≠ s → w'.links s = w.links s
  ledger : (w.links socket).ledger <+: (w'.links socket).ledger

theorem Grows.refl (socket : Socket) (w : World σ) : Grows socket w w :=
  ⟨fun _ _ => rfl, List.prefix_refl _⟩

theorem Grows.trans {w w' w'' : World σ} (h : Grows socket w w') (h' : Grows socket w' w'') :
    Grows socket w w'' :=
  ⟨fun s hs => (h'.others s hs).trans (h.others s hs), h.ledger.trans h'.ledger⟩

theorem prefix_of_eq {α : Type} {l l' : List α} (h : l' = l) : l <+: l' := h ▸ List.prefix_refl l

theorem Grows.of_links {w w' : World σ} (h : w'.links = w.links) : Grows socket w w' :=
  ⟨fun s _ => congrFun h s, prefix_of_eq (by rw [h])⟩

theorem grows_setLink {w : World σ} {l : Link} (h : (w.links socket).ledger <+: l.ledger) :
    Grows socket w (w.setLink socket l) :=
  ⟨fun _ hs => World.setLink_links_other hs _ _, by simpa using h⟩

theorem grows_deliver (bytes : List UInt8) (w : World σ) : Grows socket w (W.deliver socket bytes w) := by
  have set : Grows socket w (w.setLink socket
      { w.links socket with received := (w.links socket).received ++ bytes }) :=
    grows_setLink (List.prefix_refl _)
  obtain ⟨others, ledger⟩ := serve_links W socket
    ((w.links socket).received ++ bytes).length
    (w.setLink socket { w.links socket with received := (w.links socket).received ++ bytes })
  exact set.trans ⟨others, ledger⟩

/-! ## One exchange on a link -/

variable (W socket) in
theorem writeFrame_delivers {tag : Tag} {payload : List UInt8} (fits : payload.length ≤ tag.maxPayload)
    (w : World σ) :
    ∃ k net, (writeFrame (W.writer socket) tag payload w).2.links =
        (W.deliver socket ((frameBytes tag payload).take k) (w.setNet net)).links ∧
      ((writeFrame (W.writer socket) tag payload w).1 = .ok () →
        (frameBytes tag payload).length ≤ k) := by
  have bytes : encode tag payload = .ok (frameBytes tag payload) := encode_of_le fits
  rcases hw : W.write socket (frameBytes tag payload) w.net with ⟨_ | ⟨k, e⟩, net⟩
  · refine ⟨(frameBytes tag payload).length, net, ?_⟩
    rw [List.take_length]
    rcases hf : W.flush socket (W.deliver socket (frameBytes tag payload) (w.setNet net)).net with
      ⟨_ | e, net'⟩ <;> simp [writeFrame, bytes, Wire.writer, hw, World.onNet, hf]
  · exact ⟨k, net, by simp [writeFrame, bytes, Wire.writer, hw]⟩

theorem writeFrame_refused {tag : Tag} {payload : List UInt8} (large : tag.maxPayload < payload.length)
    (w : World σ) : (writeFrame (W.writer socket) tag payload w).2 = w := by
  simp [writeFrame, encode, large]

theorem grows_send (transport : Transport) (tag : Tag) (payload : Option Value) (w : World σ) :
    Grows transport.socket w ((B.overStreams W).send transport tag payload w).2 := by
  rcases Nat.lt_or_ge tag.maxPayload (B.body payload).length with large | fits
  · exact .of_links (congrArg World.links (writeFrame_refused large w))
  · obtain ⟨k, net, links, -⟩ := writeFrame_delivers W transport.socket fits w
    have set : Grows transport.socket w (w.setNet net) := .of_links rfl
    exact (set.trans (grows_deliver _ _)).trans (.of_links links)

theorem send_delivers (transport : Transport) (tag : Tag) (payload : Option Value) {w : World σ}
    (fits : (B.body payload).length ≤ tag.maxPayload) (rest : (w.links transport.socket).AtRest) :
    Delivered (frameBytes tag (B.body payload)) (w.links transport.socket)
      (((B.overStreams W).send transport tag payload w).2.links transport.socket) := by
  obtain ⟨k, net, links, -⟩ := writeFrame_delivers W transport.socket fits w
  have small : (B.body payload).length < 2 ^ 32 := by
    have := tag.maxPayload_le
    unfold maxDataPayload at this
    omega
  have delivered := deliver_take (W := W) tag (w := w.setNet net) small rest k
  rwa [← links] at delivered

theorem send_ok {transport : Transport} {tag : Tag} {payload : Option Value} {w w' : World σ}
    (fits : (B.body payload).length ≤ tag.maxPayload) (rest : (w.links transport.socket).AtRest)
    (run : (B.overStreams W).send transport tag payload w = (.ok (), w')) :
    ∃ a, w'.links transport.socket = ⟨[], a.bytes,
      (w.links transport.socket).ledger ++ [(frameBytes tag (B.body payload), a)]⟩ := by
  obtain ⟨k, net, links, whole⟩ := writeFrame_delivers W transport.socket fits w
  have all := whole (onWire_ok (congrArg Prod.fst run))
  have small : (B.body payload).length < 2 ^ 32 := by
    have := tag.maxPayload_le
    unfold maxDataPayload at this
    omega
  obtain ⟨a, ha⟩ := deliver_whole (W := W) tag (w := w.setNet net) small rest
  have state : w' = (writeFrame (W.writer transport.socket) tag (B.body payload) w).2 :=
    (congrArg Prod.snd run).symm
  rw [state, links, List.take_of_length_le all]
  exact ⟨a, ha⟩

/-- A step of the outside that only changes what is unread on one connection. -/
structure Leaves (socket : Socket) (unread : List UInt8) (w w' : World σ) : Prop where
  others : ∀ s, socket ≠ s → w'.links s = w.links s
  own : w'.links socket = { w.links socket with unread := unread }

theorem Leaves.grows {unread : List UInt8} {w w' : World σ} (h : Leaves socket unread w w') :
    Grows socket w w' := ⟨h.others, prefix_of_eq (by rw [h.own])⟩

theorem Leaves.trans {unread unread' : List UInt8} {w w' w'' : World σ} (h : Leaves socket unread w w')
    (h' : Leaves socket unread' w' w'') : Leaves socket unread' w w'' :=
  ⟨fun s hs => (h'.others s hs).trans (h.others s hs), by rw [h'.own, h.own]⟩

theorem leaves_setLink (unread : List UInt8) (net : σ) (w : World σ) :
    Leaves socket unread w
      ((w.setLink socket { w.links socket with unread := unread }).setNet net) :=
  ⟨fun _ hs => World.setLink_links_other hs _ _, by simp⟩

variable (W socket) in
theorem readExact_leaves (n : Nat) (w : World σ) :
    ∃ unread, Leaves socket unread w ((W.reader socket).readExact n w).2 ∧
      ∀ bytes, ((W.reader socket).readExact n w).1 = .ok bytes →
        (w.links socket).unread = bytes.val ++ unread := by
  rcases hr : W.read socket n w.net with ⟨⟨_ | k, e⟩, net⟩
  · by_cases h : n ≤ (w.links socket).unread.length
    · refine ⟨(w.links socket).unread.drop n, ?_, fun bytes hb => ?_⟩
      · simpa [Wire.reader, hr, h] using leaves_setLink _ net w
      · simp only [Wire.reader, hr, h, dif_pos, Except.ok.injEq] at hb
        rw [← hb, List.take_append_drop]
    · refine ⟨[], ?_, by simp [Wire.reader, hr, h]⟩
      simpa [Wire.reader, hr, h] using leaves_setLink _ net w
  · refine ⟨(w.links socket).unread.drop k, ?_, by simp [Wire.reader, hr]⟩
    simpa [Wire.reader, hr] using leaves_setLink _ net w

variable (W socket) in
theorem readFrame_leaves (w : World σ) :
    ∃ unread, Leaves socket unread w (readFrame (W.reader socket) w).2 ∧
      ∀ frame, (readFrame (W.reader socket) w).1 = .ok frame →
        ∃ head, checkHeader head = .ok (frame.tag, frame.payload.length) ∧
          (w.links socket).unread = head.val ++ (frame.payload ++ unread) := by
  obtain ⟨unread, leaves, taken⟩ := readExact_leaves W socket headerLen w
  unfold readFrame
  rcases hh : (W.reader socket).readExact headerLen w with ⟨e | head, w₁⟩
  · rw [hh] at leaves
    exact ⟨unread, leaves, by simp⟩
  · rw [hh] at leaves taken
    rcases hc : checkHeader head with e | ⟨tag, len⟩
    · exact ⟨unread, by simpa [hc] using leaves, by simp [hc]⟩
    · obtain ⟨unread', leaves', taken'⟩ := readExact_leaves W socket len w₁
      have rest : (w₁.links socket).unread = unread := by rw [leaves.own]
      rcases hp : (W.reader socket).readExact len w₁ with ⟨e | payload, w₂⟩
      · rw [hp] at leaves'
        exact ⟨unread', by simpa [hc, hp] using leaves.trans leaves', by simp [hc, hp]⟩
      · rw [hp] at leaves' taken'
        refine ⟨unread', by simpa [hc, hp] using leaves.trans leaves', ?_⟩
        simp only [hc, hp, Except.ok.injEq]
        rintro frame rfl
        refine ⟨head, by rw [hc, payload.property], ?_⟩
        rw [taken head rfl, ← rest, taken' payload rfl]

theorem grows_recv (transport : Transport) (w : World σ) :
    Grows transport.socket w ((B.overStreams W).recv transport w).2 := by
  obtain ⟨unread, leaves, -⟩ := readFrame_leaves W transport.socket w
  exact leaves.grows

theorem recv_nothing {transport : Transport} {w : World σ} {frame : Frame}
    (unread : (w.links transport.socket).unread = []) :
    ((B.overStreams W).recv transport w).1 ≠ .ok frame := by
  intro run
  obtain ⟨rest, -, read⟩ := readFrame_leaves W transport.socket w
  obtain ⟨head, -, taken⟩ := read frame (onWire_ok run)
  have short := congrArg List.length (unread.symm.trans taken)
  have length : head.val.length = 6 := head.property
  simp only [List.length_nil, List.length_append] at short
  omega

theorem checkHeader_ok {version t a b c d : UInt8} {tag : Tag} {len : Nat}
    {h : [version, t, a, b, c, d].length = headerLen}
    (passes : checkHeader ⟨[version, t, a, b, c, d], h⟩ = .ok (tag, len)) :
    Tag.fromU8 t = some tag ∧ (fromBeBytes a b c d).toNat = len := by
  rw [checkHeader] at passes
  split at passes
  · simp at passes
  · cases ht : Tag.fromU8 t with
    | none => simp [ht] at passes
    | some tag' =>
      simp only [ht] at passes
      split at passes
      · simp at passes
      · simp only [Except.ok.injEq, Prod.mk.injEq] at passes
        exact ⟨congrArg some passes.1, passes.2⟩

theorem recv_answer {transport : Transport} {w w' : World σ} {a : Answer} {frame : Frame}
    (unread : (w.links transport.socket).unread = a.bytes)
    (run : (B.overStreams W).recv transport w = (.ok frame, w')) :
    a.Reads frame ∧ w'.links transport.socket = { w.links transport.socket with unread := [] } := by
  obtain ⟨rest, leaves, read⟩ := readFrame_leaves W transport.socket w
  obtain ⟨⟨head, length⟩, passes, taken⟩ := read frame (onWire_ok (congrArg Prod.fst run))
  have state : w' = (readFrame (W.reader transport.socket) w).2 := (congrArg Prod.snd run).symm
  rw [unread, show a.bytes = (a.version :: a.tag :: toBeBytes (UInt32.ofNat a.payload.length)) ++
    a.payload from rfl] at taken
  obtain ⟨rfl, hp⟩ := List.append_inj taken length.symm
  obtain ⟨tag, declared⟩ := checkHeader_ok passes
  rw [declared_length a.fits] at declared
  obtain ⟨payload, rfl⟩ := List.append_inj (by simpa using hp : a.payload ++ [] = _) declared
  rw [state]
  exact ⟨⟨tag, payload⟩, leaves.own⟩

end

end TricoreSdk
