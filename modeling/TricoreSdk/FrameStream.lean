import TricoreSdk.Stream

/-! Streams of frames: what `encode` wrote comes back from repeated
`read_frame`, however the reader cuts the bytes into chunks. -/

namespace TricoreSdk

/-- `std::io::Read`: a read hands over some bytes, at most as many as asked for,
and none at the end of the stream. An interrupted read is one that was retried. -/
structure Source (σ : Type) where
  read : (n : Nat) → σ → Except IoError { bytes : List UInt8 // bytes.length ≤ n } × σ

namespace Source

theorem filled_length {n : Nat} {b : UInt8} {bs rest : List UInt8} (h : (b :: bs).length ≤ n + 1)
    (hr : rest.length = n - bs.length) : (b :: bs ++ rest).length = n + 1 := by
  simp only [List.length_cons] at h
  simp only [List.length_append, List.length_cons]
  omega

variable {σ : Type} (S : Source σ)

/-- Read until the buffer is full. A read takes a byte at least, so no more reads
are made than there are bytes to read. -/
def fill : (reads n : Nat) → σ → Except IoError { bytes : List UInt8 // bytes.length = n } × σ
  | _, 0, s => (.ok ⟨[], rfl⟩, s)
  | 0, _ + 1, s => (.error ⟨.unexpectedEof, "failed to fill whole buffer"⟩, s)
  | reads + 1, n + 1, s =>
    match S.read (n + 1) s with
    | (.error e, s) => (.error e, s)
    | (.ok ⟨[], _⟩, s) => (.error ⟨.unexpectedEof, "failed to fill whole buffer"⟩, s)
    | (.ok ⟨b :: bs, h⟩, s) =>
      match fill reads (n - bs.length) s with
      | (.error e, s) => (.error e, s)
      | (.ok rest, s) => (.ok ⟨b :: bs ++ rest.val, filled_length h rest.property⟩, s)

/-- `Read::read_exact`. -/
def readExact (n : Nat) (s : σ) : Except IoError { bytes : List UInt8 // bytes.length = n } × σ :=
  S.fill n n s

def reader : Reader σ := ⟨S.readExact⟩

/-- The source hands over the bytes it still holds, in order, at least one at a time. -/
def Delivers (pending : σ → List UInt8) : Prop :=
  ∀ n s, 0 < n → pending s ≠ [] →
    ∃ bytes s', S.read n s = (.ok bytes, s') ∧ bytes.val ≠ [] ∧ pending s = bytes.val ++ pending s'

/-- A stream cut into chunks: a read stays within one. -/
def chunked : Source (List (List UInt8)) where
  read n chunks :=
    match chunks.dropWhile List.isEmpty with
    | [] => (.ok ⟨[], Nat.zero_le n⟩, [])
    | chunk :: rest => (.ok ⟨chunk.take n, List.length_take_le n chunk⟩, chunk.drop n :: rest)

theorem chunked_held {chunks : List (List UInt8)} (h : chunks.flatten ≠ []) :
    ∃ b bs rest, chunks.dropWhile List.isEmpty = (b :: bs) :: rest ∧
      chunks.flatten = (b :: bs) ++ rest.flatten := by
  induction chunks with
  | nil => exact absurd rfl h
  | cons chunk rest ih =>
    cases chunk with
    | nil => simpa using ih (by simpa using h)
    | cons b bs => exact ⟨b, bs, rest, by simp, by simp⟩

theorem chunked_delivers : chunked.Delivers List.flatten := by
  intro n chunks hn held
  obtain ⟨b, bs, rest, hd, whole⟩ := chunked_held held
  refine ⟨⟨(b :: bs).take n, List.length_take_le n _⟩, (b :: bs).drop n :: rest, ?_, ?_, ?_⟩
  · simp only [chunked, hd]
  · simp only [ne_eq, List.take_eq_nil_iff, reduceCtorEq, or_false]
    omega
  · rw [whole, List.flatten_cons, ← List.append_assoc, List.take_append_drop]

variable {S} {pending : σ → List UInt8}

theorem longer_part {bytes rest part left : List UInt8} (h : bytes ++ rest = part ++ left)
    (short : part.length ≤ bytes.length) : ∃ more, bytes = part ++ more ∧ left = more ++ rest := by
  rcases List.append_eq_append_iff.mp h with ⟨more, hp, hr⟩ | ⟨more, hb, hl⟩
  · have : more = [] := by
      rw [hp, List.length_append] at short
      exact List.length_eq_zero_iff.mp (by omega)
    subst this
    exact ⟨[], by simpa using hp.symm, by simpa using hr.symm⟩
  · exact ⟨more, hb, hl⟩

theorem fill_delivers (h : S.Delivers pending) {reads n : Nat} (enough : n ≤ reads) {s : σ}
    {bytes rest : List UInt8} (hs : pending s = bytes ++ rest) (hn : bytes.length = n) :
    ∃ s', S.fill reads n s = (.ok ⟨bytes, hn⟩, s') ∧ pending s' = rest := by
  induction reads generalizing n s bytes with
  | zero =>
    cases Nat.le_zero.mp enough
    cases List.length_eq_zero_iff.mp hn
    exact ⟨s, rfl, hs⟩
  | succ reads ih =>
    cases n with
    | zero =>
      cases List.length_eq_zero_iff.mp hn
      exact ⟨s, rfl, hs⟩
    | succ n =>
      have held : pending s ≠ [] := by
        intro empty
        rw [empty] at hs
        simp [(List.append_eq_nil_iff.mp hs.symm).1] at hn
      obtain ⟨⟨part, short⟩, s₁, hread, some, cut⟩ := h (n + 1) s (Nat.succ_pos n) held
      cases part with
      | nil => exact absurd rfl some
      | cons b bs =>
        obtain ⟨more, rfl, left⟩ := longer_part (hs.symm.trans cut) (by rw [hn]; exact short)
        have len : more.length = n - bs.length := by
          simp only [List.length_append, List.length_cons] at hn
          omega
        obtain ⟨s₂, hrest, done⟩ := ih (by omega) left len
        refine ⟨s₂, ?_, done⟩
        rw [fill]
        simp only [hread, hrest]

theorem readExact_delivers (h : S.Delivers pending) {n : Nat} {s : σ} {bytes rest : List UInt8}
    (hs : pending s = bytes ++ rest) (hn : bytes.length = n) :
    ∃ s', S.readExact n s = (.ok ⟨bytes, hn⟩, s') ∧ pending s' = rest :=
  fill_delivers h (Nat.le_refl n) hs hn

end Source

/-! ## Frames -/

section

variable {σ : Type} {S : Source σ} {pending : σ → List UInt8}

theorem checkHeader_encoded {tag : Tag} {payload : List UInt8}
    (fits : payload.length ≤ tag.maxPayload)
    (h : (frameVersion :: tag.asU8 :: toBeBytes (UInt32.ofNat payload.length)).length = headerLen) :
    checkHeader ⟨frameVersion :: tag.asU8 :: toBeBytes (UInt32.ofNat payload.length), h⟩ =
      .ok (tag, payload.length) := by
  have wide : payload.length < 2 ^ 32 := by
    have := tag.maxPayload_le
    simp only [maxDataPayload] at this
    omega
  simp only [toBeBytes, checkHeader, Tag.fromU8_asU8, declared_length wide]
  rw [if_neg (by decide), if_neg (by omega)]

theorem readFrame_delivers (h : S.Delivers pending) {frame : Frame} {s : σ} {rest : List UInt8}
    (fits : frame.payload.length ≤ frame.tag.maxPayload)
    (hs : pending s = frameBytes frame.tag frame.payload ++ rest) :
    ∃ s', readFrame S.reader s = (.ok frame, s') ∧ pending s' = rest := by
  have head : pending s = (frameVersion :: frame.tag.asU8 ::
      toBeBytes (UInt32.ofNat frame.payload.length)) ++ (frame.payload ++ rest) := by
    rw [hs]
    simp [frameBytes]
  obtain ⟨s₁, hhead, left⟩ := Source.readExact_delivers (n := headerLen) h head rfl
  obtain ⟨s₂, hbody, done⟩ := Source.readExact_delivers h left rfl
  have passes := checkHeader_encoded fits rfl
  refine ⟨s₂, ?_, done⟩
  simp only [readFrame, Source.reader, hhead]
  rw [passes]
  simp only [hbody]

/-- Repeated `read_frame`, as long as it succeeds. -/
def readFrames {σ : Type} (R : Reader σ) : Nat → σ → Except Error (List Frame) × σ
  | 0, s => (.ok [], s)
  | n + 1, s =>
    match readFrame R s with
    | (.error e, s) => (.error e, s)
    | (.ok frame, s) =>
      match readFrames R n s with
      | (.error e, s) => (.error e, s)
      | (.ok frames, s) => (.ok (frame :: frames), s)

def encodeAll : List Frame → Except Error (List UInt8)
  | [] => .ok []
  | frame :: frames =>
    match encode frame.tag frame.payload with
    | .error e => .error e
    | .ok bytes =>
      match encodeAll frames with
      | .error e => .error e
      | .ok more => .ok (bytes ++ more)

theorem encode_ok_iff (tag : Tag) (payload : List UInt8) :
    (∃ bytes, encode tag payload = .ok bytes) ↔ payload.length ≤ tag.maxPayload :=
  ⟨fun ⟨_, h⟩ => (encode_ok h).1, fun h => ⟨_, encode_of_le h⟩⟩

def declaredLength : List UInt8 → Option Nat
  | _ :: _ :: a :: b :: c :: d :: _ => some (fromBeBytes a b c d).toNat
  | _ => none

theorem declaredLength_encode {tag : Tag} {payload bytes : List UInt8}
    (h : encode tag payload = .ok bytes) : declaredLength bytes = some payload.length := by
  obtain ⟨fits, rfl⟩ := encode_ok h
  have wide : payload.length < 2 ^ 32 := by
    have := tag.maxPayload_le
    simp only [maxDataPayload] at this
    omega
  simp only [toBeBytes, List.cons_append, declaredLength, declared_length wide]

/-- The frames that can be sent. -/
def AllFit (frames : List Frame) : Prop := ∀ f ∈ frames, f.payload.length ≤ f.tag.maxPayload

theorem readFrames_encodeAll (h : S.Delivers pending) {frames : List Frame} (fit : AllFit frames) :
    ∃ bytes, encodeAll frames = .ok bytes ∧ ∀ s rest, pending s = bytes ++ rest →
      ∃ s', readFrames S.reader frames.length s = (.ok frames, s') ∧ pending s' = rest := by
  induction frames with
  | nil => exact ⟨[], rfl, fun s rest hs => ⟨s, rfl, hs⟩⟩
  | cons frame frames ih =>
    obtain ⟨more, hmore, reads⟩ := ih fun f hf => fit f (List.mem_cons_of_mem _ hf)
    have first : frame.payload.length ≤ frame.tag.maxPayload := fit frame List.mem_cons_self
    refine ⟨frameBytes frame.tag frame.payload ++ more, ?_, fun s rest hs => ?_⟩
    · simp only [encodeAll, encode_of_le first, hmore, frameBytes]
    · rw [List.append_assoc] at hs
      obtain ⟨s₁, hframe, left⟩ := readFrame_delivers h first hs
      obtain ⟨s₂, hframes, done⟩ := reads s₁ rest left
      refine ⟨s₂, ?_, done⟩
      simp only [List.length_cons, readFrames, hframe, hframes]

theorem frames_roundTrip (h : S.Delivers pending) :
    (∀ frames, AllFit frames → ∃ bytes, encodeAll frames = .ok bytes ∧
      ∀ s rest, pending s = bytes ++ rest →
        ∃ s', readFrames S.reader frames.length s = (.ok frames, s') ∧ pending s' = rest) ∧
    (∀ tag payload, (∃ bytes, encode tag payload = .ok bytes) ↔ payload.length ≤ tag.maxPayload) ∧
    ∀ tag payload bytes, encode tag payload = .ok bytes →
      declaredLength bytes = some payload.length :=
  ⟨fun _ fit => readFrames_encodeAll h fit, encode_ok_iff, fun _ _ _ => declaredLength_encode⟩

theorem frames_roundTrip_chunked :
    (∀ frames, AllFit frames → ∃ bytes, encodeAll frames = .ok bytes ∧
      ∀ s rest, List.flatten s = bytes ++ rest →
        ∃ s', readFrames Source.chunked.reader frames.length s = (.ok frames, s') ∧
          List.flatten s' = rest) ∧
    (∀ tag payload, (∃ bytes, encode tag payload = .ok bytes) ↔ payload.length ≤ tag.maxPayload) ∧
    ∀ tag payload bytes, encode tag payload = .ok bytes →
      declaredLength bytes = some payload.length :=
  frames_roundTrip Source.chunked_delivers

end

end TricoreSdk
