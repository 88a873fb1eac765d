import Mathlib.Data.List.TakeWhile
import TricoreSdk.FrameStream

/-! What `read_frame` accepts, of any stream of bytes: the frames of the grammar and nothing else,
each byte asked for after the checks that come before it. -/

namespace TricoreSdk

/-- Some bytes begin with a frame: six bytes of header that this client can read, then as many
bytes as they declare. -/
inductive Begins : List UInt8 → Frame → Prop
  | mk {version tag a b c d : UInt8} {body : List UInt8} {t : Tag}
      (readable : version ≤ frameVersion) (known : Tag.fromU8 tag = some t)
      (below : (fromBeBytes a b c d).toNat ≤ t.maxPayload)
      (whole : (fromBeBytes a b c d).toNat ≤ body.length) :
      Begins (version :: tag :: a :: b :: c :: d :: body)
        ⟨t, body.take (fromBeBytes a b c d).toNat⟩

/-- Some bytes begin with a header that is refused, for its version, its tag or its length. -/
inductive HeaderRefused : List UInt8 → Prop
  | version {version tag a b c d : UInt8} {body : List UInt8} (newer : frameVersion < version) :
      HeaderRefused (version :: tag :: a :: b :: c :: d :: body)
  | tag {version tag a b c d : UInt8} {body : List UInt8} (unknown : Tag.fromU8 tag = none) :
      HeaderRefused (version :: tag :: a :: b :: c :: d :: body)
  | length {version tag a b c d : UInt8} {body : List UInt8} {t : Tag}
      (known : Tag.fromU8 tag = some t) (above : t.maxPayload < (fromBeBytes a b c d).toNat) :
      HeaderRefused (version :: tag :: a :: b :: c :: d :: body)

/-- The reader `R`, which keeps how many bytes each call asked for. -/
def Reader.recorded {ω : Type} (R : Reader ω) : Reader (ω × List Nat) where
  readExact n w := ((R.readExact n w.1).1, ((R.readExact n w.1).2, w.2 ++ [n]))

/-- What `read_frame` asks its reader for. -/
def Reader.asked {ω : Type} (R : Reader ω) (w : ω) : List Nat :=
  (readFrame R.recorded (w, [])).2.2

/-- `k` bytes were taken from the front. -/
def Consumed (k : Nat) (before after : List UInt8) : Prop :=
  ∃ bytes, bytes.length = k ∧ before = bytes ++ after

theorem checkHeader_ok_iff {version tag a b c d : UInt8} {t : Tag} {n : Nat} :
    checkHeader ⟨[version, tag, a, b, c, d], rfl⟩ = .ok (t, n) ↔
      version ≤ frameVersion ∧ Tag.fromU8 tag = some t ∧ n = (fromBeBytes a b c d).toNat ∧
        n ≤ t.maxPayload := by
  unfold checkHeader
  by_cases newer : frameVersion < version
  · simp only [newer, if_true, reduceCtorEq, false_iff, not_and]
    intro readable
    exact absurd newer (UInt8.not_lt.mpr readable)
  · have readable : version ≤ frameVersion := UInt8.not_lt.mp newer
    simp only [newer, if_false, readable, true_and]
    cases known : Tag.fromU8 tag with
    | none => simp
    | some t' =>
      by_cases above : t'.maxPayload < (fromBeBytes a b c d).toNat
      · simp only [above, if_true, reduceCtorEq, Option.some.injEq, false_iff, not_and]
        rintro rfl rfl
        omega
      · simp only [above, if_false, Except.ok.injEq, Prod.mk.injEq, Option.some.injEq]
        constructor
        · rintro ⟨rfl, rfl⟩
          exact ⟨rfl, rfl, by omega⟩
        · rintro ⟨rfl, rfl, -⟩
          exact ⟨rfl, rfl⟩

theorem checkHeader_error_iff {version tag a b c d : UInt8} {body : List UInt8} :
    (∃ e, checkHeader ⟨[version, tag, a, b, c, d], rfl⟩ = .error e) ↔
      HeaderRefused (version :: tag :: a :: b :: c :: d :: body) := by
  constructor
  · rintro ⟨e, h⟩
    simp only [checkHeader] at h
    split at h
    · exact .version ‹_›
    · split at h
      · exact .tag ‹_›
      · split at h
        · exact .length ‹_› ‹_›
        · cases h
  · intro refused
    cases accepted : checkHeader ⟨[version, tag, a, b, c, d], rfl⟩ with
    | error e => exact ⟨e, rfl⟩
    | ok declared =>
      obtain ⟨t, n⟩ := declared
      obtain ⟨readable, known, rfl, below⟩ := checkHeader_ok_iff.mp accepted
      cases refused with
      | version newer => exact absurd newer (UInt8.not_lt.mpr readable)
      | tag unknown => exact absurd (known.symm.trans unknown) (Option.some_ne_none _)
      | length known' above =>
        obtain rfl := Option.some.inj (known.symm.trans known')
        omega

theorem asked_eq {ω : Type} (R : Reader ω) (w : ω) :
    R.asked w =
      match R.readExact headerLen w with
      | (.error _, _) => [headerLen]
      | (.ok head, _) =>
        match checkHeader head with
        | .error _ => [headerLen]
        | .ok (_, n) => [headerLen, n] := by
  simp only [Reader.asked, readFrame, Reader.recorded]
  rcases first : R.readExact headerLen w with ⟨_ | head, w₁⟩
  · rfl
  · cases declares : checkHeader head with
    | error e => simp only [declares, List.nil_append]
    | ok declared =>
      rcases second : R.readExact declared.2 w₁ with ⟨_ | payload, w₂⟩
      · simp only [declares, second]
        rfl
      · simp only [declares, second]
        rfl

namespace Source

variable {σ : Type}

/-- Once everything has been handed over, a read finds the end of the stream or an error. -/
def Ends (S : Source σ) (pending : σ → List UInt8) : Prop :=
  ∀ n s bytes, pending s = [] → (S.read n s).1 = .ok bytes → bytes.val = []

theorem chunked_ends : chunked.Ends List.flatten := by
  intro n chunks bytes empty read
  have none_left : chunks.dropWhile List.isEmpty = [] := by
    refine List.dropWhile_eq_nil_iff.mpr fun chunk hc => ?_
    rw [List.flatten_eq_nil_iff.mp empty chunk hc]
    rfl
  simp only [chunked, none_left, Except.ok.injEq] at read
  rw [← read]

variable {S : Source σ} {pending : σ → List UInt8}

theorem fill_short (delivers : S.Delivers pending) (ends : S.Ends pending) {reads n : Nat} {s : σ}
    (short : (pending s).length < n) : ∃ e s', S.fill reads n s = (.error e, s') := by
  induction reads generalizing n s with
  | zero =>
    cases n with
    | zero => exact absurd short (Nat.not_lt_zero _)
    | succ n => exact ⟨_, _, rfl⟩
  | succ reads ih =>
    cases n with
    | zero => exact absurd short (Nat.not_lt_zero _)
    | succ n =>
      rw [fill]
      by_cases held : pending s = []
      · have nothing := ends (n + 1) s
        rcases hread : S.read (n + 1) s with ⟨e | ⟨bytes, _⟩, s₁⟩
        · exact ⟨e, s₁, rfl⟩
        · obtain rfl : bytes = [] := nothing _ held (by rw [hread])
          exact ⟨_, s₁, rfl⟩
      · obtain ⟨⟨part, _⟩, s₁, hread, some, cut⟩ := delivers (n + 1) s (Nat.succ_pos n) held
        cases part with
        | nil => exact absurd rfl some
        | cons b bs =>
          have less : (pending s₁).length < n - bs.length := by
            rw [cut, List.length_append, List.length_cons] at short
            omega
          obtain ⟨e, s₂, stuck⟩ := ih less
          refine ⟨e, s₂, ?_⟩
          simp only [hread, stuck]

theorem readExact_short (delivers : S.Delivers pending) (ends : S.Ends pending) {n : Nat} {s : σ}
    (short : (pending s).length < n) : ∃ e s', S.readExact n s = (.error e, s') :=
  fill_short delivers ends short

end Source

/-- What one `read_frame` makes of a stream: its result, what it leaves, and what it asked for. -/
inductive Attempt : List UInt8 → Except Error Frame → List UInt8 → List Nat → Prop
  | short {s after : List UInt8} {e : Error} (h : s.length < headerLen) :
      Attempt s (.error e) after [headerLen]
  | refused {version tag a b c d : UInt8} {body : List UInt8} {e : Error}
      (h : checkHeader ⟨[version, tag, a, b, c, d], rfl⟩ = .error e) :
      Attempt (version :: tag :: a :: b :: c :: d :: body) (.error e) body [headerLen]
  | truncated {version tag a b c d : UInt8} {body after : List UInt8} {t : Tag} {n : Nat}
      {e : Error} (h : checkHeader ⟨[version, tag, a, b, c, d], rfl⟩ = .ok (t, n))
      (cut : body.length < n) :
      Attempt (version :: tag :: a :: b :: c :: d :: body) (.error e) after [headerLen, n]
  | whole {version tag a b c d : UInt8} {body : List UInt8} {t : Tag} {n : Nat}
      (h : checkHeader ⟨[version, tag, a, b, c, d], rfl⟩ = .ok (t, n)) (held : n ≤ body.length) :
      Attempt (version :: tag :: a :: b :: c :: d :: body) (.ok ⟨t, body.take n⟩) (body.drop n)
        [headerLen, n]

section

variable {σ : Type} {S : Source σ} {pending : σ → List UInt8}

theorem header_cases (s : List UInt8) :
    s.length < headerLen ∨
      ∃ version tag a b c d body, s = version :: tag :: a :: b :: c :: d :: body := by
  match s with
  | version :: tag :: a :: b :: c :: d :: body => exact .inr ⟨_, _, _, _, _, _, _, rfl⟩
  | [] | [_] | [_, _] | [_, _, _] | [_, _, _, _] | [_, _, _, _, _] => exact .inl (by simp [headerLen])

theorem readFrame_attempt (delivers : S.Delivers pending) (ends : S.Ends pending) (s : σ) :
    Attempt (pending s) (readFrame S.reader s).1 (pending (readFrame S.reader s).2)
      (S.reader.asked s) := by
  rw [asked_eq]
  simp only [readFrame, Source.reader]
  rcases header_cases (pending s) with short | ⟨version, tag, a, b, c, d, body, hs⟩
  · obtain ⟨e, s₁, stuck⟩ := Source.readExact_short delivers ends short
    rw [stuck]
    exact .short short
  · have head : pending s = [version, tag, a, b, c, d] ++ body := hs
    obtain ⟨s₁, hhead, left⟩ := Source.readExact_delivers (n := headerLen) delivers head rfl
    rw [hs, hhead]
    cases checked : checkHeader ⟨[version, tag, a, b, c, d], rfl⟩ with
    | error e =>
      simp only [checked, left]
      exact .refused checked
    | ok declared =>
      obtain ⟨t, n⟩ := declared
      simp only [checked]
      by_cases held : n ≤ body.length
      · have cut : pending s₁ = body.take n ++ body.drop n := by rw [left, List.take_append_drop]
        obtain ⟨s₂, hbody, rest⟩ :=
          Source.readExact_delivers delivers cut (List.length_take_of_le held)
        simp only [hbody, rest]
        exact .whole checked held
      · have cut : (pending s₁).length < n := by rw [left]; omega
        obtain ⟨e, s₂, stuck⟩ := Source.readExact_short delivers ends cut
        simp only [stuck]
        exact .truncated checked (by omega)

theorem begins_iff {version tag a b c d : UInt8} {body : List UInt8} {frame : Frame} :
    Begins (version :: tag :: a :: b :: c :: d :: body) frame ↔
      ∃ n, checkHeader ⟨[version, tag, a, b, c, d], rfl⟩ = .ok (frame.tag, n) ∧
        n ≤ body.length ∧ frame.payload = body.take n := by
  constructor
  · rintro ⟨readable, known, below, whole⟩
    exact ⟨_, checkHeader_ok_iff.mpr ⟨readable, known, rfl, below⟩, whole, rfl⟩
  · rintro ⟨n, accepted, whole, payload⟩
    obtain ⟨readable, known, rfl, below⟩ := checkHeader_ok_iff.mp accepted
    obtain ⟨t, bytes⟩ := frame
    obtain rfl : bytes = _ := payload
    exact .mk readable known below whole

namespace Attempt

variable {s after : List UInt8} {r : Except Error Frame} {asked : List Nat}

theorem ok_iff (attempt : Attempt s r after asked) (frame : Frame) :
    r = .ok frame ↔ Begins s frame := by
  cases attempt with
  | short h =>
    refine ⟨nofun, fun begins => ?_⟩
    cases begins
    simp only [List.length_cons, headerLen] at h
    omega
  | refused h =>
    refine ⟨nofun, fun begins => ?_⟩
    obtain ⟨n, accepted, -, -⟩ := begins_iff.mp begins
    cases h.symm.trans accepted
  | truncated h cut =>
    refine ⟨nofun, fun begins => ?_⟩
    obtain ⟨n, accepted, whole, -⟩ := begins_iff.mp begins
    cases h.symm.trans accepted
    omega
  | whole h held =>
    rw [begins_iff]
    constructor
    · rintro ⟨⟩
      exact ⟨_, h, held, rfl⟩
    · rintro ⟨n, accepted, -, payload⟩
      cases h.symm.trans accepted
      rw [← payload]

theorem consumed (attempt : Attempt s r after asked) {frame : Frame} (hr : r = .ok frame) :
    Consumed (headerLen + frame.payload.length) s after := by
  cases attempt with
  | whole h held =>
    cases hr
    rename_i version tag a b c d body t n
    refine ⟨version :: tag :: a :: b :: c :: d :: body.take n, ?_, ?_⟩
    · simp only [List.length_cons, headerLen]
      omega
    · simp only [List.cons_append, List.take_append_drop]
  | _ => cases hr

theorem header_refused (attempt : Attempt s r after asked) (refused : HeaderRefused s) :
    (∃ e, r = .error e) ∧ Consumed headerLen s after ∧ asked = [headerLen] := by
  obtain ⟨version, tag, a, b, c, d, body, rfl⟩ :
      ∃ version tag a b c d body, s = version :: tag :: a :: b :: c :: d :: body := by
    cases refused <;> exact ⟨_, _, _, _, _, _, _, rfl⟩
  obtain ⟨e, he⟩ := checkHeader_error_iff.mpr refused
  cases attempt with
  | short h =>
    simp only [List.length_cons, headerLen] at h
    omega
  | refused h => exact ⟨⟨_, rfl⟩, ⟨[version, tag, a, b, c, d], rfl, rfl⟩, rfl⟩
  | truncated h => cases h.symm.trans he
  | whole h => cases h.symm.trans he

/-- After the header a reader is asked for a payload at most, and for none above the ceiling of
the tag it came under. -/
theorem asked_le (attempt : Attempt s r after asked) :
    asked = [headerLen] ∨
      ∃ version b rest tag n, s = version :: b :: rest ∧ Tag.fromU8 b = some tag ∧
        n ≤ tag.maxPayload ∧ asked = [headerLen, n] := by
  cases attempt with
  | short => exact .inl rfl
  | refused => exact .inl rfl
  | truncated h =>
    obtain ⟨-, known, -, below⟩ := checkHeader_ok_iff.mp h
    exact .inr ⟨_, _, _, _, _, rfl, known, below, rfl⟩
  | whole h =>
    obtain ⟨-, known, -, below⟩ := checkHeader_ok_iff.mp h
    exact .inr ⟨_, _, _, _, _, rfl, known, below, rfl⟩

end Attempt

/-- `read_frame` accepts the frames of the grammar, takes their bytes and no more, and asks for
nothing after a header it refuses. -/
theorem readFrame_grammar (delivers : S.Delivers pending) (ends : S.Ends pending) (s : σ) :
    (∀ frame, (readFrame S.reader s).1 = .ok frame ↔ Begins (pending s) frame) ∧
    (∀ frame, (readFrame S.reader s).1 = .ok frame →
      Consumed (headerLen + frame.payload.length) (pending s)
        (pending (readFrame S.reader s).2)) ∧
    (HeaderRefused (pending s) →
      (∃ e, (readFrame S.reader s).1 = .error e) ∧
      Consumed headerLen (pending s) (pending (readFrame S.reader s).2) ∧
      S.reader.asked s = [headerLen]) ∧
    (S.reader.asked s = [headerLen] ∨
      ∃ version b rest tag n, pending s = version :: b :: rest ∧ Tag.fromU8 b = some tag ∧
        n ≤ tag.maxPayload ∧ S.reader.asked s = [headerLen, n]) := by
  have attempt := readFrame_attempt delivers ends s
  exact ⟨attempt.ok_iff, fun _ => attempt.consumed, attempt.header_refused, attempt.asked_le⟩

def threePieces : List (List UInt8) := [[1, 4, 0], [0, 0, 2, 7], [8, 9]]

theorem threePieces_grammar :
    (∀ frame, (readFrame Source.chunked.reader threePieces).1 = .ok frame ↔
      Begins threePieces.flatten frame) ∧
    (∀ frame, (readFrame Source.chunked.reader threePieces).1 = .ok frame →
      Consumed (headerLen + frame.payload.length) threePieces.flatten
        (readFrame Source.chunked.reader threePieces).2.flatten) ∧
    (HeaderRefused threePieces.flatten →
      (∃ e, (readFrame Source.chunked.reader threePieces).1 = .error e) ∧
      Consumed headerLen threePieces.flatten
        (readFrame Source.chunked.reader threePieces).2.flatten ∧
      Source.chunked.reader.asked threePieces = [headerLen]) ∧
    (Source.chunked.reader.asked threePieces = [headerLen] ∨
      ∃ version b rest tag n, threePieces.flatten = version :: b :: rest ∧
        Tag.fromU8 b = some tag ∧ n ≤ tag.maxPayload ∧
        Source.chunked.reader.asked threePieces = [headerLen, n]) :=
  readFrame_grammar Source.chunked_delivers Source.chunked_ends threePieces

end

end TricoreSdk
