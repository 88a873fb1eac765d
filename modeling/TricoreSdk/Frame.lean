import Mathlib.Algebra.Group.Int.Defs
import Mathlib.Algebra.Group.Nat.Defs
import Mathlib.Data.List.Basic
import Mathlib.Tactic.Common
import TricoreSdk.Error

/-! The frame layout (`frame.rs`): `version: u8 | tag: u8 | payload_len: u32
(big-endian) | payload`. Ceilings are enforced in both directions, and on the
way in before a payload byte is asked for. -/

namespace TricoreSdk

def frameVersion : UInt8 := 1

def headerLen : Nat := 6

/-- Payload ceiling of `REQUEST` and `RESPONSE` frames. -/
def maxDataPayload : Nat := 16 * 1024 * 1024

def maxControlPayload : Nat := 64 * 1024

inductive Tag where
  | hello
  | auth
  | request
  | response
  | ping
  | pong
  | error
  | close
  | helloOk
  | authOk
  | bye
  | cancel
  | cancelOk
  deriving DecidableEq, Repr

namespace Tag

def asU8 : Tag → UInt8
  | hello => 0
  | auth => 1
  | request => 2
  | response => 3
  | ping => 4
  | pong => 5
  | error => 6
  | close => 7
  | helloOk => 8
  | authOk => 9
  | bye => 10
  | cancel => 11
  | cancelOk => 12

def fromU8 (b : UInt8) : Option Tag :=
  match b.toNat with
  | 0 => some hello
  | 1 => some auth
  | 2 => some request
  | 3 => some response
  | 4 => some ping
  | 5 => some pong
  | 6 => some error
  | 7 => some close
  | 8 => some helloOk
  | 9 => some authOk
  | 10 => some bye
  | 11 => some cancel
  | 12 => some cancelOk
  | _ => none

def maxPayload : Tag → Nat
  | request | response => maxDataPayload
  | _ => maxControlPayload

/-- `{tag:?}`. -/
def debug : Tag → String
  | hello => "Hello"
  | auth => "Auth"
  | request => "Request"
  | response => "Response"
  | ping => "Ping"
  | pong => "Pong"
  | error => "Error"
  | close => "Close"
  | helloOk => "HelloOk"
  | authOk => "AuthOk"
  | bye => "Bye"
  | cancel => "Cancel"
  | cancelOk => "CancelOk"

@[simp] theorem fromU8_asU8 (t : Tag) : fromU8 t.asU8 = some t := by
  cases t <;> rfl

theorem maxPayload_le (t : Tag) : t.maxPayload ≤ maxDataPayload := by
  cases t <;> decide

end Tag

structure Frame where
  tag : Tag
  payload : List UInt8
  deriving DecidableEq

/-- `u32::to_be_bytes`. -/
def toBeBytes (n : UInt32) : List UInt8 :=
  [UInt8.ofNat (n.toNat / 2 ^ 24), UInt8.ofNat (n.toNat / 2 ^ 16),
    UInt8.ofNat (n.toNat / 2 ^ 8), UInt8.ofNat n.toNat]

/-- `u32::from_be_bytes`. -/
def fromBeBytes (a b c d : UInt8) : UInt32 :=
  UInt32.ofNat (a.toNat * 2 ^ 24 + b.toNat * 2 ^ 16 + c.toNat * 2 ^ 8 + d.toNat)

def encode (tag : Tag) (payload : List UInt8) : Except Error (List UInt8) :=
  if tag.maxPayload < payload.length then
    .error (Error.new .protocol
      ("refusing to send a " ++ toString payload.length ++ "-byte " ++ tag.debug ++
        " frame: the protocol caps it at " ++ toString tag.maxPayload ++ " bytes"))
  else
    .ok (frameVersion :: tag.asU8 :: (toBeBytes (UInt32.ofNat payload.length) ++ payload))

/-- What `write_frame` needs of a `std::io::Write`. -/
structure Writer (ω : Type) where
  writeAll : List UInt8 → ω → Option IoError × ω
  flush : ω → Option IoError × ω

/-- What `read_frame` needs of a `std::io::Read`: a call that succeeds has
filled the whole buffer it was given. -/
structure Reader (ω : Type) where
  readExact : (n : Nat) → ω → Except IoError { bytes : List UInt8 // bytes.length = n } × ω

def writeFrame {ω : Type} (W : Writer ω) (tag : Tag) (payload : List UInt8) (w : ω) :
    Except Error Unit × ω :=
  match encode tag payload with
  | .error e => (.error e, w)
  | .ok bytes =>
    match W.writeAll bytes w with
    | (some e, w) => (.error (Error.fromIo e), w)
    | (none, w) =>
      match W.flush w with
      | (some e, w) => (.error (Error.fromIo e), w)
      | (none, w) => (.ok (), w)

/-- The checks on a header: the tag and the payload length, or the refusal. -/
def checkHeader : (head : { bytes : List UInt8 // bytes.length = headerLen }) →
    Except Error (Tag × Nat)
  | ⟨[version, tag, a, b, c, d], _⟩ =>
    if frameVersion < version then
      .error (Error.new .protocol ("frame header version " ++ toString version ++
        " is newer than this client can read (max " ++ toString frameVersion ++ ")"))
    else
      match Tag.fromU8 tag with
      | none => .error (Error.new .protocol ("unknown frame tag " ++ toString tag))
      | some tag =>
        if tag.maxPayload < (fromBeBytes a b c d).toNat then
          .error (Error.new .protocol (tag.debug ++ " frame declares a " ++
            toString (fromBeBytes a b c d).toNat ++ "-byte payload, above its " ++
            toString tag.maxPayload ++ "-byte limit"))
        else .ok (tag, (fromBeBytes a b c d).toNat)

/-- Read one frame, validating version, tag and size before the payload. -/
def readFrame {ω : Type} (R : Reader ω) (w : ω) : Except Error Frame × ω :=
  match R.readExact headerLen w with
  | (.error e, w) => (.error (Error.fromIo e), w)
  | (.ok head, w) =>
    match checkHeader head with
    | .error e => (.error e, w)
    | .ok (tag, len) =>
      match R.readExact len w with
      | (.error e, w) => (.error (Error.fromIo e), w)
      | (.ok payload, w) => (.ok ⟨tag, payload.val⟩, w)

theorem encode_ok {tag : Tag} {payload bytes : List UInt8} (h : encode tag payload = .ok bytes) :
    payload.length ≤ tag.maxPayload ∧
      bytes = frameVersion :: tag.asU8 :: (toBeBytes (UInt32.ofNat payload.length) ++ payload) := by
  unfold encode at h
  split at h
  · cases h
  · exact ⟨by omega, by cases h; rfl⟩

theorem encode_of_le {tag : Tag} {payload : List UInt8} (h : payload.length ≤ tag.maxPayload) :
    encode tag payload =
      .ok (frameVersion :: tag.asU8 :: (toBeBytes (UInt32.ofNat payload.length) ++ payload)) :=
  if_neg (by omega)

theorem encode_error {tag : Tag} {payload : List UInt8} {e : Error}
    (h : encode tag payload = .error e) :
    tag.maxPayload < payload.length ∧ e.OnWire := by
  unfold encode at h
  split at h
  · cases h
    exact ⟨by assumption, Error.onWire_protocol _⟩
  · cases h

theorem checkHeader_error {head : { bytes : List UInt8 // bytes.length = headerLen }} {e : Error}
    (h : checkHeader head = .error e) : e.OnWire := by
  unfold checkHeader at h
  repeat' split at h
  all_goals cases h
  all_goals exact Error.onWire_protocol _

theorem writeFrame_onWire {ω : Type} {W : Writer ω} {tag : Tag} {payload : List UInt8}
    {w w' : ω} {e : Error} (h : writeFrame W tag payload w = (.error e, w')) : e.OnWire := by
  unfold writeFrame at h
  split at h
  · rename_i e' he
    cases h
    exact (encode_error he).2
  · repeat' split at h
    all_goals cases h
    all_goals exact Error.onWire_fromIo _

theorem readFrame_onWire {ω : Type} {R : Reader ω} {w w' : ω} {e : Error}
    (h : readFrame R w = (.error e, w')) : e.OnWire := by
  unfold readFrame at h
  split at h
  · cases h
    exact Error.onWire_fromIo _
  · split at h
    · rename_i e' he
      cases h
      exact checkHeader_error he
    · split at h
      · cases h
        exact Error.onWire_fromIo _
      · cases h

theorem fromBeBytes_toBeBytes (n : UInt32) :
    fromBeBytes (UInt8.ofNat (n.toNat / 2 ^ 24)) (UInt8.ofNat (n.toNat / 2 ^ 16))
      (UInt8.ofNat (n.toNat / 2 ^ 8)) (UInt8.ofNat n.toNat) = n := by
  have hn : n.toNat < 2 ^ 32 := n.toNat_lt
  apply UInt32.toNat_inj.mp
  simp only [fromBeBytes, UInt32.toNat_ofNat', UInt8.toNat_ofNat']
  omega

end TricoreSdk
