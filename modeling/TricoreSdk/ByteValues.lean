import TricoreSdk.Lib.Codec
import TricoreSdk.Typed

/-! Byte values on the wire, read back (`wire.rs`, and the replies of `cache.rs` that carry one
value or several). -/

namespace TricoreSdk
open Codec

namespace Value

/-- `Value::as_u64`. -/
def asU64 : Value → Option UInt64
  | number (.posInt n) => some n
  | _ => none

def isNull : Value → Bool
  | null => true
  | _ => false

def kindOf : Value → String
  | null => "null"
  | bool _ => "a boolean"
  | number _ => "a number"
  | string _ => "a string"
  | array _ => "an array"
  | object _ => "an object"

theorem isNull_iff (v : Value) : v.isNull = true ↔ v = null := by
  cases v <;> simp [isNull]

end Value

structure CachePair where
  field : List UInt8
  value : List UInt8
  deriving DecidableEq

def CachePair.toWire (pair : CachePair) : Value := .array [byteList pair.field, byteList pair.value]

section

variable (F : FloatFormat)

/-- The bytes from an index on; what is not a byte is refused rather than masked. -/
def decodeBytesFrom : (index : Nat) → List Value → Except Error (List UInt8)
  | _, [] => .ok []
  | index, item :: items =>
    match item.asU64.filter fun n => n ≤ 255 with
    | none => .error (Error.protocol ("byte " ++ toString index ++ " of the value is " ++
        String.ofList (item.toText F) ++ ", which is not a number in 0..=255"))
    | some n =>
      match decodeBytesFrom (index + 1) items with
      | .error e => .error e
      | .ok bytes => .ok (n.toUInt8 :: bytes)

def decodeByteList : Value → Except Error (List UInt8)
  | .array items => decodeBytesFrom F 0 items
  | value => .error (Error.protocol ("expected an array of bytes, got " ++ value.kindOf))

def decodeByteLists : Value → Except Error (List (List UInt8))
  | .array items => items.mapM (decodeByteList F)
  | value => .error (Error.protocol ("expected an array of byte arrays, got " ++ value.kindOf))

/-- Decode a `[field, value]` pair. -/
def decodePair : Value → Except Error (List UInt8 × List UInt8)
  | .array [field, value] => do return (← decodeByteList F field, ← decodeByteList F value)
  | _ => .error (Error.protocol "expected a [field, value] pair")

def optionalBytes (value : Option (List UInt8)) : Value := value.elim .null byteList

/-- A `null` is none. -/
def decodeOptional (item : Value) : Except Error (Option (List UInt8)) :=
  if item.isNull then .ok none else (decodeByteList F item).map some

/-- The payload of a `CacheValue`, where a null is a miss. -/
def readCacheValue (what : String) (r : Response) : Except Error (Option (List UInt8)) := do
  decodeOptional F (← r.expect "CacheValue" what)

/-- The payload of `CacheValues`: one value per position, null where there is none. -/
def readCacheValues (what : String) (r : Response) : Except Error (List (Option (List UInt8))) := do
  match ← r.expect "CacheValues" what with
  | .array items => items.mapM (decodeOptional F)
  | _ => .error (Error.protocol ("malformed " ++ what ++ " payload: not a list"))

/-! ## What is read is what was written -/

theorem byte_iff (item : Value) (b : UInt8) :
    ((item.asU64.filter fun n => n ≤ 255).map UInt64.toUInt8 = some b) ↔
      item = .ofU64 b.toUInt64 := by
  constructor
  · intro read
    obtain ⟨n, held, rfl⟩ := Option.map_eq_some_iff.mp read
    obtain ⟨at_item, small⟩ := Option.filter_eq_some_iff.mp held
    obtain rfl : item = .ofU64 n := by
      unfold Value.asU64 at at_item
      split at at_item
      · cases at_item
        rfl
      · cases at_item
    have wide : n.toUInt8.toUInt64 = n := by
      have : n.toNat ≤ 255 := UInt64.le_iff_toNat_le.mp (of_decide_eq_true small)
      apply UInt64.toNat_inj.mp
      simp only [UInt8.toNat_toUInt64, UInt64.toNat_toUInt8]
      omega
    rw [wide]
  · rintro rfl
    have small : b.toUInt64 ≤ 255 := by
      have := b.toNat_lt
      rw [UInt64.le_iff_toNat_le, UInt8.toNat_toUInt64]
      change b.toNat ≤ 255
      omega
    simp [Value.asU64, Value.ofU64, Option.filter_some, small]

theorem decodeBytesFrom_eq_ok_iff (index : Nat) (items : List Value) (bytes : List UInt8) :
    decodeBytesFrom F index items = .ok bytes ↔
      items = bytes.map fun b => Value.ofU64 b.toUInt64 := by
  induction items generalizing index bytes with
  | nil => cases bytes <;> simp [decodeBytesFrom]
  | cons item items ih =>
    rw [decodeBytesFrom]
    cases bytes with
    | nil =>
      refine ⟨fun read => ?_, nofun⟩
      split at read
      · cases read
      · split at read <;> cases read
    | cons b bytes =>
      rw [List.map_cons, List.cons.injEq, ← byte_iff, ← ih (index + 1)]
      cases item.asU64.filter fun n => n ≤ 255 with
      | none => exact ⟨nofun, nofun⟩
      | some n =>
        dsimp only
        cases decodeBytesFrom F (index + 1) items with
        | error e => exact ⟨nofun, nofun⟩
        | ok rest =>
          rw [Option.map_some, Except.ok.injEq, List.cons.injEq, Option.some.injEq,
            Except.ok.injEq]

theorem decodeByteList_exact : Exact (decodeByteList F) byteList := by
  intro v bytes
  cases v with
  | array items =>
    rw [decodeByteList, decodeBytesFrom_eq_ok_iff, byteList, Value.array.injEq]
  | _ => exact ⟨nofun, nofun⟩

theorem decodeByteLists_exact :
    Exact (decodeByteLists F) fun lists => .array (lists.map byteList) := by
  intro v lists
  cases v with
  | array items =>
    rw [decodeByteLists, Value.array.injEq]
    exact (decodeByteList_exact F).mapM items lists
  | _ => exact ⟨nofun, nofun⟩

theorem decodeByteLists_iff_byteLists (v : Value) (lists : List (List UInt8)) (name : String) :
    decodeByteLists F v = .ok lists ∧ lists ≠ [] ↔ byteLists lists name = .ok v := by
  rw [decodeByteLists_exact F v lists, byteLists]
  cases lists with
  | nil => simp
  | cons list lists => simp [eq_comm]

theorem decodePair_exact (v : Value) (pair : CachePair) :
    decodePair F v = .ok (pair.field, pair.value) ↔ v = pair.toWire := by
  have both := (decodeByteList_exact F).both (decodeByteList_exact F)
  unfold decodePair
  split
  · rename_i field value
    rw [CachePair.toWire, both (field, value) (pair.field, pair.value)]
    simp
  · rename_i other
    refine ⟨nofun, fun made => absurd made (other _ _)⟩

theorem decodeOptional_exact : Exact (decodeOptional F) optionalBytes :=
  (decodeByteList_exact F).optional Value.isNull_iff fun _ => nofun

theorem optionalBytes_eq_null_iff (value : Option (List UInt8)) :
    optionalBytes value = .null ↔ value = none := by
  cases value with
  | none => exact ⟨fun _ => rfl, fun _ => rfl⟩
  | some bytes => exact ⟨nofun, nofun⟩

theorem readCacheValue_eq_ok_iff (what : String) (r : Response) (value : Option (List UInt8)) :
    readCacheValue F what r = .ok value ↔ r.kind = "CacheValue" ∧ r.data = optionalBytes value := by
  rw [← decodeOptional_exact F r.data value, readCacheValue, Response.expect]
  by_cases kind : r.kind = "CacheValue"
  · rw [if_pos kind]
    exact ⟨fun read => ⟨kind, read⟩, fun read => read.2⟩
  · rw [if_neg kind]
    exact ⟨nofun, fun read => absurd read.1 kind⟩

theorem readCacheValues_eq_ok_iff (what : String) (r : Response)
    (values : List (Option (List UInt8))) :
    readCacheValues F what r = .ok values ↔
      r.kind = "CacheValues" ∧ r.data = .array (values.map optionalBytes) := by
  rw [readCacheValues, Response.expect]
  by_cases kind : r.kind = "CacheValues"
  · rw [if_pos kind]
    simp only [kind, true_and]
    change (match r.data with
      | .array items => items.mapM (decodeOptional F)
      | _ => _) = _ ↔ _
    cases r.data with
    | array items =>
      rw [Value.array.injEq]
      exact (decodeOptional_exact F).mapM items values
    | _ => exact ⟨nofun, nofun⟩
  · rw [if_neg kind]
    exact ⟨nofun, fun read => absurd read.1 kind⟩

/-! ## The errors of the readers -/

theorem decodeBytesFrom_error {index : Nat} {items : List Value} {e : Error}
    (h : decodeBytesFrom F index items = .error e) : ∃ message, e = Error.protocol message := by
  induction items generalizing index with
  | nil => cases h
  | cons item items ih =>
    rw [decodeBytesFrom] at h
    split at h
    · cases h
      exact ⟨_, rfl⟩
    · split at h
      · rename_i rest
        cases h
        exact ih rest
      · cases h

theorem decodeByteList_error {v : Value} {e : Error} (h : decodeByteList F v = .error e) :
    ∃ message, e = Error.protocol message := by
  unfold decodeByteList at h
  split at h
  · exact decodeBytesFrom_error F h
  · cases h
    exact ⟨_, rfl⟩

theorem decodeOptional_error {v : Value} {e : Error} (h : decodeOptional F v = .error e) :
    ∃ message, e = Error.protocol message := by
  unfold decodeOptional at h
  split at h
  · cases h
  · cases read : decodeByteList F v with
    | error e' =>
      rw [read] at h
      cases h
      exact decodeByteList_error F read
    | ok bytes =>
      rw [read] at h
      cases h

theorem readCacheValue_error {what : String} {r : Response} {e : Error}
    (h : readCacheValue F what r = .error e) : ∃ message, e = Error.protocol message := by
  unfold readCacheValue at h
  cases payload : r.expect "CacheValue" what with
  | error e' =>
    rw [payload] at h
    cases h
    exact Response.expect_error payload
  | ok data =>
    rw [payload] at h
    exact decodeOptional_error F h

theorem readCacheValues_error {what : String} {r : Response} {e : Error}
    (h : readCacheValues F what r = .error e) : ∃ message, e = Error.protocol message := by
  unfold readCacheValues at h
  cases payload : r.expect "CacheValues" what with
  | error e' =>
    rw [payload] at h
    cases h
    exact Response.expect_error payload
  | ok data =>
    rw [payload] at h
    cases data with
    | array items =>
      obtain ⟨item, -, failed⟩ := mapM_error h
      exact decodeOptional_error F failed
    | _ =>
      cases h
      exact ⟨_, rfl⟩

end

/-! ## The methods -/

section

variable {ω : Type} (H : Host ω)

/-- Read a `CacheValue`, where a null payload is a miss. -/
def cacheValue (op : Value) (what : String) : TypedMethod (Option (List UInt8)) where
  op := .ok op
  decode := readCacheValue H.serde.floats what
  refused := TypedMethod.unrefused _
  misread _ _ := readCacheValue_error H.serde.floats

/-- Read `CacheValues`: one value per position, null where there is none. -/
def cacheValues (op : Value) (what : String) : TypedMethod (List (Option (List UInt8))) where
  op := .ok op
  decode := readCacheValues H.serde.floats what
  refused := TypedMethod.unrefused _
  misread _ _ := readCacheValues_error H.serde.floats

end

theorem byteValues_exact {ω : Type} (H : Host ω) (F : FloatFormat) :
    (∀ v bytes, decodeByteList F v = .ok bytes ↔ v = byteList bytes) ∧
    (∀ v lists, decodeByteLists F v = .ok lists ↔ v = .array (lists.map byteList)) ∧
    (∀ v lists name,
      decodeByteLists F v = .ok lists ∧ lists ≠ [] ↔ byteLists lists name = .ok v) ∧
    (∀ v pair, decodePair F v = .ok (pair.field, pair.value) ↔ v = CachePair.toWire pair) ∧
    (∀ op what r value, (cacheValue H op what).decode r = .ok value ↔
      r.kind = "CacheValue" ∧ r.data = optionalBytes value) ∧
    (∀ op what r values, (cacheValues H op what).decode r = .ok values ↔
      r.kind = "CacheValues" ∧ r.data = .array (values.map optionalBytes)) ∧
    ∀ value, optionalBytes value = .null ↔ value = none :=
  ⟨decodeByteList_exact F, decodeByteLists_exact F, decodeByteLists_iff_byteLists F,
    decodePair_exact F, fun _ => readCacheValue_eq_ok_iff H.serde.floats,
    fun _ => readCacheValues_eq_ok_iff H.serde.floats, optionalBytes_eq_null_iff⟩

end TricoreSdk
