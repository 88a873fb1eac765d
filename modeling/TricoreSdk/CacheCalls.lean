import TricoreSdk.HexText
import TricoreSdk.Stubs

/-! The cache (`cache.rs`): the operations on values, counters, lists, sets, hashes, streams, sorted
sets, locks, bitmaps and channels, with their arguments and their answers. -/

namespace TricoreSdk
open Shape Written

/-! ## Arguments -/

inductive SetCondition where
  | always
  | ifAbsent
  | ifPresent
  deriving DecidableEq

inductive CacheExpiry where
  | keep
  | set (ttl : Duration)
  | clear

inductive ListEnd where
  | left
  | right
  deriving DecidableEq

inductive BitOpKind where
  | and
  | or
  | xor
  | not
  deriving DecidableEq

structure ScoredMember where
  score : F64
  member : List UInt8

/-- One end of a score range. -/
structure ScoreBound where
  value : F64
  exclusive : Bool

namespace ScoreBound

/-- `f64::MAX`. -/
def maxF64 : F64 := ⟨0x7fefffffffffffff⟩

def inclusive (value : F64) : ScoreBound := ⟨value, false⟩

/-- `ScoreBound::exclusive`. -/
def above (value : F64) : ScoreBound := ⟨value, true⟩

def lowest : ScoreBound := inclusive ⟨maxF64.bits ||| (1 <<< 63)⟩

def highest : ScoreBound := inclusive maxF64

end ScoreBound

/-- What becomes of a deadline, as it is written: in milliseconds. -/
inductive WrittenExpiry where
  | keep
  | set (ttlMs : I64)
  | clear
  deriving DecidableEq

/-- `CacheExpiry::to_wire`. -/
def CacheExpiry.written : CacheExpiry → WrittenExpiry
  | keep => .keep
  | set ttl => .set (Cache.millis ttl)
  | clear => .clear

namespace WrittenExpiry

def ttlBody : Coded Value I64 := (Fields.one "ttl_ms" integer).coded Value.format (by decide)

def toValue : WrittenExpiry → Value
  | keep => .string "Keep"
  | set ttl => Value.ofFields [("Set", ttlBody.write ttl)]
  | clear => .string "Clear"

def fromValue : Value → Option WrittenExpiry
  | .string name => if name = "Keep" then some keep else if name = "Clear" then some clear else none
  | .object [(name, body)] => if name = "Set" then (ttlBody.read body).map set else none
  | _ => none

theorem fromValue_toValue (e : WrittenExpiry) : fromValue e.toValue = some e := by
  cases e with
  | keep => rfl
  | set ttl =>
    change (if "Set" = "Set" then (ttlBody.read (ttlBody.write ttl)).map set else none) = _
    rw [if_pos rfl, ttlBody.back, Option.map_some]
  | clear => rfl

def coded : Coded Value WrittenExpiry := ⟨toValue, fromValue, fromValue_toValue⟩

end WrittenExpiry

namespace Written

def condition : Coded Value SetCondition :=
  variant (fun | .always => "Always" | .ifAbsent => "IfAbsent" | .ifPresent => "IfPresent")
    [.always, .ifAbsent, .ifPresent] (fun c => by cases c <;> decide) (by decide)

def listEnd : Coded Value ListEnd :=
  variant (fun | .left => "Left" | .right => "Right") [.left, .right]
    (fun e => by cases e <;> decide) (by decide)

def bitOp : Coded Value BitOpKind :=
  variant (fun | .and => "And" | .or => "Or" | .xor => "Xor" | .not => "Not")
    [.and, .or, .xor, .not] (fun k => by cases k <;> decide) (by decide)

/-- `[field, value]`. -/
def pair : Coded Value CachePair where
  write := CachePair.toWire
  read
    | .array [field, value] => do return ⟨← field.asBytes, ← value.asBytes⟩
    | _ => none
  back p := by
    change (do return (⟨← (byteList p.field).asBytes, ← (byteList p.value).asBytes⟩ : CachePair)) = _
    simp [Value.asBytes_byteList]

def entry : Coded Value CacheEntry :=
  (((Fields.one "key" text).and (.one "value" bytes)).through (fun e => ⟨e.1, e.2⟩)
    (fun e => (e.key, e.value)) fun _ => rfl).coded Value.format (by decide)

def scored : Coded Value (Finite × List UInt8) :=
  ((Fields.one "score" finite).and (.one "member" bytes)).coded Value.format (by decide)

/-- A score and whether it is left out itself. -/
def bound : Coded Value (Finite × Bool) :=
  ((Fields.one "value" finite).and (.one "exclusive" flag)).coded Value.format (by decide)

/-- `[start, end]`. -/
def couple {α : Type} (c : Coded Value α) : Coded Value (α × α) where
  write p := .array [c.write p.1, c.write p.2]
  read
    | .array [a, b] => do return (← c.read a, ← c.read b)
    | _ => none
  back p := by
    change (do return (← c.read (c.write p.1), ← c.read (c.write p.2))) = _
    simp [c.back]

end Written

/-- `score_value`: a score that is no number is refused by its name. -/
def scoreValue (score : F64) (name : String) : Except Error Finite :=
  if h : score.isFinite = true then .ok ⟨score, h⟩
  else
    .error (Error.invalid
      ("`" ++ name ++ "` must be a finite number, got " ++ score.nonFiniteText))

theorem scoreValue_refuses (score : F64) (name : String) : RefusesInvalid (scoreValue score name) := by
  intro e h
  unfold scoreValue at h
  split at h
  · cases h
  · cases h
    exact ⟨_, rfl⟩

def nonEmpty {α : Type} (items : List α) (name : String) : Except Error (List α) :=
  if items.isEmpty then .error (Error.invalid ("`" ++ name ++ "` must not be empty"))
  else .ok items

theorem nonEmpty_refuses {α : Type} (items : List α) (name : String) :
    RefusesInvalid (nonEmpty items name) := by
  intro e h
  unfold nonEmpty at h
  split at h
  · cases h
    exact ⟨_, rfl⟩
  · cases h

/-! ## Answers -/

structure CacheKeyInfo where
  key : String
  ttlMs : Option Int
  bytes : Int

structure StreamEntry where
  id : String
  fields : List CachePair

structure ZAddCounts where
  added : Int
  updated : Int

structure CacheLock where
  acquired : Bool
  token : Option UInt64
  holder : Option String
  expiresAtMs : Option Int

structure CacheLockRenewal where
  renewed : Bool
  token : Option UInt64
  expiresAtMs : Option Int

structure TrimCounts where
  length : Int
  removed : Int

structure ExpireAtOutcome where
  updated : Bool
  deleted : Bool

structure CacheMemoryStats where
  enabled : Bool
  maxBytes : Option UInt64
  lowWaterBytes : Option UInt64
  residentBytes : Option UInt64
  measurements : UInt64

structure CacheEvictionStats where
  policy : String
  evicted : UInt64

structure CacheStats where
  hits : UInt64
  misses : UInt64
  hitRatio : Option F64
  memory : CacheMemoryStats
  eviction : CacheEvictionStats

structure NamespaceLimit where
  space : String
  keys : UInt64
  bytes : UInt64
  maxKeys : Option UInt64
  maxBytes : Option UInt64

structure ChannelMessage where
  id : UInt64
  channel : String
  message : String
  atMs : Int

structure PolledMessages where
  messages : List ChannelMessage
  next : UInt64

namespace Spoken

def cacheKeyInfo : Heard Value CacheKeyInfo :=
  record <| ((required "key" text).and <| (maybe "ttl_ms" integer).and <|
    field "bytes" integer 0).image fun i => ⟨i.1, i.2.1, i.2.2⟩

def zAddCounts : Heard Value ZAddCounts :=
  record <| ((field "added" integer 0).and <| field "updated" integer 0).image fun c => ⟨c.1, c.2⟩

def warmCounts : Heard Value WarmCounts :=
  record <| ((field "written" integer 0).and <| field "alreadyCached" integer 0).image
    fun c => ⟨c.1, c.2⟩

def cacheLock : Heard Value CacheLock :=
  record <| ((field "acquired" flag false).and <| (maybe "token" count).and <|
    (maybe "holder" text).and <| maybe "expiresAtMs" integer).image
      fun l => ⟨l.1, l.2.1, l.2.2.1, l.2.2.2⟩

def cacheLockRenewal : Heard Value CacheLockRenewal :=
  record <| ((field "renewed" flag false).and <| (maybe "token" count).and <|
    maybe "expiresAtMs" integer).image fun l => ⟨l.1, l.2.1, l.2.2⟩

def trimCounts : Heard Value TrimCounts :=
  record <| ((field "length" integer 0).and <| field "removed" integer 0).image fun c => ⟨c.1, c.2⟩

def expireAtOutcome : Heard Value ExpireAtOutcome :=
  record <| ((field "updated" flag false).and <| field "deleted" flag false).image
    fun o => ⟨o.1, o.2⟩

def cacheMemoryStats : Heard Value CacheMemoryStats :=
  record <| ((field "enabled" flag false).and <| (maybe "maxBytes" count).and <|
    (maybe "lowWaterBytes" count).and <| (maybe "residentBytes" count).and <|
    field "measurements" count 0).image
      fun (enabled, max, low, resident, measurements) => ⟨enabled, max, low, resident, measurements⟩

def cacheEvictionStats : Heard Value CacheEvictionStats :=
  record <| ((field "policy" text "").and <| field "evicted" count 0).image fun s => ⟨s.1, s.2⟩

def cacheStats : Heard Value CacheStats :=
  record <| ((field "hits" count 0).and <| (field "misses" count 0).and <|
    (maybe "hitRatio" float).and <|
    (field "memory" cacheMemoryStats ⟨false, none, none, none, 0⟩).and <|
    field "eviction" cacheEvictionStats ⟨"", 0⟩).image
      fun (hits, misses, ratio, memory, eviction) => ⟨hits, misses, ratio, memory, eviction⟩

def namespaceLimit : Heard Value NamespaceLimit :=
  record <| ((field "namespace" text "").and <| (field "keys" count 0).and <|
    (field "bytes" count 0).and <| (maybe "max_keys" count).and <| maybe "max_bytes" count).image
      fun (space, keys, bytes, maxKeys, maxBytes) => ⟨space, keys, bytes, maxKeys, maxBytes⟩

def channelMessage : Heard Value ChannelMessage :=
  record <| ((field "id" count 0).and <| (field "channel" text "").and <|
    (field "message" text "").and <| field "at_ms" integer 0).image
      fun m => ⟨m.1, m.2.1, m.2.2.1, m.2.2.2⟩

def polledMessages : Heard Value PolledMessages :=
  record <| ((field "messages" (listOf channelMessage) []).and <| field "next" count 0).image
    fun p => ⟨p.1, p.2⟩

end Spoken

/-! ## Payloads that carry bytes -/

namespace Payload

/-- A `CacheValue`, where a null is a miss. -/
def value : Payload (Option (List UInt8)) where
  kind := "CacheValue"
  means v bytes := v = optionalBytes bytes
  read S := decodeOptional S.floats
  reads {S v b} said := (decodeOptional_exact S.floats v b).mpr said
  misread {S _ _} := decodeOptional_error S.floats

/-- `CacheValues`: one value per position, null where there is none. -/
def values (what : String) : Payload (List (Option (List UInt8))) where
  kind := "CacheValues"
  means v items := v = .array (items.map optionalBytes)
  read S
    | .array items => items.mapM (decodeOptional S.floats)
    | _ => .error (Error.protocol ("malformed " ++ what ++ " payload: not a list"))
  reads := by
    rintro S v items rfl
    exact ((decodeOptional_exact S.floats).mapM _ items).mpr rfl
  misread := by
    intro S v e h
    split at h
    · obtain ⟨item, -, failed⟩ := Codec.mapM_error h
      exact decodeOptional_error S.floats failed
    · cases h
      exact ⟨_, rfl⟩

theorem decodeByteLists_error {F : FloatFormat} {v : Value} {e : Error}
    (h : decodeByteLists F v = .error e) : ∃ message, e = Error.protocol message := by
  unfold decodeByteLists at h
  split at h
  · obtain ⟨item, -, failed⟩ := Codec.mapM_error h
    exact decodeByteList_error F failed
  · cases h
    exact ⟨_, rfl⟩

/-- Byte strings under a key of a `Json` payload. -/
def byteStrings (key : String) : Payload (List (List UInt8)) where
  kind := "Json"
  means v lists := v.get key = some (.array (lists.map byteList))
  read S v := decodeByteLists S.floats ((v.get key).getD .null)
  reads {S v lists} said := by
    rw [said, Option.getD_some]
    exact (decodeByteLists_exact S.floats _ lists).mpr rfl
  misread := decodeByteLists_error

theorem decodePair_error {F : FloatFormat} {v : Value} {e : Error} (h : decodePair F v = .error e) :
    ∃ message, e = Error.protocol message := by
  unfold decodePair at h
  split at h
  · rename_i field value
    cases first : decodeByteList F field with
    | error e' =>
      rw [first] at h
      cases h
      exact decodeByteList_error F first
    | ok bytes =>
      cases second : decodeByteList F value with
      | error e' =>
        rw [first, second] at h
        cases h
        exact decodeByteList_error F second
      | ok bytes' =>
        rw [first, second] at h
        cases h
  · cases h
    exact ⟨_, rfl⟩

/-- `[field, value]` pairs, each as a `CachePair`. -/
def decodePairs (F : FloatFormat) (items : List Value) : Except Error (List CachePair) :=
  items.mapM fun item => (decodePair F item).map fun p => ⟨p.1, p.2⟩

theorem decodePairs_written (F : FloatFormat) (pairs : List CachePair) :
    decodePairs F (pairs.map CachePair.toWire) = .ok pairs := by
  induction pairs with
  | nil => rfl
  | cons p pairs ih =>
    have first : decodePair F p.toWire = .ok (p.field, p.value) :=
      (decodePair_exact F _ p).mpr rfl
    rw [decodePairs, List.map_cons, List.mapM_cons, first]
    change (do return p :: (← decodePairs F (pairs.map CachePair.toWire))) = _
    rw [ih]
    rfl

theorem decodePairs_error {F : FloatFormat} {items : List Value} {e : Error}
    (h : decodePairs F items = .error e) : ∃ message, e = Error.protocol message := by
  obtain ⟨item, -, failed⟩ := Codec.mapM_error h
  cases read : decodePair F item with
  | error e' =>
    rw [read] at failed
    cases failed
    exact decodePair_error read
  | ok p =>
    rw [read] at failed
    cases failed

def entries : Payload (List CachePair) where
  kind := "Json"
  means v pairs := v.get "entries" = some (.array (pairs.map CachePair.toWire))
  read S v :=
    match (v.get "entries").bind Value.asItems with
    | some items => decodePairs S.floats items
    | none => .error (Error.protocol "malformed HGetAll payload: no entries")
  reads {S v pairs} said := by
    rw [said]
    exact decodePairs_written S.floats pairs
  misread := by
    intro S v e h
    split at h
    · exact decodePairs_error h
    · cases h
      exact ⟨_, rfl⟩

def wireEntries : Heard Value (List (String × List Value)) :=
  Spoken.single "entries"
    (Spoken.listOf (Spoken.record ((Spoken.field "id" Spoken.text "").and
      (Spoken.field "fields" (Spoken.listOf Spoken.any) [])))) []

def decodeEntry (F : FloatFormat) (entry : String × List Value) : Except Error StreamEntry :=
  (decodePairs F entry.2).map fun fields => ⟨entry.1, fields⟩

theorem decodeEntries_written (F : FloatFormat) (es : List StreamEntry) :
    (es.map fun e => (e.id, e.fields.map CachePair.toWire)).mapM (decodeEntry F) = .ok es := by
  induction es with
  | nil => rfl
  | cons e es ih =>
    rw [List.map_cons, List.mapM_cons, ih, decodeEntry, decodePairs_written]
    rfl

def streamEntries (what : String) : Payload (List StreamEntry) where
  kind := "Json"
  means v es := wireEntries.means v (es.map fun e => (e.id, e.fields.map CachePair.toWire))
  read S v :=
    (deserialized wireEntries.read
      (fun v => "malformed " ++ what ++ " payload: " ++ S.mismatch "Entries" v) v).bind
      fun entries => entries.mapM (decodeEntry S.floats)
  reads {S v es} said := by
    rw [deserialized, wireEntries.reads said]
    exact decodeEntries_written S.floats es
  misread {S v e} h := by
    refine bind_protocol (fun _ => deserialized_error) (fun entries e h => ?_) h
    obtain ⟨entry, -, failed⟩ := Codec.mapM_error h
    cases read : decodePairs S.floats entry.2 with
    | error e' =>
      rw [decodeEntry, read] at failed
      cases failed
      exact decodePairs_error read
    | ok fields =>
      rw [decodeEntry, read] at failed
      cases failed

def decodeScored (F : FloatFormat) (malformed : Error) (entry : Value) :
    Except Error ScoredMember :=
  match (entry.get "score").bind Value.asF64 with
  | none => .error malformed
  | some score => (decodeByteList F ((entry.get "member").getD .null)).map fun member => ⟨score, member⟩

def MeansScored (v : Value) (m : ScoredMember) : Prop :=
  m.score.isFinite = true ∧ v.get "score" = some (serializeF64 m.score) ∧
    v.get "member" = some (byteList m.member)

theorem decodeScored_of_means {F : FloatFormat} {malformed : Error} {v : Value} {m : ScoredMember}
    (said : MeansScored v m) : decodeScored F malformed v = .ok m := by
  obtain ⟨finite, score, member⟩ := said
  have bytes : decodeByteList F (byteList m.member) = .ok m.member :=
    (decodeByteList_exact F _ _).mpr rfl
  rw [decodeScored, score, Option.bind_some, (asF64_serializeF64 finite).1, member,
    Option.getD_some, bytes]
  rfl

theorem mapM_scored {F : FloatFormat} {malformed : Error} {vs : List Value}
    {ms : List ScoredMember} (said : List.Forall₂ MeansScored vs ms) :
    vs.mapM (decodeScored F malformed) = .ok ms := by
  induction said with
  | nil => rfl
  | cons first _ ih =>
    rw [List.mapM_cons, decodeScored_of_means first, ih]
    rfl

/-- `scored_members`. -/
def scoredMembers (what : String) : Payload (List ScoredMember) where
  kind := "Json"
  means v ms := ∃ items, v.get "members" = some (.array items) ∧ List.Forall₂ MeansScored items ms
  read S v :=
    let malformed := Error.protocol ("malformed " ++ what ++ " payload: no scored members")
    match (v.get "members").bind Value.asItems with
    | some items => items.mapM (decodeScored S.floats malformed)
    | none => .error malformed
  reads := by
    rintro S v ms ⟨items, held, said⟩
    rw [held]
    exact mapM_scored said
  misread := by
    intro S v e h
    dsimp only at h
    split at h
    · obtain ⟨item, -, failed⟩ := Codec.mapM_error h
      unfold decodeScored at failed
      split at failed
      · cases failed
        exact ⟨_, rfl⟩
      · cases read : decodeByteList S.floats ((item.get "member").getD .null) with
        | error e' =>
          rw [read] at failed
          cases failed
          exact decodeByteList_error S.floats read
        | ok bytes =>
          rw [read] at failed
          cases failed
    · cases h
      exact ⟨_, rfl⟩

end Payload

/-! ## Pipelines -/

/-- One cache operation inside a pipeline, a transaction or a script: any variant with its fields,
or without any. -/
inductive CacheCommand where
  | new (variant : String) (body : Value)
  | unit (variant : String)

namespace CacheCommand

def toValue : CacheCommand → Value
  | new variant body => Value.ofFields [(variant, body)]
  | unit variant => .string variant

def fromValue : Value → Option CacheCommand
  | .string variant => some (unit variant)
  | .object [(variant, body)] => some (new variant body)
  | _ => none

def coded : Coded Value CacheCommand :=
  ⟨toValue, fromValue, fun c => by cases c <;> rfl⟩

/-- `CacheCommand::get`, `::delete` and `::exists`. -/
def onKey (variant space key : String) : CacheCommand :=
  new variant (Value.ofFields (nsKey space key))

def get (space key : String) : CacheCommand := onKey "Get" space key

def delete (space key : String) : CacheCommand := onKey "Delete" space key

def exists_ (space key : String) : CacheCommand := onKey "Exists" space key

def set (space key : String) (value : List UInt8) (ttl : Option Duration) : CacheCommand :=
  new "Set" (Value.ofFields (cacheSetBody space key value ttl))

def incr (space key : String) (by_ : I64) : CacheCommand :=
  new "Incr" (Value.ofFields (nsKey space key ++ [("by", .ofI64 by_)]))

end CacheCommand

inductive CacheReply where
  | ok (kind : String) (data : Value)
  | error (message : String)

namespace CacheReply

def fromWire (F : FloatFormat) (v : Value) : Except Error CacheReply :=
  match v.get "error" with
  | some e => .ok (.error (e.asStr.getD (String.ofList (e.toText F))))
  | none =>
    match v.get "ok" with
    | some data => .ok (.ok (decodeVariant data).1 (decodeVariant data).2)
    | none => .error (Error.protocol "a pipeline result is neither `ok` nor `error`")

/-- The bytes of a `CacheValue` reply; none for a miss, and for a reply that is no value at all. -/
def value (F : FloatFormat) : CacheReply → Option (List UInt8)
  | ok kind data => if kind = "CacheValue" then (decodeByteList F data).toOption else none
  | error _ => none

/-- A result that means a reply. -/
def Means (v : Value) : CacheReply → Prop
  | ok kind data =>
    v.get "error" = none ∧ ∃ tagged, v.get "ok" = some tagged ∧ decodeVariant tagged = (kind, data)
  | error message => v.get "error" = some (.string message)

theorem fromWire_of_means {F : FloatFormat} {v : Value} {reply : CacheReply} (said : Means v reply) :
    fromWire F v = .ok reply := by
  cases reply with
  | ok kind data =>
    obtain ⟨none_, tagged, held, split⟩ := said
    rw [fromWire, none_, held]
    simp only [split]
  | error message =>
    rw [fromWire, show v.get "error" = some (.string message) from said]
    rfl

theorem fromWire_error {F : FloatFormat} {v : Value} {e : Error} (h : fromWire F v = .error e) :
    ∃ message, e = Error.protocol message := by
  unfold fromWire at h
  split at h
  · cases h
  · split at h
    · cases h
    · cases h
      exact ⟨_, rfl⟩

end CacheReply

theorem mapM_replies {F : FloatFormat} {vs : List Value} {replies : List CacheReply}
    (said : List.Forall₂ CacheReply.Means vs replies) :
    vs.mapM (CacheReply.fromWire F) = .ok replies := by
  induction said with
  | nil => rfl
  | cons first _ ih =>
    rw [List.mapM_cons, CacheReply.fromWire_of_means first, ih]
    rfl

def Payload.replies (what : String) : Payload (List CacheReply) where
  kind := "Json"
  means v rs := ∃ items, v.get "results" = some (.array items) ∧ List.Forall₂ CacheReply.Means items rs
  read S v :=
    match (v.get "results").bind Value.asItems with
    | some items => items.mapM (CacheReply.fromWire S.floats)
    | none => .error (Error.protocol ("malformed " ++ what ++ " payload: no results"))
  reads := by
    rintro S v rs ⟨items, held, said⟩
    rw [held]
    exact mapM_replies said
  misread := by
    intro S v e h
    split at h
    · obtain ⟨item, -, failed⟩ := Codec.mapM_error h
      exact CacheReply.fromWire_error failed
    · cases h
      exact ⟨_, rfl⟩

end TricoreSdk
