import TricoreSdk.CacheCalls

/-! The methods of the cache (`cache.rs`): the operation each asks for and what it takes from the
answer. -/

namespace TricoreSdk
open Shape Written

namespace Cache
open Operation

variable {α β : Type}

def json (variant : String) (fields : Coded (Option Value) α) (type : String)
    (answer : Heard Value β) : Inquiry α β :=
  ⟨"Cache", variant, fields, .json variant type answer⟩

def doing (variant : String) (fields : Coded (Option Value) α) : Operation α Unit :=
  .ofDone "Cache" variant fields

def reading (variant : String) (fields : Coded (Option Value) α) :
    Inquiry α (Option (List UInt8)) := ⟨"Cache", variant, fields, .value⟩

def listing (variant : String) (fields : Coded (Option Value) α) (key : String) :
    Inquiry α (List (List UInt8)) := ⟨"Cache", variant, fields, .byteStrings key⟩

def space : Fields Value String := .one "namespace" text

/-- `ns_key`. -/
def keyed : Fields Value (String × String) := space.and (.one "key" text)

/-- `keys_body`. -/
def manyKeys : Fields Value (String × List String) := space.and (.one "keys" (listOf text))

/-- A TTL as it is written: milliseconds, or null for none. -/
def ttl : Fields Value (Option I64) := .one "ttl_ms" nullableInteger

def keyedWith (f : Fields Value β) : Fields Value ((String × String) × β) := keyed.and f

/-! ### The node and the database -/

def ping : Operation Unit Unit := doing "Ping" plain

def stats : Inquiry Unit CacheStats := json "Stats" plain "CacheStats" Spoken.cacheStats

def flushDatabase : Inquiry Unit Int :=
  json "FlushDatabase" plain "Cleared" (Spoken.single "cleared" Spoken.integer 0)

def purgeExpired : Inquiry Unit Int :=
  json "PurgeExpired" plain "Purged" (Spoken.single "purged" Spoken.integer 0)

def hotKeys : Inquiry (Option UInt64) Value :=
  json "HotKeys" (withFields (.optional "limit" count) (by decide)) "Value" Spoken.any

def setNamespaceLimit : Inquiry (String × Option UInt64 × Option UInt64) NamespaceLimit :=
  json "SetNamespaceLimit"
    (withFields (space.and <| (Fields.one "max_keys" nullableCount).and <|
      .one "max_bytes" nullableCount) (by decide))
    "NamespaceLimit" Spoken.namespaceLimit

def getNamespaceLimit : Inquiry String NamespaceLimit :=
  json "GetNamespaceLimit" (withFields space (by decide)) "NamespaceLimit" Spoken.namespaceLimit

/-! ### Values -/

def get : Inquiry (String × String) (Option (List UInt8)) :=
  reading "Get" (withFields keyed (by decide))

def set : Operation ((String × String) × List UInt8 × Option I64) Unit :=
  doing "Set" (withFields (keyedWith ((Fields.one "value" bytes).and ttl)) (by decide))

def setNx : Inquiry ((String × String) × List UInt8 × Option I64) Bool :=
  json "SetNx" (withFields (keyedWith ((Fields.one "value" bytes).and ttl)) (by decide))
    "cache_set_nx::Set" (Spoken.single "set" Spoken.flag false)

def delete : Inquiry (String × String) Bool :=
  json "Delete" (withFields keyed (by decide)) "DeletedFlag"
    (Spoken.single "deleted" Spoken.flag false)

def exists_ : Inquiry (String × String) Bool :=
  json "Exists" (withFields keyed (by decide)) "Exists" (Spoken.single "exists" Spoken.flag false)

def timeToLive : Inquiry (String × String) (Option Int) :=
  json "Ttl" (withFields keyed (by decide)) "Ttl"
    (Spoken.single "ttl_ms" (Spoken.optional Spoken.integer) none)

def expire : Inquiry ((String × String) × I64) Bool :=
  json "Expire" (withFields (keyedWith (.one "ttl_ms" integer)) (by decide)) "Updated"
    (Spoken.single "updated" Spoken.flag false)

def persist : Inquiry (String × String) Bool :=
  json "Persist" (withFields keyed (by decide)) "Persisted"
    (Spoken.single "persisted" Spoken.flag false)

def incr : Inquiry ((String × String) × I64) Int :=
  json "Incr" (withFields (keyedWith (.one "by" integer)) (by decide)) "CounterValue"
    (Spoken.single "value" Spoken.integer 0)

def clearNamespace : Inquiry String Int :=
  json "ClearNamespace" (withFields space (by decide)) "Cleared"
    (Spoken.single "cleared" Spoken.integer 0)

def keys : Inquiry (String × Option String × Option UInt64) (List CacheKeyInfo) :=
  json "Keys"
    (withFields (space.and <| (Fields.one "pattern" nullableText).and <|
      .one "limit" nullableCount) (by decide))
    "Keys" (Spoken.single "keys" (Spoken.listOf Spoken.cacheKeyInfo) [])

def mget : Inquiry (String × List String) (List (Option (List UInt8))) :=
  ⟨"Cache", "MGet", withFields manyKeys (by decide), .values "MGet"⟩

/-- `entries_op`. -/
def manyEntries : Fields Value (String × List CacheEntry × Option I64) :=
  space.and ((Fields.one "entries" (listOf entry)).and ttl)

def mset : Inquiry (String × List CacheEntry × Option I64) Int :=
  json "MSet" (withFields manyEntries (by decide)) "cache_mset::Set"
    (Spoken.single "set" Spoken.integer 0)

def warm : Inquiry (String × List CacheEntry × Option I64) WarmCounts :=
  json "Warm" (withFields manyEntries (by decide)) "WarmCounts" Spoken.warmCounts

def setIf : Inquiry ((String × String) × List UInt8 × SetCondition × WrittenExpiry) Bool :=
  json "SetIf"
    (withFields (keyedWith <| (Fields.one "value" bytes).and <|
      (Fields.one "condition" condition).and <| .one "expiry" WrittenExpiry.coded) (by decide))
    "cache_set_if::Set" (Spoken.single "set" Spoken.flag false)

def compareAndSwapAnswer : Heard Value CompareAndSwap :=
  Spoken.record <| ((Spoken.field "swapped" Spoken.flag false).and <|
    (Spoken.maybe "current" Spoken.text).and <| Spoken.field "currentIsBinary" Spoken.flag false).image
      fun (swapped, current, binary) =>
        ⟨swapped, current.map fun text => text.toList.flatMap String.utf8EncodeChar, binary⟩

def compareAndSwap :
    Inquiry ((String × String) × Option (List UInt8) × Option (List UInt8) × Option I64)
      CompareAndSwap :=
  json "CompareAndSwap"
    (withFields (keyedWith <| (Fields.one "expected" nullableBytes).and <|
      (Fields.one "value" nullableBytes).and ttl) (by decide))
    "cache_compare_and_swap::Wire" compareAndSwapAnswer

def getDel : Inquiry (String × String) (Option (List UInt8)) :=
  reading "GetDel" (withFields keyed (by decide))

def getSet : Inquiry ((String × String) × List UInt8 × Option I64) (Option (List UInt8)) :=
  reading "GetSet" (withFields (keyedWith ((Fields.one "value" bytes).and ttl)) (by decide))

def getEx : Inquiry ((String × String) × WrittenExpiry) (Option (List UInt8)) :=
  reading "GetEx" (withFields (keyedWith (.one "expiry" WrittenExpiry.coded)) (by decide))

def lengthOf (variant : String) (fields : Coded (Option Value) α) : Inquiry α Int :=
  json variant fields "Length" (Spoken.single "length" Spoken.integer 0)

def append : Inquiry ((String × String) × List UInt8) Int :=
  lengthOf "Append" (withFields (keyedWith (.one "value" bytes)) (by decide))

def expireAt : Inquiry ((String × String) × I64) ExpireAtOutcome :=
  json "ExpireAt" (withFields (keyedWith (.one "at_ms" integer)) (by decide)) "ExpireAtOutcome"
    Spoken.expireAtOutcome

/-! ### Stale-while-revalidate -/

def setFresh : Inquiry ((String × String) × List UInt8 × I64 × Option I64) Int :=
  json "SetFresh"
    (withFields (keyedWith <| (Fields.one "value" bytes).and <|
      (Fields.one "fresh_ms" integer).and ttl) (by decide))
    "Fresh" (Spoken.single "freshUntilMs" Spoken.integer 0)

def freshWire : Heard Value FreshWire :=
  Spoken.record <| ((Spoken.field "state" Spoken.text "").and <|
    (Spoken.maybe "value" Spoken.text).and <| (Spoken.maybe "valueHex" Spoken.text).and <|
    (Spoken.field "refresh" Spoken.flag false).and <| (Spoken.field "lease" Spoken.flag false).and <|
    Spoken.maybe "retryAfterMs" Spoken.count).image
      fun (state, value, hex, refresh, lease, retry) => ⟨state, value, hex, refresh, lease, retry⟩

/-- A payload that tells a fresh read: the value as text, or its bytes in hex. -/
def freshPayload : Payload FreshRead where
  kind := "Json"
  means v read := ∃ wire, freshWire.means v wire ∧ wire.read = .ok read
  read S v :=
    (deserialized freshWire.read
      (fun v => "malformed GetFresh payload: " ++ S.mismatch "cache_get_fresh::Wire" v) v).bind
      FreshWire.read
  reads := by
    rintro S v read ⟨wire, said, told⟩
    rw [deserialized, freshWire.reads said]
    exact told
  misread h := bind_protocol (fun _ => deserialized_error) (fun _ _ => FreshWire.read_error) h

def getFresh : Inquiry ((String × String) × String × I64) FreshRead :=
  ⟨"Cache", "GetFresh",
    withFields (keyedWith ((Fields.one "owner" text).and (.one "lease_ms" integer))) (by decide),
    freshPayload⟩

def setMissing : Operation ((String × String) × I64) Unit :=
  doing "SetMissing" (withFields (keyedWith (.one "ttl_ms" integer)) (by decide))

/-! ### Lists -/

def pushing (variant : String) : Inquiry ((String × String) × List (List UInt8)) Int :=
  lengthOf variant (withFields (keyedWith (.one "values" (listOf bytes))) (by decide))

def lpush : Inquiry ((String × String) × List (List UInt8)) Int := pushing "LPush"

def rpush : Inquiry ((String × String) × List (List UInt8)) Int := pushing "RPush"

def lpop : Inquiry (String × String) (Option (List UInt8)) :=
  reading "LPop" (withFields keyed (by decide))

def rpop : Inquiry (String × String) (Option (List UInt8)) :=
  reading "RPop" (withFields keyed (by decide))

def range : Fields Value (I64 × I64) := (Fields.one "start" integer).and (.one "stop" integer)

def lrange : Inquiry ((String × String) × I64 × I64) (List (List UInt8)) :=
  listing "LRange" (withFields (keyedWith range) (by decide)) "values"

def llen : Inquiry (String × String) Int := lengthOf "LLen" (withFields keyed (by decide))

def lindex : Inquiry ((String × String) × I64) (Option (List UInt8)) :=
  reading "LIndex" (withFields (keyedWith (.one "index" integer)) (by decide))

def lmove : Inquiry (String × String × String × ListEnd × ListEnd) (Option (List UInt8)) :=
  reading "LMove"
    (withFields (space.and <| (Fields.one "source" text).and <| (Fields.one "destination" text).and <|
      (Fields.one "from" listEnd).and <| .one "to" listEnd) (by decide))

def ltrim : Inquiry ((String × String) × I64 × I64) TrimCounts :=
  json "LTrim" (withFields (keyedWith range) (by decide)) "TrimCounts" Spoken.trimCounts

/-- `cache_blocking_pop`: the key an element came from, and the element. -/
def blockingPop (variant : String) :
    Inquiry ((String × List String) × I64) (List (Option (List UInt8))) :=
  ⟨"Cache", variant, withFields (manyKeys.and (.one "timeout_ms" integer)) (by decide),
    .values variant⟩

def blpop : Inquiry ((String × List String) × I64) (List (Option (List UInt8))) :=
  blockingPop "BLPop"

def brpop : Inquiry ((String × List String) × I64) (List (Option (List UInt8))) :=
  blockingPop "BRPop"

/-! ### Sets -/

def sadd : Inquiry ((String × String) × List (List UInt8)) Int :=
  json "SAdd" (withFields (keyedWith (.one "members" (listOf bytes))) (by decide)) "Added"
    (Spoken.single "added" Spoken.integer 0)

def srem : Inquiry ((String × String) × List (List UInt8)) Int :=
  json "SRem" (withFields (keyedWith (.one "members" (listOf bytes))) (by decide)) "Removed"
    (Spoken.single "removed" Spoken.integer 0)

def sismember : Inquiry ((String × String) × List UInt8) Bool :=
  json "SIsMember" (withFields (keyedWith (.one "member" bytes)) (by decide)) "IsMember"
    (Spoken.single "is_member" Spoken.flag false)

def cardinality (variant : String) : Inquiry (String × String) Int :=
  json variant (withFields keyed (by decide)) "Cardinality"
    (Spoken.single "cardinality" Spoken.integer 0)

def scard : Inquiry (String × String) Int := cardinality "SCard"

def smembers : Inquiry (String × String) (List (List UInt8)) :=
  listing "SMembers" (withFields keyed (by decide)) "members"

/-- `cache_members` over several sets. -/
def combining (variant : String) : Inquiry (String × List String) (List (List UInt8)) :=
  listing variant (withFields manyKeys (by decide)) "members"

def sunion : Inquiry (String × List String) (List (List UInt8)) := combining "SUnion"

def sinter : Inquiry (String × List String) (List (List UInt8)) := combining "SInter"

def sdiff : Inquiry (String × List String) (List (List UInt8)) := combining "SDiff"

def srandMember : Inquiry ((String × String) × Option I64) (List (List UInt8)) :=
  listing "SRandMember" (withFields (keyedWith (.one "count" nullableInteger)) (by decide)) "members"

/-! ### Hashes -/

def hset : Inquiry ((String × String) × List CachePair) Int :=
  json "HSet" (withFields (keyedWith (.one "entries" (listOf pair))) (by decide)) "Created"
    (Spoken.single "created" Spoken.integer 0)

def hget : Inquiry ((String × String) × List UInt8) (Option (List UInt8)) :=
  reading "HGet" (withFields (keyedWith (.one "field" bytes)) (by decide))

def deletedCount (variant : String) (fields : Coded (Option Value) α) : Inquiry α Int :=
  json variant fields "Deleted" (Spoken.single "deleted" Spoken.integer 0)

def hdel : Inquiry ((String × String) × List (List UInt8)) Int :=
  deletedCount "HDel" (withFields (keyedWith (.one "fields" (listOf bytes))) (by decide))

def hgetall : Inquiry (String × String) (List CachePair) :=
  ⟨"Cache", "HGetAll", withFields keyed (by decide), .entries⟩

def hexists : Inquiry ((String × String) × List UInt8) Bool :=
  json "HExists" (withFields (keyedWith (.one "field" bytes)) (by decide)) "Exists"
    (Spoken.single "exists" Spoken.flag false)

def hlen : Inquiry (String × String) Int := lengthOf "HLen" (withFields keyed (by decide))

def hincrBy : Inquiry ((String × String) × List UInt8 × I64) Int :=
  json "HIncrBy"
    (withFields (keyedWith ((Fields.one "field" bytes).and (.one "by" integer))) (by decide))
    "CounterValue" (Spoken.single "value" Spoken.integer 0)

/-! ### Streams -/

def xadd : Inquiry ((String × String) × List CachePair × Option String) String :=
  json "XAdd"
    (withFields (keyedWith ((Fields.one "fields" (listOf pair)).and (.one "id" nullableText)))
      (by decide))
    "EntryId" (Spoken.single "id" Spoken.text "")

def xlen : Inquiry (String × String) Int := lengthOf "XLen" (withFields keyed (by decide))

def streaming (variant : String) (fields : Coded (Option Value) α) : Inquiry α (List StreamEntry) :=
  ⟨"Cache", variant, fields, .streamEntries variant⟩

def xrange : Inquiry ((String × String) × String × String × Option UInt64) (List StreamEntry) :=
  streaming "XRange"
    (withFields (keyedWith <| (Fields.one "start" text).and <| (Fields.one "end" text).and <|
      .one "count" nullableCount) (by decide))

def xread : Inquiry ((String × String) × String × Option UInt64) (List StreamEntry) :=
  streaming "XRead"
    (withFields (keyedWith ((Fields.one "after" text).and (.one "count" nullableCount)))
      (by decide))

def xdel : Inquiry ((String × String) × List String) Int :=
  deletedCount "XDel" (withFields (keyedWith (.one "ids" (listOf text))) (by decide))

def xtrim : Inquiry ((String × String) × UInt64) Int :=
  json "XTrim" (withFields (keyedWith (.one "max_len" count)) (by decide)) "Trimmed"
    (Spoken.single "trimmed" Spoken.integer 0)

/-! ### Sorted sets -/

def zadd : Inquiry ((String × String) × List (Finite × List UInt8)) ZAddCounts :=
  json "ZAdd" (withFields (keyedWith (.one "members" (listOf scored))) (by decide)) "ZAddCounts"
    Spoken.zAddCounts

def zrem : Inquiry ((String × String) × List (List UInt8)) Int :=
  json "ZRem" (withFields (keyedWith (.one "members" (listOf bytes))) (by decide)) "Removed"
    (Spoken.single "removed" Spoken.integer 0)

def zscore : Inquiry ((String × String) × List UInt8) (Option F64) :=
  json "ZScore" (withFields (keyedWith (.one "member" bytes)) (by decide)) "Scored"
    (Spoken.single "score" (Spoken.optional Spoken.float) none)

def zcard : Inquiry (String × String) Int := cardinality "ZCard"

def zrank : Inquiry ((String × String) × List UInt8 × Bool) (Option Int) :=
  json "ZRank" (withFields (keyedWith ((Fields.one "member" bytes).and (.one "rev" flag))) (by decide))
    "Ranked" (Spoken.single "rank" (Spoken.optional Spoken.integer) none)

/-- An operation answered by members of a sorted set, with their scores when they are asked for. -/
structure Ranged (α : Type) where
  variant : String
  fields : Coded (Option Value) α
  withScores : α → Bool

namespace Ranged

def members (q : Ranged α) : Inquiry α (List (List UInt8)) :=
  ⟨"Cache", q.variant, q.fields, .byteStrings "members"⟩

def scoredMembers (q : Ranged α) : Inquiry α (List ScoredMember) :=
  ⟨"Cache", q.variant, q.fields, .scoredMembers q.variant⟩

def operation (q : Ranged α) : Operation α (List ScoredMember) where
  module := "Cache"
  variant := q.variant
  payload := q.fields
  means a kind data ms := kind = "Json" ∧
    if q.withScores a then q.scoredMembers.payload.means data ms
    else q.members.payload.means data (ms.map ScoredMember.member)

end Ranged

def zrange : Ranged ((String × String) × (I64 × I64) × Bool × Bool) where
  variant := "ZRange"
  fields := withFields
    (keyedWith <| range.and <| (Fields.one "rev" flag).and <| .one "with_scores" flag) (by decide)
  withScores a := a.2.2.2

def zrangeByScore : Ranged ((String × String) × (Finite × Bool) × (Finite × Bool) × Bool × Bool ×
    Option (UInt64 × UInt64)) where
  variant := "ZRangeByScore"
  fields := withFields
    (keyedWith <| (Fields.one "min" bound).and <| (Fields.one "max" bound).and <|
      (Fields.one "rev" flag).and <| (Fields.one "with_scores" flag).and <|
      .one "limit" (nullable (couple count) fun _ => rfl)) (by decide)
  withScores a := a.2.2.2.2.1

def zincrBy : Inquiry ((String × String) × List UInt8 × Finite) F64 :=
  json "ZIncrBy" (withFields (keyedWith ((Fields.one "member" bytes).and (.one "by" finite))) (by decide))
    "Scored" (Spoken.record (Spoken.required "score" Spoken.float))

/-! ### Locks -/

/-- `lock_op`. -/
def lockFields : Fields Value ((String × String) × String × Option I64) :=
  keyedWith ((Fields.one "owner" text).and (.optional "ttl_ms" integer))

def lockAcquire : Inquiry ((String × String) × String × Option I64) CacheLock :=
  json "LockAcquire" (withFields lockFields (by decide)) "CacheLock" Spoken.cacheLock

def lockRenew : Inquiry ((String × String) × String × Option I64) CacheLockRenewal :=
  json "LockRenew" (withFields lockFields (by decide)) "CacheLockRenewal" Spoken.cacheLockRenewal

def lockRelease : Inquiry ((String × String) × String × Option I64) Bool :=
  json "LockRelease" (withFields lockFields (by decide)) "Released"
    (Spoken.single "released" Spoken.flag false)

/-! ### Bitmaps and estimates -/

def setBit : Inquiry ((String × String) × UInt64 × Bool) UInt8 :=
  json "SetBit" (withFields (keyedWith ((Fields.one "offset" count).and (.one "value" flag))) (by decide))
    "Previous" (Spoken.single "previous" Spoken.byte 0)

def getBit : Inquiry ((String × String) × UInt64) UInt8 :=
  json "GetBit" (withFields (keyedWith (.one "offset" count)) (by decide)) "Bit"
    (Spoken.single "bit" Spoken.byte 0)

/-- `range_value`. -/
def byteRange : Fields Value (Option (I64 × I64)) :=
  .one "range" (nullable (couple integer) fun _ => rfl)

def counted (variant : String) (fields : Coded (Option Value) α) : Inquiry α Int :=
  json variant fields "Count" (Spoken.single "count" Spoken.integer 0)

def bitCount : Inquiry ((String × String) × Option (I64 × I64)) Int :=
  counted "BitCount" (withFields (keyedWith byteRange) (by decide))

def bitPos : Inquiry ((String × String) × Bool × Option (I64 × I64)) Int :=
  json "BitPos" (withFields (keyedWith ((Fields.one "bit" flag).and byteRange)) (by decide))
    "Position" (Spoken.record (Spoken.required "position" Spoken.integer))

def bitOperation : Inquiry (String × BitOpKind × String × List String) Int :=
  lengthOf "BitOp"
    (withFields (space.and <| (Fields.one "op" bitOp).and <| (Fields.one "dest" text).and <|
      .one "keys" (listOf text)) (by decide))

def pfAdd : Inquiry ((String × String) × List (List UInt8)) Bool :=
  json "PfAdd" (withFields (keyedWith (.one "elements" (listOf bytes))) (by decide)) "Changed"
    (Spoken.single "changed" Spoken.flag false)

def pfCount : Inquiry (String × List String) Int :=
  counted "PfCount" (withFields manyKeys (by decide))

def pfMerge : Operation (String × String × List String) Unit :=
  doing "PfMerge"
    (withFields (space.and ((Fields.one "dest" text).and (.one "sources" (listOf text))))
      (by decide))

/-! ### Pipelines, scripts and channels -/

def replying (variant : String) (fields : Coded (Option Value) α) : Inquiry α (List CacheReply) :=
  ⟨"Cache", variant, fields, .replies variant⟩

def commands : Fields Value (List CacheCommand) := .one "ops" (listOf CacheCommand.coded)

def pipeline : Inquiry (List CacheCommand) (List CacheReply) :=
  replying "Pipeline" (withFields commands (by decide))

def transaction : Inquiry (List CacheCommand) (List CacheReply) :=
  replying "Transaction" (withFields commands (by decide))

def scriptLoad : Operation (String × List CacheCommand) Unit :=
  doing "ScriptLoad" (withFields ((Fields.one "name" text).and commands) (by decide))

def scriptRun : Inquiry (String × List String) (List CacheReply) :=
  replying "ScriptRun"
    (withFields ((Fields.one "name" text).and (.one "args" (listOf text))) (by decide))

def publish : Inquiry (String × String) UInt64 :=
  json "Publish" (withFields ((Fields.one "channel" text).and (.one "message" text)) (by decide))
    "Published" (Spoken.single "id" Spoken.count 0)

def poll : Inquiry (List String × UInt64 × Option UInt64) PolledMessages :=
  json "Poll"
    (withFields ((Fields.one "channels" (listOf text)).and <| (Fields.one "after" count).and <|
      .optional "limit" count) (by decide))
    "PolledMessages" Spoken.polledMessages

def operations : List AnyOperation :=
  [⟨ping⟩, ⟨stats.operation⟩, ⟨flushDatabase.operation⟩, ⟨purgeExpired.operation⟩,
    ⟨hotKeys.operation⟩, ⟨setNamespaceLimit.operation⟩, ⟨getNamespaceLimit.operation⟩,
    ⟨get.operation⟩, ⟨set⟩, ⟨setNx.operation⟩, ⟨delete.operation⟩, ⟨exists_.operation⟩,
    ⟨timeToLive.operation⟩, ⟨expire.operation⟩, ⟨persist.operation⟩, ⟨incr.operation⟩,
    ⟨clearNamespace.operation⟩, ⟨keys.operation⟩, ⟨mget.operation⟩, ⟨mset.operation⟩,
    ⟨warm.operation⟩, ⟨setIf.operation⟩, ⟨compareAndSwap.operation⟩, ⟨getDel.operation⟩,
    ⟨getSet.operation⟩, ⟨getEx.operation⟩, ⟨append.operation⟩, ⟨expireAt.operation⟩,
    ⟨setFresh.operation⟩, ⟨getFresh.operation⟩, ⟨setMissing⟩, ⟨lpush.operation⟩,
    ⟨rpush.operation⟩, ⟨lpop.operation⟩, ⟨rpop.operation⟩, ⟨lrange.operation⟩, ⟨llen.operation⟩,
    ⟨lindex.operation⟩, ⟨lmove.operation⟩, ⟨ltrim.operation⟩, ⟨blpop.operation⟩,
    ⟨brpop.operation⟩, ⟨sadd.operation⟩, ⟨srem.operation⟩, ⟨sismember.operation⟩,
    ⟨scard.operation⟩, ⟨smembers.operation⟩, ⟨sunion.operation⟩, ⟨sinter.operation⟩,
    ⟨sdiff.operation⟩, ⟨srandMember.operation⟩, ⟨hset.operation⟩, ⟨hget.operation⟩,
    ⟨hdel.operation⟩, ⟨hgetall.operation⟩, ⟨hexists.operation⟩, ⟨hlen.operation⟩,
    ⟨hincrBy.operation⟩, ⟨xadd.operation⟩, ⟨xlen.operation⟩, ⟨xrange.operation⟩,
    ⟨xread.operation⟩, ⟨xdel.operation⟩, ⟨xtrim.operation⟩, ⟨zadd.operation⟩, ⟨zrem.operation⟩,
    ⟨zscore.operation⟩, ⟨zcard.operation⟩, ⟨zrank.operation⟩, ⟨zrange.operation⟩,
    ⟨zrangeByScore.operation⟩,
    ⟨zincrBy.operation⟩, ⟨lockAcquire.operation⟩, ⟨lockRenew.operation⟩, ⟨lockRelease.operation⟩,
    ⟨setBit.operation⟩, ⟨getBit.operation⟩, ⟨bitCount.operation⟩, ⟨bitPos.operation⟩,
    ⟨bitOperation.operation⟩, ⟨pfAdd.operation⟩, ⟨pfCount.operation⟩, ⟨pfMerge⟩,
    ⟨pipeline.operation⟩, ⟨transaction.operation⟩, ⟨scriptLoad⟩, ⟨scriptRun.operation⟩,
    ⟨publish.operation⟩, ⟨poll.operation⟩]

theorem operations_distinct : (operations.map AnyOperation.tag).Nodup := by decide

end Cache

end TricoreSdk
