import TricoreSdk.CacheMethods

/-! The methods of the cache (`cache.rs`) as stubs of its operations, under the names the client
gives them. -/

namespace TricoreSdk
open Shape

/-- `out.ttl_ms.filter(|ms| *ms >= 0).map(|ms| Duration::from_millis(ms as u64))`. -/
def Duration.ofWire (ms : Option Int) : Option Duration :=
  (ms.filter fun ms => 0 ≤ ms).map fun ms =>
    ⟨(UInt64.ofNat ms.toNat).toNat * 1000000, by
      have := (UInt64.ofNat ms.toNat).toNat_lt
      unfold maxNanos
      omega⟩

/-- `CachePair::from_text`. -/
def CachePair.fromText (entries : List (String × String)) : List CachePair :=
  entries.map fun e =>
    ⟨e.1.toList.flatMap String.utf8EncodeChar, e.2.toList.flatMap String.utf8EncodeChar⟩

namespace Cache

/-- `ttl_value`, before it is JSON. -/
def ttlArg (ttl : Option Duration) : Option I64 := (Duration.nonZero ttl).map millis

theorem ttlArg_written (ttl : Option Duration) :
    Written.nullableInteger.write (ttlArg ttl) = ttlValue ttl := by
  unfold ttlArg ttlValue
  cases Duration.nonZero ttl <;> rfl

def finiteScores (members : List ScoredMember) : Except Error (List (Finite × List UInt8)) := do
  let members ← nonEmpty members "members"
  members.mapM fun m => (scoreValue m.score "score").map fun score => (score, m.member)

theorem finiteScores_refuses (members : List ScoredMember) :
    RefusesInvalid (finiteScores members) :=
  refusesInvalid_bind (nonEmpty_refuses members "members") fun _ _ h =>
    have ⟨m, _, refused⟩ := Codec.mapM_error h
    refusesInvalid_map (scoreValue_refuses m.score "score") _ _ refused

/-- The arguments of `zrange_by_score_op`. -/
def scoreRange (space key : String) (min max : ScoreBound) (rev withScores : Bool)
    (limit : Option (UInt64 × UInt64)) :
    Except Error ((String × String) × (Finite × Bool) × (Finite × Bool) × Bool × Bool ×
      Option (UInt64 × UInt64)) := do
  let low ← scoreValue min.value "min"
  let high ← scoreValue max.value "max"
  return ((space, key), (low, min.exclusive), (high, max.exclusive), rev, withScores, limit)

theorem scoreRange_refuses (space key : String) (min max : ScoreBound) (rev withScores : Bool)
    (limit : Option (UInt64 × UInt64)) :
    RefusesInvalid (scoreRange space key min max rev withScores limit) :=
  refusesInvalid_bind (scoreValue_refuses min.value "min") fun _ =>
    refusesInvalid_bind (scoreValue_refuses max.value "max") fun _ => refusesInvalid_ok _

def popped : List (Option (List UInt8)) → Option (String × List UInt8)
  | some key :: some value :: _ =>
    some (String.ofList (fromUtf8Lossy key.length key), value)
  | _ => none

theorem scoreRange_withScores {space key : String} {min max : ScoreBound} {rev withScores : Bool}
    {limit : Option (UInt64 × UInt64)} {a}
    (asked : scoreRange space key min max rev withScores limit = .ok a) :
    a.2.2.2.2.1 = withScores := by
  unfold scoreRange at asked
  cases low : scoreValue min.value "min" with
  | error e =>
    rw [low] at asked
    cases asked
  | ok low' =>
    rw [low] at asked
    cases high : scoreValue max.value "max" with
    | error e =>
      rw [high] at asked
      cases asked
    | ok high' =>
      rw [high] at asked
      cases asked
      rfl

/-- Members of a sorted set, whose scores were not asked for. -/
def rangedStub {ω α : Type} (H : Host ω) (q : Ranged α) (args : Except Error α)
    (refused : RefusesInvalid args) (unscored : ∀ a, args = .ok a → q.withScores a = false) :
    Stub (List (List UInt8)) :=
  q.operation.stub args refused (fun r => q.members.decode H r) (fun _ _ => q.members.decode_error H)
    (fun ms => .ok (ms.map ScoredMember.member)) fun a asked r ms said => by
      obtain ⟨json, said⟩ := said
      rw [unscored a asked] at said
      exact q.members.decode_answer H (a := a) ⟨json, said⟩

def rangedStubWithScores {ω α : Type} (H : Host ω) (q : Ranged α) (args : Except Error α)
    (refused : RefusesInvalid args) (scored : ∀ a, args = .ok a → q.withScores a = true) :
    Stub (List ScoredMember) :=
  q.operation.stub args refused (fun r => q.scoredMembers.decode H r)
    (fun _ _ => q.scoredMembers.decode_error H) .ok fun a asked r ms said => by
      obtain ⟨json, said⟩ := said
      rw [scored a asked] at said
      exact q.scoredMembers.decode_answer H (a := a) ⟨json, said⟩

theorem nonEmpty_op {α : Type} {values : List (List UInt8)} {name : String}
    {args : List (List UInt8) → α} {op : α → Value} {op' : Value → Value}
    (same : op (args values) = op' (.array (values.map byteList))) :
    ((nonEmpty values name).map args).map op = (byteLists values name).map op' := by
  unfold nonEmpty byteLists
  split
  · rfl
  · exact congrArg Except.ok same

theorem reading_decode {ω α : Type} (H : Host ω) (variant : String)
    (fields : Coded (Option Value) α) (r : Response) :
    (reading variant fields).decode H r = readCacheValue H.serde.floats variant r :=
  Inquiry.decode_eq H _ r

theorem warmCounts_read (v : Value) : Spoken.warmCounts.read v = WarmCounts.fromValue v := by
  refine Spoken.record_read v fun parts length => ?_
  match parts with
  | [written, cached] =>
    simp [Parts.image, Option.map_eq_bind, Option.bind_assoc]

theorem compareAndSwap_read (v : Value) :
    compareAndSwapAnswer.read v = CompareAndSwap.fromValue v := by
  refine Spoken.record_read v fun parts length => ?_
  match parts with
  | [swapped, current, binary] =>
    simp [Parts.image, Spoken.maybe, Value.asOption_asStr, Option.map_eq_bind, Option.bind_assoc]
    exact Option.bind_comm ..

theorem freshWire_read (v : Value) : freshWire.read v = FreshWire.fromValue v := by
  refine Spoken.record_read v fun parts length => ?_
  match parts with
  | [state, value, valueHex, refresh, lease, retryAfterMs] =>
    simp [Parts.image, Spoken.maybe, Value.asOption_asStr, Option.map_eq_bind, Option.bind_assoc]

theorem getFresh_decode {ω : Type} (H : Host ω) (r : Response) :
    getFresh.decode H r =
      (r.decode (H.serde.mismatch "cache_get_fresh::Wire") FreshWire.fromValue "GetFresh").bind
        FreshWire.read := by
  rw [← (funext freshWire_read : freshWire.read = FreshWire.fromValue), Inquiry.decode_eq]
  unfold Response.decode
  cases payload : r.expect "Json" "GetFresh" with
  | error e =>
    rw [show r.expect getFresh.payload.kind getFresh.variant = _ from payload]
    rfl
  | ok data =>
    rw [show r.expect getFresh.payload.kind getFresh.variant = _ from payload]
    cases read : freshWire.read data with
    | none => simp [Except.bind, getFresh, freshPayload, deserialized, read]
    | some wire => simp [Except.bind, getFresh, freshPayload, deserialized, read]

end Cache

section

variable {ω : Type} (H : Host ω)

/-! ### Values -/

def cachePing : Stub Unit := Cache.ping.perform ()

def cacheGet (space key : String) : Stub (Option (List UInt8)) := Cache.get.call H (space, key)

def cacheSet (space key : String) (value : List UInt8) : TypedMethod Unit :=
  cacheSetTtl space key value none

theorem set_eq (space key : String) (value : List UInt8) (ttl : Option Duration) :
    (Cache.set.perform ((space, key), value, Cache.ttlArg ttl)).toTypedMethod =
      cacheSetTtl space key value ttl := by
  refine TypedMethod.ext ?_ fun _ => rfl
  change Except.ok _ = Except.ok (cacheOp "Set" (cacheSetBody space key value ttl))
  rw [cacheSetBody, ← Cache.ttlArg_written]
  rfl

theorem setNx_eq (space key : String) (value : List UInt8) (ttl : Option Duration) :
    (Cache.setNx.call H ((space, key), value, Cache.ttlArg ttl)).toTypedMethod =
      cacheSetNx H space key value ttl := by
  refine TypedMethod.ext ?_ fun r => (Inquiry.call_decode ..).trans ?_
  · change Except.ok _ = Except.ok (cacheOp "SetNx" (cacheSetBody space key value ttl))
    rw [cacheSetBody, ← Cache.ttlArg_written]
    rfl
  · exact congrArg (fun read => r.decode (H.serde.mismatch "cache_set_nx::Set") read "SetNx")
      (funext (Spoken.single_flag "set"))

def cacheDelete (space key : String) : Stub Bool := Cache.delete.call H (space, key)

def cacheExists (space key : String) : Stub Bool := Cache.exists_.call H (space, key)

/-- How long until the key expires: none when it is missing and when it has no expiry. -/
def cacheTtl (space key : String) : Stub (Option Duration) :=
  Cache.timeToLive.callFor H (space, key) Duration.ofWire

theorem expire_eq (space key : String) (ttl : Duration) :
    (Cache.expire.call H ((space, key), Cache.millis ttl)).toTypedMethod =
      cacheExpire H space key ttl :=
  TypedMethod.ext rfl fun r => (Inquiry.call_decode ..).trans
    (congrArg (fun read => r.decode (H.serde.mismatch "Updated") read "Expire")
      (funext (Spoken.single_flag "updated")))

def cachePersist (space key : String) : Stub Bool := Cache.persist.call H (space, key)

def cacheIncr (space key : String) (by_ : I64) : Stub Int := Cache.incr.call H ((space, key), by_)

def cacheClearNamespace (space : String) : Stub Int := Cache.clearNamespace.call H space

def cacheKeys (space : String) (pattern : Option String) (limit : Option UInt64) :
    Stub (List CacheKeyInfo) :=
  Cache.keys.call H (space, pattern, limit)

/-! ### Many keys, conditions and atomic reads -/

def cacheMget (space : String) (keys : List String) : Stub (List (Option (List UInt8))) :=
  Cache.mget.call H (space, keys)

theorem mset_eq (space : String) (entries : List CacheEntry) (ttl : Option Duration) :
    (Cache.mset.call H (space, entries, Cache.ttlArg ttl)).toTypedMethod =
      cacheMset H space entries ttl := by
  refine TypedMethod.ext ?_ fun r => (Inquiry.call_decode ..).trans ?_
  · change Except.ok _ = Except.ok (entriesOp "MSet" space entries ttl)
    rw [entriesOp, ← Cache.ttlArg_written]
    rfl
  · exact congrArg (fun read => r.decode (H.serde.mismatch "cache_mset::Set") read "MSet")
      (funext (Spoken.single_integer "set"))

theorem warm_eq (space : String) (entries : List CacheEntry) (ttl : Option Duration) :
    (Cache.warm.call H (space, entries, Cache.ttlArg ttl)).toTypedMethod =
      cacheWarm H space entries ttl := by
  refine TypedMethod.ext ?_ fun r => (Inquiry.call_decode ..).trans ?_
  · change Except.ok _ = Except.ok (entriesOp "Warm" space entries ttl)
    rw [entriesOp, ← Cache.ttlArg_written]
    rfl
  · exact congrArg (fun read => r.decode (H.serde.mismatch "WarmCounts") read "Warm")
      (funext Cache.warmCounts_read)

def cacheSetIf (space key : String) (value : List UInt8) (condition : SetCondition)
    (expiry : CacheExpiry) : Stub Bool :=
  Cache.setIf.call H ((space, key), value, condition, expiry.written)

theorem compareAndSwap_eq (space key : String) (expected value : Option (List UInt8))
    (ttl : Option Duration) :
    (Cache.compareAndSwap.call H
        ((space, key), expected, value, Cache.ttlArg ttl)).toTypedMethod =
      cacheCompareAndSwap H space key expected value ttl := by
  refine TypedMethod.ext ?_ fun r => (Inquiry.call_decode ..).trans ?_
  · change Except.ok _ = Except.ok (cacheCompareAndSwapOp space key expected value ttl)
    rw [cacheCompareAndSwapOp, ← Cache.ttlArg_written]
    cases expected <;> cases value <;> rfl
  · exact congrArg
      (fun read => r.decode (H.serde.mismatch "cache_compare_and_swap::Wire") read "CompareAndSwap")
      (funext Cache.compareAndSwap_read)

def cacheGetDel (space key : String) : Stub (Option (List UInt8)) :=
  Cache.getDel.call H (space, key)

theorem getSet_eq (space key : String) (value : List UInt8) (ttl : Option Duration) :
    (Cache.getSet.call H ((space, key), value, Cache.ttlArg ttl)).toTypedMethod =
      cacheGetSet H space key value ttl := by
  refine TypedMethod.ext ?_ fun r =>
    (Inquiry.call_decode ..).trans (Cache.reading_decode H "GetSet" _ r)
  change Except.ok _ = Except.ok (cacheOp "GetSet" (cacheSetBody space key value ttl))
  rw [cacheSetBody, ← Cache.ttlArg_written]
  rfl

def cacheGetEx (space key : String) (expiry : CacheExpiry) : Stub (Option (List UInt8)) :=
  Cache.getEx.call H ((space, key), expiry.written)

def cacheAppend (space key : String) (value : List UInt8) : Stub Int :=
  Cache.append.call H ((space, key), value)

def cacheExpireAt (space key : String) (atMs : I64) : Stub ExpireAtOutcome :=
  Cache.expireAt.call H ((space, key), atMs)

theorem setFresh_eq (space key : String) (value : List UInt8) (fresh : Duration)
    (ttl : Option Duration) :
    (Cache.setFresh.call H
        ((space, key), value, Cache.millis fresh, Cache.ttlArg ttl)).toTypedMethod =
      cacheSetFresh H space key value fresh ttl := by
  refine TypedMethod.ext ?_ fun r => (Inquiry.call_decode ..).trans ?_
  · change Except.ok _ = Except.ok (cacheSetFreshOp space key value fresh ttl)
    rw [cacheSetFreshOp, ← Cache.ttlArg_written]
    rfl
  · exact congrArg (fun read => r.decode (H.serde.mismatch "Fresh") read "SetFresh")
      (funext (Spoken.single_integer "freshUntilMs"))

theorem getFresh_eq (space key owner : String) (lease : Duration) :
    (Cache.getFresh.call H ((space, key), owner, Cache.millis lease)).toTypedMethod =
      cacheGetFresh H space key owner lease :=
  TypedMethod.ext rfl fun r => (Inquiry.call_decode ..).trans (Cache.getFresh_decode H r)

def cacheSetMissing (space key : String) (ttl : Duration) : Stub Unit :=
  Cache.setMissing.perform ((space, key), Cache.millis ttl)

/-! ### Lists -/

theorem pushing_eq (variant space key : String) (values : List (List UInt8)) :
    ((Cache.pushing variant).stub H ((nonEmpty values "values").map fun values =>
        ((space, key), values)) (refusesInvalid_map (nonEmpty_refuses values "values") _)
      id).toTypedMethod = cachePush H variant space key values := by
  refine TypedMethod.ext ?_ fun r => ?_
  · exact Cache.nonEmpty_op rfl
  · exact (Inquiry.call_decode H (Cache.pushing variant) ((space, key), values) r).trans
      (congrArg (fun read => r.decode (H.serde.mismatch "Length") read variant)
        (funext (Spoken.single_integer "length")))

def cacheLpop (space key : String) : Stub (Option (List UInt8)) := Cache.lpop.call H (space, key)

def cacheRpop (space key : String) : Stub (Option (List UInt8)) := Cache.rpop.call H (space, key)

def cacheLrange (space key : String) (start stop : I64) : Stub (List (List UInt8)) :=
  Cache.lrange.call H ((space, key), start, stop)

def cacheLlen (space key : String) : Stub Int := Cache.llen.call H (space, key)

def cacheLindex (space key : String) (index : I64) : Stub (Option (List UInt8)) :=
  Cache.lindex.call H ((space, key), index)

def cacheLmove (space source destination : String) (src dst : ListEnd) :
    Stub (Option (List UInt8)) :=
  Cache.lmove.call H (space, source, destination, src, dst)

def cacheLtrim (space key : String) (start stop : I64) : Stub TrimCounts :=
  Cache.ltrim.call H ((space, key), start, stop)

def cacheBlpop (space : String) (keys : List String) (timeout : Duration) :
    Stub (Option (String × List UInt8)) :=
  Cache.blpop.callFor H ((space, keys), Cache.millis timeout) Cache.popped

def cacheBrpop (space : String) (keys : List String) (timeout : Duration) :
    Stub (Option (String × List UInt8)) :=
  Cache.brpop.callFor H ((space, keys), Cache.millis timeout) Cache.popped

/-! ### Sets -/

theorem sadd_eq (space key : String) (members : List (List UInt8)) :
    (Cache.sadd.stub H ((nonEmpty members "members").map fun members => ((space, key), members))
      (refusesInvalid_map (nonEmpty_refuses members "members") _) id).toTypedMethod =
      cacheSadd H space key members := by
  refine TypedMethod.ext ?_ fun r => ?_
  · exact Cache.nonEmpty_op rfl
  · exact (Inquiry.call_decode H Cache.sadd ((space, key), members) r).trans
      (congrArg (fun read => r.decode (H.serde.mismatch "Added") read "SAdd")
        (funext (Spoken.single_integer "added")))

theorem srem_eq (space key : String) (members : List (List UInt8)) :
    (Cache.srem.stub H ((nonEmpty members "members").map fun members => ((space, key), members))
      (refusesInvalid_map (nonEmpty_refuses members "members") _) id).toTypedMethod =
      cacheSrem H space key members := by
  refine TypedMethod.ext ?_ fun r => ?_
  · exact Cache.nonEmpty_op rfl
  · exact (Inquiry.call_decode H Cache.srem ((space, key), members) r).trans
      (congrArg (fun read => r.decode (H.serde.mismatch "Removed") read "SRem")
        (funext (Spoken.single_integer "removed")))

def cacheSismember (space key : String) (member : List UInt8) : Stub Bool :=
  Cache.sismember.call H ((space, key), member)

def cacheScard (space key : String) : Stub Int := Cache.scard.call H (space, key)

def cacheSmembers (space key : String) : Stub (List (List UInt8)) :=
  Cache.smembers.call H (space, key)

def cacheSunion (space : String) (keys : List String) : Stub (List (List UInt8)) :=
  Cache.sunion.call H (space, keys)

def cacheSinter (space : String) (keys : List String) : Stub (List (List UInt8)) :=
  Cache.sinter.call H (space, keys)

def cacheSdiff (space : String) (keys : List String) : Stub (List (List UInt8)) :=
  Cache.sdiff.call H (space, keys)

def cacheSrandMember (space key : String) (count : Option I64) : Stub (List (List UInt8)) :=
  Cache.srandMember.call H ((space, key), count)

/-! ### Hashes -/

def cacheHset (space key : String) (entries : List CachePair) : Stub Int :=
  Cache.hset.stub H ((nonEmpty entries "entries").map fun entries => ((space, key), entries))
    (refusesInvalid_map (nonEmpty_refuses entries "entries") _) id

def cacheHsetText (space key : String) (entries : List (String × String)) : Stub Int :=
  cacheHset H space key (CachePair.fromText entries)

def cacheHget (space key : String) (field : List UInt8) : Stub (Option (List UInt8)) :=
  Cache.hget.call H ((space, key), field)

def cacheHdel (space key : String) (fields : List (List UInt8)) : Stub Int :=
  Cache.hdel.stub H ((nonEmpty fields "fields").map fun fields => ((space, key), fields))
    (refusesInvalid_map (nonEmpty_refuses fields "fields") _) id

def cacheHgetall (space key : String) : Stub (List CachePair) := Cache.hgetall.call H (space, key)

def cacheHexists (space key : String) (field : List UInt8) : Stub Bool :=
  Cache.hexists.call H ((space, key), field)

def cacheHlen (space key : String) : Stub Int := Cache.hlen.call H (space, key)

def cacheHincrBy (space key : String) (field : List UInt8) (by_ : I64) : Stub Int :=
  Cache.hincrBy.call H ((space, key), field, by_)

/-! ### Streams -/

/-- Append an entry; an id that is empty is left to the server. -/
def cacheXadd (space key : String) (fields : List CachePair) (id : Option String) : Stub String :=
  Cache.xadd.stub H ((nonEmpty fields "fields").map fun fields =>
      ((space, key), fields, id.filter fun i => !i.isEmpty))
    (refusesInvalid_map (nonEmpty_refuses fields "fields") _) fun id => id

def cacheXaddText (space key : String) (fields : List (String × String)) (id : Option String) :
    Stub String :=
  cacheXadd H space key (CachePair.fromText fields) id

def cacheXlen (space key : String) : Stub Int := Cache.xlen.call H (space, key)

def cacheXrange (space key start stop : String) (count : Option UInt64) : Stub (List StreamEntry) :=
  Cache.xrange.call H ((space, key), start, stop, count)

def cacheXread (space key after : String) (count : Option UInt64) : Stub (List StreamEntry) :=
  Cache.xread.call H ((space, key), after, count)

def cacheXdel (space key : String) (ids : List String) : Stub Int :=
  Cache.xdel.stub H ((nonEmpty ids "ids").map fun ids => ((space, key), ids))
    (refusesInvalid_map (nonEmpty_refuses ids "ids") _) id

def cacheXtrim (space key : String) (maxLen : UInt64) : Stub Int :=
  Cache.xtrim.call H ((space, key), maxLen)

/-! ### Sorted sets -/

/-- Add members, or change their scores; all of it is refused for one score that is no number. -/
def cacheZadd (space key : String) (members : List ScoredMember) : Stub ZAddCounts :=
  Cache.zadd.stub H ((Cache.finiteScores members).map fun members => ((space, key), members))
    (refusesInvalid_map (Cache.finiteScores_refuses members) _) id

def cacheZrem (space key : String) (members : List (List UInt8)) : Stub Int :=
  Cache.zrem.stub H ((nonEmpty members "members").map fun members => ((space, key), members))
    (refusesInvalid_map (nonEmpty_refuses members "members") _) id

def cacheZscore (space key : String) (member : List UInt8) : Stub (Option F64) :=
  Cache.zscore.call H ((space, key), member)

def cacheZcard (space key : String) : Stub Int := Cache.zcard.call H (space, key)

def cacheZrank (space key : String) (member : List UInt8) (rev : Bool) : Stub (Option Int) :=
  Cache.zrank.call H ((space, key), member, rev)

def cacheZrange (space key : String) (start stop : I64) (rev : Bool) : Stub (List (List UInt8)) :=
  Cache.rangedStub H Cache.zrange (.ok ((space, key), (start, stop), rev, false))
    (refusesInvalid_ok _) fun _ asked => by cases asked; rfl

def cacheZrangeWithScores (space key : String) (start stop : I64) (rev : Bool) :
    Stub (List ScoredMember) :=
  Cache.rangedStubWithScores H Cache.zrange (.ok ((space, key), (start, stop), rev, true))
    (refusesInvalid_ok _) fun _ asked => by cases asked; rfl

def cacheZrangeByScore (space key : String) (min max : ScoreBound) (rev : Bool)
    (limit : Option (UInt64 × UInt64)) : Stub (List (List UInt8)) :=
  Cache.rangedStub H Cache.zrangeByScore (Cache.scoreRange space key min max rev false limit)
    (Cache.scoreRange_refuses space key min max rev _ limit) fun _ => Cache.scoreRange_withScores

def cacheZrangeByScoreWithScores (space key : String) (min max : ScoreBound) (rev : Bool)
    (limit : Option (UInt64 × UInt64)) : Stub (List ScoredMember) :=
  Cache.rangedStubWithScores H Cache.zrangeByScore
    (Cache.scoreRange space key min max rev true limit) (Cache.scoreRange_refuses space key min max rev _ limit)
    fun _ => Cache.scoreRange_withScores

def cacheZincrBy (space key : String) (member : List UInt8) (by_ : F64) : Stub F64 :=
  Cache.zincrBy.stub H ((scoreValue by_ "by").map fun by_ => ((space, key), member, by_))
    (refusesInvalid_map (scoreValue_refuses by_ "by") _) id

/-! ### Locks -/

def cacheLockAcquire (space key owner : String) (ttl : Duration) : Stub CacheLock :=
  Cache.lockAcquire.call H ((space, key), owner, some (Cache.millis ttl))

def cacheLockRenew (space key owner : String) (ttl : Duration) : Stub CacheLockRenewal :=
  Cache.lockRenew.call H ((space, key), owner, some (Cache.millis ttl))

def cacheLockRelease (space key owner : String) : Stub Bool :=
  Cache.lockRelease.call H ((space, key), owner, none)

/-! ### Bitmaps and estimates -/

def cacheSetBit (space key : String) (offset : UInt64) (value : Bool) : Stub Bool :=
  Cache.setBit.callFor H ((space, key), offset, value) fun previous => previous != 0

def cacheGetBit (space key : String) (offset : UInt64) : Stub Bool :=
  Cache.getBit.callFor H ((space, key), offset) fun bit => bit != 0

def cacheBitCount (space key : String) (range : Option (I64 × I64)) : Stub Int :=
  Cache.bitCount.call H ((space, key), range)

def cacheBitPos (space key : String) (bit : Bool) (range : Option (I64 × I64)) : Stub Int :=
  Cache.bitPos.call H ((space, key), bit, range)

def cacheBitOp (space : String) (kind : BitOpKind) (dest : String) (keys : List String) : Stub Int :=
  Cache.bitOperation.call H (space, kind, dest, keys)

def cachePfAdd (space key : String) (elements : List (List UInt8)) : Stub Bool :=
  Cache.pfAdd.stub H ((nonEmpty elements "elements").map fun elements => ((space, key), elements))
    (refusesInvalid_map (nonEmpty_refuses elements "elements") _) id

def cachePfCount (space : String) (keys : List String) : Stub Int :=
  Cache.pfCount.call H (space, keys)

def cachePfMerge (space dest : String) (sources : List String) : Stub Unit :=
  Cache.pfMerge.perform (space, dest, sources)

/-! ### Pipelines, scripts and channels -/

def cachePipeline (ops : List CacheCommand) : Stub (List CacheReply) := Cache.pipeline.call H ops

/-- Run operations with none of another client's between them. -/
def cacheTransaction (ops : List CacheCommand) : Stub (List CacheReply) :=
  Cache.transaction.call H ops

def cacheScriptLoad (name : String) (ops : List CacheCommand) : Stub Unit :=
  Cache.scriptLoad.perform (name, ops)

def cacheScriptRun (name : String) (args : List String) : Stub (List CacheReply) :=
  Cache.scriptRun.call H (name, args)

def cachePublish (channel message : String) : Stub UInt64 :=
  Cache.publish.call H (channel, message)

/-- `limit` is a `u32`. -/
def cachePoll (channels : List String) (after : UInt64) (limit : Option UInt32) :
    Stub PolledMessages :=
  Cache.poll.call H (channels, after, limit.map UInt32.toUInt64)

/-! ### The node and the database -/

def cacheStats : Stub CacheStats := Cache.stats.call H ()

def cacheFlushDatabase : Stub Int := Cache.flushDatabase.call H ()

def cachePurgeExpired : Stub Int := Cache.purgeExpired.call H ()

def cacheHotKeys (limit : Option UInt64) : Stub Value := Cache.hotKeys.call H limit

def cacheSetNamespaceLimit (space : String) (maxKeys maxBytes : Option UInt64) :
    Stub NamespaceLimit :=
  Cache.setNamespaceLimit.call H (space, maxKeys, maxBytes)

def cacheGetNamespaceLimit (space : String) : Stub NamespaceLimit :=
  Cache.getNamespaceLimit.call H space

end

end TricoreSdk
