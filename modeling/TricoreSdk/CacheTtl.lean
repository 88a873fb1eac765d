import TricoreSdk.Lib.Units
import TricoreSdk.ByteValues
import TricoreSdk.Capability
import TricoreSdk.NamedTxn

/-! The deadlines a caller gives as a duration and a server gets in milliseconds: the TTLs of the
cache (`cache.rs`) and the timeout of every request (`Client::set_request_timeout`). -/

namespace TricoreSdk
open Effects

def I64 := { i : Int // -2 ^ 63 ≤ i ∧ i < 2 ^ 63 }
  deriving DecidableEq

def maxI64 : Nat := 2 ^ 63 - 1

def maxU64 : Nat := 2 ^ 64 - 1

def Value.ofI64 (i : I64) : Value := serializeI64 i.val i.property.1

namespace Cache

/-- `duration.as_millis().min(i64::MAX as u128) as i64`. -/
def millis (duration : Duration) : I64 :=
  ⟨min (duration.nanos / 1000000) maxI64, by simp only [maxI64]; omega⟩

def ttlValue (ttl : Option Duration) : Value :=
  match Duration.nonZero ttl with
  | some t => .ofI64 (millis t)
  | none => .null

end Cache

structure CacheEntry where
  key : String
  value : List UInt8
  deriving DecidableEq

def CacheEntry.toWire (entry : CacheEntry) : Value :=
  Value.ofFields [("key", .string entry.key), ("value", byteList entry.value)]

structure WarmCounts where
  written : Int
  alreadyCached : Int
  deriving DecidableEq

/-- What `cache_compare_and_swap` did, and on a mismatch what it found instead. -/
structure CompareAndSwap where
  swapped : Bool
  current : Option (List UInt8)
  currentIsBinary : Bool
  deriving DecidableEq

namespace Value

def boolField (name : String) (v : Value) : Option Bool := do
  match ← v.structFields [name] with
  | [b] => orDefault false asBool b
  | _ => none

/-- An `Option<String>`: `null` is `None`. -/
def asOptionStr : Value → Option (Option String)
  | null => some none
  | v => v.asStr.map some

end Value

def WarmCounts.fromValue (v : Value) : Option WarmCounts := do
  match ← v.structFields ["written", "alreadyCached"] with
  | [written, cached] =>
    some
      { written := ← Value.orDefault 0 Value.asI64 written
        alreadyCached := ← Value.orDefault 0 Value.asI64 cached }
  | _ => none

def CompareAndSwap.fromValue (v : Value) : Option CompareAndSwap := do
  match ← v.structFields ["swapped", "current", "currentIsBinary"] with
  | [swapped, current, binary] =>
    let current ← Value.orDefault none Value.asOptionStr current
    some
      { swapped := ← Value.orDefault false Value.asBool swapped
        current := current.map fun text => text.toList.flatMap String.utf8EncodeChar
        currentIsBinary := ← Value.orDefault false Value.asBool binary }
  | _ => none

/-! ## Operations with a TTL -/

def cacheSetBody (space key : String) (value : List UInt8) (ttl : Option Duration) :
    List (String × Value) :=
  nsKey space key ++ [("value", byteList value), ("ttl_ms", Cache.ttlValue ttl)]

def cacheSetOp (space key : String) (value : List UInt8) (ttl : Option Duration) : Value :=
  cacheOp "Set" (cacheSetBody space key value ttl)

def cacheSetNxOp (space key : String) (value : List UInt8) (ttl : Option Duration) : Value :=
  cacheOp "SetNx" (cacheSetBody space key value ttl)

def cacheGetSetOp (space key : String) (value : List UInt8) (ttl : Option Duration) : Value :=
  cacheOp "GetSet" (cacheSetBody space key value ttl)

def entriesOp (variant space : String) (entries : List CacheEntry) (ttl : Option Duration) : Value :=
  cacheOp variant
    [("namespace", .string space), ("entries", .array (entries.map CacheEntry.toWire)),
      ("ttl_ms", Cache.ttlValue ttl)]

def cacheCompareAndSwapOp (space key : String) (expected value : Option (List UInt8))
    (ttl : Option Duration) : Value :=
  cacheOp "CompareAndSwap" (nsKey space key ++
    [("expected", optionalBytes expected), ("value", optionalBytes value),
      ("ttl_ms", Cache.ttlValue ttl)])

def cacheSetFreshOp (space key : String) (value : List UInt8) (fresh : Duration)
    (ttl : Option Duration) : Value :=
  cacheOp "SetFresh" (nsKey space key ++
    [("value", byteList value), ("fresh_ms", .ofI64 (Cache.millis fresh)),
      ("ttl_ms", Cache.ttlValue ttl)])

/-- `CacheCommand::set`: an operation of a pipeline. -/
def cacheCommandSet (space key : String) (value : List UInt8) (ttl : Option Duration) : Value :=
  Value.ofFields [("Set", Value.ofFields (cacheSetBody space key value ttl))]

/-- The operation of `cache_expire`, whose TTL is no option. -/
def cacheExpireOp (space key : String) (ttl : Duration) : Value :=
  cacheOp "Expire" (nsKey space key ++ [("ttl_ms", .ofI64 (Cache.millis ttl))])

section

variable {ω α : Type} (H : Host ω)

/-- A method without an argument to refuse, answered by a `Json` payload. -/
def cacheJson (op : Value) (type : String) (fromValue : Value → Option α) (what : String) :
    TypedMethod α where
  op := .ok op
  decode r := r.decode (H.serde.mismatch type) fromValue what
  refused := TypedMethod.unrefused _
  misread _ _ := Response.decode_misread

/-- Store a value, expiring after `ttl`. -/
def cacheSetTtl (space key : String) (value : List UInt8) (ttl : Option Duration) :
    TypedMethod Unit where
  op := .ok (cacheSetOp space key value ttl)
  decode _ := .ok ()
  refused := TypedMethod.unrefused _
  misread _ _ h := by cases h

/-- Store a value only if the key is absent, reporting whether it was written. -/
def cacheSetNx (space key : String) (value : List UInt8) (ttl : Option Duration) :
    TypedMethod Bool :=
  cacheJson H (cacheSetNxOp space key value ttl) "cache_set_nx::Set" (Value.boolField "set")
    "SetNx"

def cacheMset (space : String) (entries : List CacheEntry) (ttl : Option Duration) :
    TypedMethod Int :=
  cacheJson H (entriesOp "MSet" space entries ttl) "cache_mset::Set" (Value.intField "set") "MSet"

def cacheWarm (space : String) (entries : List CacheEntry) (ttl : Option Duration) :
    TypedMethod WarmCounts :=
  cacheJson H (entriesOp "Warm" space entries ttl) "WarmCounts" WarmCounts.fromValue "Warm"

def cacheCompareAndSwap (space key : String) (expected value : Option (List UInt8))
    (ttl : Option Duration) : TypedMethod CompareAndSwap :=
  cacheJson H (cacheCompareAndSwapOp space key expected value ttl)
    "cache_compare_and_swap::Wire" CompareAndSwap.fromValue "CompareAndSwap"

def cacheGetSet (space key : String) (value : List UInt8) (ttl : Option Duration) :
    TypedMethod (Option (List UInt8)) :=
  cacheValue H (cacheGetSetOp space key value ttl) "GetSet"

/-- Write a value that reads as fresh for `fresh`, and as stale after that. -/
def cacheSetFresh (space key : String) (value : List UInt8) (fresh : Duration)
    (ttl : Option Duration) : TypedMethod Int :=
  cacheJson H (cacheSetFreshOp space key value fresh ttl) "Fresh" (Value.intField "freshUntilMs")
    "SetFresh"

def cacheExpire (space key : String) (ttl : Duration) : TypedMethod Bool :=
  cacheJson H (cacheExpireOp space key ttl) "Updated" (Value.boolField "updated") "Expire"

end

/-! ## What a deadline becomes -/

open Units

theorem millis_toNat (d : Duration) : d.millis.toNat = inUnits 1000000 maxU64 d.nanos := by
  have := inUnits_le 1000000 maxU64 d.nanos
  simp only [inUnits, maxU64] at this ⊢
  simp only [Duration.millis, UInt64.toNat_ofNat', Nat.min_def]
  split <;> omega

theorem cacheMillis_eq (d : Duration) : (Cache.millis d).val = inUnits 1000000 maxI64 d.nanos := by
  simp only [Cache.millis, inUnits]
  omega

theorem ofI64_eq (i : I64) (h : 0 ≤ i.val) : Value.ofI64 i = .ofU64 (UInt64.ofNat i.val.toNat) := by
  rw [Value.ofI64, serializeI64, dif_neg (by omega)]
  rfl

/-- What the server gets of a deadline: nothing when there is none, and otherwise the number of
its milliseconds, less than one off unless it is the largest there is. -/
structure Told (ceiling : Nat) (d : Option Duration) (wire : Option Value) : Prop where
  untold : (wire = none ∨ wire = some .null) ↔ ∀ t, d = some t → t.nanos = 0
  told : ∀ t, d = some t → t.nanos ≠ 0 → ∃ n : UInt64, wire = some (.ofU64 n) ∧ 1 ≤ n.toNat ∧
    ((n.toNat * 1000000 ≤ t.nanos ∧ t.nanos < (n.toNat + 1) * 1000000) ∨
      (n.toNat = ceiling ∧ ceiling * 1000000 ≤ t.nanos))

/-- A deadline of no milliseconds that is not zero is none of them. -/
def NotBelowMilli (d : Option Duration) : Prop :=
  ∀ t, d = some t → t.nanos = 0 ∨ 1000000 ≤ t.nanos

theorem nonZero_some (t : Duration) :
    Duration.nonZero (some t) = if t.nanos = 0 then none else some t := by
  by_cases h : t.nanos = 0 <;> simp [Duration.nonZero, Duration.isZero, Option.filter_some, h]

section

variable {ceiling : Nat} {wire : Option Value}

theorem told_of_nothing {d : Option Duration} (nothing : wire = none ∨ wire = some .null)
    (zero : ∀ t, d = some t → t.nanos = 0) : Told ceiling d wire where
  untold := ⟨fun _ => zero, fun _ => nothing⟩
  told t is short := absurd (zero t is) short

theorem told_iff_of_number {t : Duration} (wide : ceiling < 2 ^ 64) (roomy : 0 < ceiling)
    (short : t.nanos ≠ 0)
    (number : wire = some (.ofU64 (UInt64.ofNat (inUnits 1000000 ceiling t.nanos)))) :
    Told ceiling (some t) wire ↔ 1000000 ≤ t.nanos := by
  have small := inUnits_le 1000000 ceiling t.nanos
  have written : (UInt64.ofNat (inUnits 1000000 ceiling t.nanos)).toNat =
      inUnits 1000000 ceiling t.nanos := by
    rw [UInt64.toNat_ofNat']
    exact Nat.mod_eq_of_lt (by omega)
  constructor
  · intro told
    obtain ⟨n, same, positive, -⟩ := told.told t rfl short
    rw [number] at same
    cases same
    rw [written] at positive
    exact (inUnits_pos_iff (by decide) roomy).mp positive
  · intro long
    refine ⟨⟨fun said => ?_, fun zero => absurd (zero t rfl) short⟩, fun t' is _ => ?_⟩
    · rw [number] at said
      rcases said with said | said <;> cases said
    · cases is
      refine ⟨_, number, ?_, ?_⟩
      · rw [written]
        exact (inUnits_pos_iff (by decide) roomy).mpr long
      · rw [written]
        by_cases saturated : inUnits 1000000 ceiling t.nanos = ceiling
        · exact .inr ⟨saturated, (inUnits_eq_ceiling_iff (by decide)).mp saturated⟩
        · exact .inl (inUnits_near (by decide) saturated)

theorem told_iff {d : Option Duration} (wide : ceiling < 2 ^ 64) (roomy : 0 < ceiling)
    (nothing : (∀ t, d = some t → t.nanos = 0) → wire = none ∨ wire = some .null)
    (number : ∀ t, d = some t → t.nanos ≠ 0 →
      wire = some (.ofU64 (UInt64.ofNat (inUnits 1000000 ceiling t.nanos)))) :
    Told ceiling d wire ↔ NotBelowMilli d := by
  by_cases zero : ∀ t, d = some t → t.nanos = 0
  · exact ⟨fun _ t is => .inl (zero t is), fun _ => told_of_nothing (nothing zero) zero⟩
  · obtain ⟨t, rfl, short⟩ : ∃ t, d = some t ∧ t.nanos ≠ 0 := by
      simpa only [not_forall, exists_prop] using zero
    rw [told_iff_of_number wide roomy short (number t rfl short)]
    constructor
    · rintro long _ ⟨⟩
      exact .inr long
    · exact fun h => (h t rfl).resolve_left short

end

theorem nonZero_eq_none {d : Option Duration} (zero : ∀ t, d = some t → t.nanos = 0) :
    Duration.nonZero d = none := by
  cases d with
  | none => rfl
  | some t => rw [nonZero_some, if_pos (zero t rfl)]

theorem told_ttlValue (d : Option Duration) :
    Told maxI64 d (some (Cache.ttlValue d)) ↔ NotBelowMilli d := by
  refine told_iff (by decide) (by decide) (fun zero => ?_) fun t is short => ?_
  · rw [Cache.ttlValue, nonZero_eq_none zero]
    exact .inr rfl
  · subst is
    have value := cacheMillis_eq t
    rw [Cache.ttlValue, nonZero_some, if_neg short]
    dsimp only
    rw [ofI64_eq _ (by omega), value, Int.toNat_natCast]

theorem told_requestTimeout (d : Option Duration) :
    Told maxU64 d (((Duration.nonZero d).map Duration.millis).map .ofU64) ↔ NotBelowMilli d := by
  refine told_iff (by decide) (by decide) (fun zero => ?_) fun t is short => ?_
  · rw [nonZero_eq_none zero]
    exact .inl rfl
  · subst is
    rw [nonZero_some, if_neg short, Option.map_some, Option.map_some, ← millis_toNat,
      UInt64.ofNat_toNat]

/-! ## What the operations carry -/

def ttlIn (variant : String) (op : Value) : Option Value :=
  (op.get variant).bind fun body => body.get "ttl_ms"

theorem ttlIn_body (variant : String) (fields : List (String × Value)) (ttl : Value) :
    ttlIn variant (Value.ofFields [(variant, Value.ofFields (fields ++ [("ttl_ms", ttl)]))]) =
      some ttl := by
  simp [ttlIn, Value.ofFields, Value.get, Map.lookup_insert]

def TypedMethod.ttl? {α : Type} (variant : String) (m : TypedMethod α) : Option Value :=
  match m.op with
  | .ok op => (op.get "Cache").bind (ttlIn variant)
  | .error _ => none

theorem ttl?_of_op {α : Type} {variant : String} {m : TypedMethod α}
    (fields : List (String × Value)) {ttl : Value}
    (h : m.op = .ok (cacheOp variant (fields ++ [("ttl_ms", ttl)]))) :
    m.ttl? variant = some ttl := by
  rw [TypedMethod.ttl?, h]
  exact ttlIn_body variant fields ttl

/-- A closure that leaves the timeout of its requests as it is. -/
def Proc.KeepsTimeout {α : Type} : Proc α → Prop
  | done _ => True
  | panic => True
  | look next => ∀ c, (next c).KeepsTimeout
  | call c next => (∀ t, c ≠ .setRequestTimeout t) ∧ ∀ o, (next o).KeepsTimeout

section

variable {ω α : Type} {H : Host ω}

theorem run_keepsTimeout {call : Call} (other : ∀ t, call ≠ .setRequestTimeout t)
    (s : Client × Process ω) :
    (call.run H s).state.1.requestTimeoutMs = s.1.requestTimeoutMs := by
  by_cases configures : call.Configures
  · obtain ⟨c, p⟩ := s
    cases call with
    | setReadTimeout t =>
      rcases setReadTimeout_apply (H := H) t c p with ⟨w, -, run⟩ | ⟨e, w, -, run⟩ <;>
        simp [Call.run, run, Execution.after, Client.withReadTimeout]
    | setRequestTimeout t => exact absurd rfl (other t)
    | setRequestTxn t => simp [Call.run, Execution.after, Client.withRequestTxn]
    | _ => cases configures
  · exact (run_names configures s).1

theorem alongRun_timeout {work : Proc α} (keeps : work.KeepsTimeout) (log : List Event)
    (s : Client × Process ω) :
    AlongRun H (fun _ s' call => ∀ e ∈ (call.run H s').events, ∀ stated,
      e.option? "timeout_ms" = some stated → stated = s.1.requestTimeoutMs.map .ofU64)
      log s work := by
  generalize timeout : s.1.requestTimeoutMs = ms
  induction work generalizing log s with
  | done result => trivial
  | panic => trivial
  | look next ih => exact ih s.1 (keeps s.1) log s timeout
  | call c next ih =>
    refine ⟨fun e he stated hs => ?_, ih _ (keeps.2 _) _ _ ?_⟩
    · rw [run_states "timeout_ms" c s e he stated hs, requestOptions_timeout, timeout]
    · rw [run_keepsTimeout keeps.1, timeout]

end

/-! ## Told on every way to the server -/

/-- Every method of the cache that takes a TTL tells the server of it, and so does a pipeline. -/
structure TtlsTold (d : Option Duration) : Prop where
  set : ∀ space key value, Told maxI64 d ((cacheSetTtl space key value d).ttl? "Set")
  setNx : ∀ {ω : Type} (H : Host ω) space key value,
    Told maxI64 d ((cacheSetNx H space key value d).ttl? "SetNx")
  mset : ∀ {ω : Type} (H : Host ω) space entries,
    Told maxI64 d ((cacheMset H space entries d).ttl? "MSet")
  warm : ∀ {ω : Type} (H : Host ω) space entries,
    Told maxI64 d ((cacheWarm H space entries d).ttl? "Warm")
  compareAndSwap : ∀ {ω : Type} (H : Host ω) space key expected value,
    Told maxI64 d ((cacheCompareAndSwap H space key expected value d).ttl? "CompareAndSwap")
  getSet : ∀ {ω : Type} (H : Host ω) space key value,
    Told maxI64 d ((cacheGetSet H space key value d).ttl? "GetSet")
  setFresh : ∀ {ω : Type} (H : Host ω) space key value fresh,
    Told maxI64 d ((cacheSetFresh H space key value fresh d).ttl? "SetFresh")
  command : ∀ space key value, Told maxI64 d (ttlIn "Set" (cacheCommandSet space key value d))

/-- Once it is set as the timeout of requests, every request tells the server of it. -/
def RequestsTold (d : Option Duration) : Prop :=
  ∀ {ω α : Type} (H : Host ω) (work : Proc α) (log : List Event) (s : Client × Process ω),
    work.KeepsTimeout → AlongRun H (fun _ s' call => ∀ e ∈ (call.run H s').events, ∀ stated,
      e.option? "timeout_ms" = some stated → Told maxU64 d stated)
      log (s.1.withRequestTimeout d, s.2) work

theorem ttlsTold_of_told {d : Option Duration}
    (told : Told maxI64 d (some (Cache.ttlValue d))) : TtlsTold d where
  set space key value := by
    rw [ttl?_of_op (nsKey space key ++ [("value", byteList value)]) rfl]
    exact told
  setNx H space key value := by
    rw [ttl?_of_op (nsKey space key ++ [("value", byteList value)]) rfl]
    exact told
  mset H space entries := by
    rw [ttl?_of_op
      [("namespace", .string space), ("entries", .array (entries.map CacheEntry.toWire))] rfl]
    exact told
  warm H space entries := by
    rw [ttl?_of_op
      [("namespace", .string space), ("entries", .array (entries.map CacheEntry.toWire))] rfl]
    exact told
  compareAndSwap H space key expected value := by
    rw [ttl?_of_op (nsKey space key ++
      [("expected", optionalBytes expected), ("value", optionalBytes value)]) rfl]
    exact told
  getSet H space key value := by
    rw [ttl?_of_op (nsKey space key ++ [("value", byteList value)]) rfl]
    exact told
  setFresh H space key value fresh := by
    rw [ttl?_of_op (nsKey space key ++
      [("value", byteList value), ("fresh_ms", .ofI64 (Cache.millis fresh))]) rfl]
    exact told
  command space key value := by
    have carried := ttlIn_body "Set" (nsKey space key ++ [("value", byteList value)])
      (Cache.ttlValue d)
    rw [← carried] at told
    exact told

theorem told_of_ttlsTold {d : Option Duration} (h : TtlsTold d) :
    Told maxI64 d (some (Cache.ttlValue d)) := by
  have told := h.set "" "" []
  rwa [ttl?_of_op (nsKey "" "" ++ [("value", byteList [])]) rfl] at told

theorem requestsTold_of_told {d : Option Duration}
    (told : Told maxU64 d (((Duration.nonZero d).map Duration.millis).map .ofU64)) :
    RequestsTold d := by
  intro ω α H work log s keeps
  have said := alongRun_timeout (H := H) keeps log (s.1.withRequestTimeout d, s.2)
  refine said.imp (I := fun _ _ => True) (fun log s' call _ stated => ⟨?_, trivial⟩) trivial
  intro e he wire hw
  rw [stated e he wire hw]
  exact told

/-- A client that has set a timeout of less than a millisecond. -/
def hurried : Client := { session with requestTimeoutMs := some 0 }

theorem hurried_fits :
    (scripted.body (some (hurried.envelope (.string "Ping") none))).length ≤
      Tag.request.maxPayload := by
  with_unfolding_all decide

theorem hurried_requests : ∃ es,
    ((Call.request (.string "Ping")).run scripted (hurried, playing [])).events =
      .wrote hurried.transport .request (some (hurried.envelope (.string "Ping") none)) :: es := by
  rw [run_request rfl, sendIn_apply]
  exact sendLoop_begins ⟨rfl, rfl⟩ (encode_of_le hurried_fits) _ _ _ _

theorem hurried_eq {t : Duration} (short : t.nanos ≠ 0) (below : t.nanos < 1000000) :
    session.withRequestTimeout (some t) = hurried := by
  have none_whole : t.millis = 0 := by
    rw [← UInt64.toNat_inj, millis_toNat, inUnits]
    simp only [maxU64, UInt64.toNat_zero]
    omega
  simp only [Client.withRequestTimeout, nonZero_some, if_neg short, Option.map_some, none_whole,
    hurried]

theorem notBelowMilli_of_requestsTold {d : Option Duration} (h : RequestsTold d) :
    NotBelowMilli d := by
  intro t is
  subst is
  by_contra fraction
  have short : t.nanos ≠ 0 := fun zero => fraction (.inl zero)
  have below : t.nanos < 1000000 := by
    by_contra long
    exact fraction (.inr (by omega))
  let ping : Proc Unit := .ofCalls [.request (.string "Ping")]
  have run := h scripted ping [] (session, playing []) ⟨nofun, fun _ => trivial⟩
  rw [hurried_eq short below] at run
  obtain ⟨es, written⟩ := hurried_requests
  have told := run.1 _ (by rw [written]; exact List.mem_cons_self) _ rfl
  obtain ⟨n, same, positive, -⟩ := told.told t rfl short
  rw [Option.bind_some, envelope_option?, requestOptions_timeout] at same
  cases same
  cases positive

/-- A deadline that is not zero is sent as one exactly when it is no fraction of a millisecond. -/
theorem deadlines_told_iff (d : Option Duration) :
    (TtlsTold d ↔ NotBelowMilli d) ∧ (RequestsTold d ↔ NotBelowMilli d) :=
  ⟨⟨fun h => (told_ttlValue d).mp (told_of_ttlsTold h),
      fun h => ttlsTold_of_told ((told_ttlValue d).mpr h)⟩,
    ⟨notBelowMilli_of_requestsTold, fun h => requestsTold_of_told ((told_requestTimeout d).mpr h)⟩⟩

def halfMilli : Duration := ⟨500000, by decide⟩

theorem not_told_halfMilli :
    ¬TtlsTold (some halfMilli) ∧ ¬RequestsTold (some halfMilli) := by
  have fraction : ¬NotBelowMilli (some halfMilli) := by
    intro h
    rcases h halfMilli rfl with zero | long
    · cases zero
    · exact absurd long (by decide)
  exact ⟨fun h => fraction ((told_ttlValue _).mp (told_of_ttlsTold h)),
    fun h => fraction (notBelowMilli_of_requestsTold h)⟩

end TricoreSdk
