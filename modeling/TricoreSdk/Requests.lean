import Mathlib.Data.List.Nodup
import TricoreSdk.Addresses
import TricoreSdk.CacheStubs
import TricoreSdk.FrameStream
import TricoreSdk.GraphMethods
import TricoreSdk.LlmCalls
import TricoreSdk.NamedTxn
import TricoreSdk.RequestCalls
import TricoreSdk.TxnServer
import TricoreSdk.VectorMethods

/-! Requests as a server reads them: from the bytes of a `REQUEST` frame back to what is asked, of
which database, and in which transaction. -/

namespace TricoreSdk
open JsonText Shape Written

/-! ## Values out of their texts -/

/-- A reading of floats that inverts their spelling. No float is spelled like an integer. -/
structure FloatReader (F : FloatFormat) where
  read : List Char → Option Finite
  read_text : ∀ f, read (F.text f) = some f
  fractional : ∀ f, ∃ c ∈ F.text f, c ≠ '-' ∧ c.isDigit = false

namespace Number

/-- The integer that a token spells, if it spells one that fits. -/
def ofInteger : List Char → Option Number
  | '-' :: digits =>
    if h : digits.all Char.isDigit = true ∧ 0 < digitsValue digits ∧ digitsValue digits ≤ 2 ^ 63 then
      some (.negInt ⟨-digitsValue digits, by omega, by omega⟩)
    else none
  | digits =>
    if digits.all Char.isDigit = true ∧ digitsValue digits < 2 ^ 64 then
      some (.posInt (UInt64.ofNat (digitsValue digits)))
    else none

def ofToken {F : FloatFormat} (R : FloatReader F) (token : List Char) : Option Number :=
  match ofInteger token with
  | some n => some n
  | none => (R.read token).map float

theorem digitsValue_toDigits (n : Nat) : digitsValue (Nat.toDigits 10 n) = n := by
  rw [digitsValue_eq, Nat.ofDigitChars_ten_toDigits]

theorem all_toDigits (n : Nat) : (Nat.toDigits 10 n).all Char.isDigit = true :=
  List.all_eq_true.mpr (toDigits_isDigit n)

theorem ofInteger_pos (n : UInt64) : ofInteger (intToken n.toNat) = some (.posInt n) := by
  have digits : intToken n.toNat = Nat.toDigits 10 n.toNat := if_neg (by omega)
  have value : digitsValue (Nat.toDigits 10 n.toNat) = n.toNat := digitsValue_toDigits _
  have read : (if (Nat.toDigits 10 n.toNat).all Char.isDigit = true ∧
      digitsValue (Nat.toDigits 10 n.toNat) < 2 ^ 64 then
        some (Number.posInt (UInt64.ofNat (digitsValue (Nat.toDigits 10 n.toNat)))) else none) =
      some (.posInt n) := by
    rw [if_pos ⟨all_toDigits _, value.symm ▸ n.toNat_lt⟩, value, UInt64.ofNat_toNat]
  rw [digits]
  unfold ofInteger
  split
  · rename_i front rest minus
    have digit := all_toDigits n.toNat
    rw [minus] at digit
    simp at digit
  · exact read

theorem ofInteger_neg (i : { i : Int // -2 ^ 63 ≤ i ∧ i < 0 }) :
    ofInteger (intToken i.val) = some (.negInt i) := by
  obtain ⟨i, low, high⟩ := i
  have minus : intToken i = '-' :: Nat.toDigits 10 i.natAbs := if_pos high
  have value : digitsValue (Nat.toDigits 10 i.natAbs) = i.natAbs := digitsValue_toDigits _
  rw [minus, ofInteger, dif_pos ⟨all_toDigits _, by omega, by omega⟩]
  congr 3
  omega

theorem ofInteger_fractional {token : List Char} (h : ∃ c ∈ token, c ≠ '-' ∧ c.isDigit = false) :
    ofInteger token = none := by
  obtain ⟨c, among, ne, other⟩ := h
  unfold ofInteger
  split
  · rename_i front digits
    refine dif_neg fun fits => ?_
    have later : c ∈ digits := (List.mem_cons.mp among).resolve_left ne
    rw [List.all_eq_true.mp fits.1 c later] at other
    cases other
  · refine if_neg fun fits => ?_
    rw [List.all_eq_true.mp fits.1 c among] at other
    cases other

theorem ofToken_token {F : FloatFormat} (R : FloatReader F) (n : Number) :
    ofToken R (n.token F) = some n := by
  cases n with
  | posInt n => rw [token, ofToken, ofInteger_pos]
  | negInt i => rw [token, ofToken, ofInteger_neg]
  | float f => rw [token, ofToken, ofInteger_fractional (R.fractional f), R.read_text, Option.map_some]

end Number

namespace Value

variable {F : FloatFormat} (R : FloatReader F)

mutual

def ofDoc : Doc → Option Value
  | .null => some null
  | .bool b => some (bool b)
  | .num token => (Number.ofToken R token).map number
  | .str s => some (string s)
  | .arr items => (ofDocs items).map array
  | .obj members => (ofMembers members).map object

def ofDocs : List Doc → Option (List Value)
  | [] => some []
  | d :: ds => do return (← ofDoc d) :: (← ofDocs ds)

def ofMembers : List (String × Doc) → Option (List (String × Value))
  | [] => some []
  | (name, d) :: ds => do return (name, ← ofDoc d) :: (← ofMembers ds)

end

mutual

theorem ofDoc_doc (v : Value) : ofDoc R (v.doc F) = some v := by
  cases v with
  | null => rw [doc, ofDoc]
  | bool b => rw [doc, ofDoc]
  | number n => rw [doc, ofDoc, Number.ofToken_token, Option.map_some]
  | string s => rw [doc, ofDoc]
  | array items => rw [doc, ofDoc, ofDocs_docs items, Option.map_some]
  | object map => rw [doc, ofDoc, ofMembers_fieldDocs map, Option.map_some]

theorem ofDocs_docs (vs : List Value) : ofDocs R (docs F vs) = some vs := by
  cases vs with
  | nil => rw [docs, ofDocs]
  | cons v vs => simp [docs, ofDocs, ofDoc_doc v, ofDocs_docs vs]

theorem ofMembers_fieldDocs (ms : List (String × Value)) :
    ofMembers R (fieldDocs F ms) = some ms := by
  match ms with
  | [] => rw [fieldDocs, ofMembers]
  | (name, v) :: ms => simp [fieldDocs, ofMembers, ofDoc_doc v, ofMembers_fieldDocs ms]

end

def ofBytes (bytes : List UInt8) : Option Value := do
  let text ← bytes.toByteArray.utf8Decode?
  ofDoc R (← readText text.toList)

theorem ofBytes_toVec (v : Value) : ofBytes R (v.toVec F) = some v := by
  have decoded : (v.toVec F).toByteArray.utf8Decode? = some (v.toText F).toArray :=
    List.utf8Decode?_utf8Encode
  simp [ofBytes, decoded, readText_toText, ofDoc_doc]

end Value

/-! ## The operations of the crate -/

/-! SQL statements are sent with their parameters as they are bound. -/
namespace Statements
open Operation

def fields : Fields Value (String × Option (List Value)) :=
  (Fields.one "sql" text).and <| .optional "params" (listOf any)

def carrying (variant : String) : Operation (String × Option (List Value)) (String × Value) where
  module := "Sql"
  variant := variant
  payload := withFields fields (by decide)
  means _ kind data answer := answer = (kind, data)

def exec : Operation (String × Option (List Value)) (String × Value) := carrying "Exec"

def query : Operation (String × Option (List Value)) (String × Value) := carrying "Query"

def operations : List AnyOperation := [⟨exec⟩, ⟨query⟩]

theorem sqlBody_carried {c : Client} {verb sql : String} {params : List Param} {body : Value}
    (h : sqlBody c sql params = .returned body) :
    ∃ bound, sqlOp verb body = (carrying verb).value (sql, bound) := by
  unfold sqlBody at h
  split at h
  · cases h
    exact ⟨none, rfl⟩
  · split at h
    · cases h
    · split at h
      · cases h
      · rename_i unbound _ _ _
        unfold paramsToValue at h
        cases written : params.mapM Param.toValue with
        | none => rw [written] at h; cases h
        | some values =>
          rw [written] at h
          cases h
          refine ⟨some values, ?_⟩
          have same : values.map any.write = values := List.map_id values
          unfold Operation.value carrying withFields fields
          simp [Fields.coded, Fields.and, Fields.one, Fields.optional, Written.listOf, Coded.list,
            Value.format, same]
          rfl

end Statements

def tables : List (String × List AnyOperation) :=
  [("Sql", Statements.operations), ("Document", Documents.operations),
    ("Cache", Cache.operations), ("Graph", Graphs.operations), ("Vector", Vectors.operations),
    ("Llm", Llm.operations), ("Admin", Admin.operations)]

def crateOperations : List AnyOperation := tables.flatMap Prod.snd

theorem distinct_flatMap {tables : List (String × List AnyOperation)}
    (modules : (tables.map Prod.fst).Nodup)
    (own : ∀ t ∈ tables, ∀ o ∈ t.2, o.operation.module = t.1)
    (distinct : ∀ t ∈ tables, (t.2.map AnyOperation.tag).Nodup) :
    ((tables.flatMap Prod.snd).map AnyOperation.tag).Nodup := by
  induction tables with
  | nil => exact List.nodup_nil
  | cons t tables ih =>
    obtain ⟨fresh, modules⟩ := List.nodup_cons.mp modules
    have rest := ih modules (fun t' ht => own t' (List.mem_cons_of_mem _ ht)) fun t' ht =>
      distinct t' (List.mem_cons_of_mem _ ht)
    rw [List.flatMap_cons, List.map_append, List.nodup_append]
    refine ⟨distinct t List.mem_cons_self, rest, ?_⟩
    intro tag among tag' among' same
    obtain ⟨o, ho, rfl⟩ := List.mem_map.mp among
    obtain ⟨o', ho', rfl⟩ := List.mem_map.mp among'
    obtain ⟨t', ht', ho'⟩ := List.mem_flatMap.mp ho'
    have module : t.1 = t'.1 :=
      (own t List.mem_cons_self o ho).symm.trans ((congrArg Prod.fst same).trans
        (own t' (List.mem_cons_of_mem _ ht') o' ho'))
    exact fresh (module ▸ List.mem_map_of_mem ht')

theorem crateOperations_distinct : (crateOperations.map AnyOperation.tag).Nodup := by
  refine distinct_flatMap (by decide) (by decide) ?_
  intro t ht
  simp only [tables, List.mem_cons, List.not_mem_nil, or_false] at ht
  rcases ht with rfl | rfl | rfl | rfl | rfl | rfl | rfl
  · decide
  · exact Documents.operations_distinct
  · exact Cache.operations_distinct
  · exact Graphs.operations_distinct
  · exact Vectors.operations_distinct
  · decide
  · decide

/-! ## Envelopes -/

/-- What a request asks for: an operation, in a database and perhaps a transaction. -/
structure Errand where
  database : String
  txn : Option String
  request : Request

/-- A request as it is sent: an errand with its id and its deadline. -/
structure Envelope extends Errand where
  requestId : String
  timeoutMs : Option UInt64

def readEnvelope (ops : List AnyOperation) (v : Value) : Option Envelope :=
  ((v.get "database").bind Value.asStr).bind fun database =>
    ((v.get "request_id").bind Value.asStr).bind fun requestId =>
      ((v.get "op").bind (readRequest ops)).map fun request =>
        { database := database
          txn := (v.option? "txn").bind Value.asStr
          request := request
          requestId := requestId
          timeoutMs := (v.option? "timeout_ms").bind Value.asU64 }

def Client.errand (c : Client) (txn : Option String) (request : Request) : Errand :=
  ⟨c.database, txn, request⟩

section

variable {ops : List AnyOperation} (distinct : (ops.map AnyOperation.tag).Nodup)

include distinct

theorem readEnvelope_envelope {o : AnyOperation} (among : o ∈ ops) (a : o.Args) (c : Client)
    (txn : Option String) :
    readEnvelope ops (c.envelope (o.operation.value a) txn) =
      some ⟨c.errand txn ⟨o, a⟩, c.counted.requestId, c.requestTimeoutMs⟩ := by
  have named : ((c.envelope (o.operation.value a) txn).option? "txn").bind Value.asStr = txn := by
    rw [envelope_option?, requestOptions_txn]
    cases txn <;> rfl
  have timed : ((c.envelope (o.operation.value a) txn).option? "timeout_ms").bind Value.asU64 =
      c.requestTimeoutMs := by
    rw [envelope_option?, requestOptions_timeout]
    cases c.requestTimeoutMs <;> rfl
  have request := readRequest_value distinct among a
  rw [readEnvelope, named, timed, Client.envelope, envelopeOf_database, envelopeOf_requestId,
    envelopeOf_op]
  simp [Value.asStr, request, Client.errand]

end

/-! ## Requests on a stream -/

structure Posted where
  client : Client
  txn : Option String
  request : Request

namespace Posted

def envelope (p : Posted) : Envelope :=
  ⟨p.client.errand p.txn p.request, p.client.counted.requestId, p.client.requestTimeoutMs⟩

def frame {ω : Type} (H : Host ω) (p : Posted) : Frame :=
  ⟨.request, H.body (some (p.client.envelope (p.request.of.operation.value p.request.args) p.txn))⟩

/-- What a server makes of a frame. -/
def ofFrame {F : FloatFormat} (R : FloatReader F) (frame : Frame) : Option Envelope :=
  match frame.tag with
  | .request => (Value.ofBytes R frame.payload).bind (readEnvelope crateOperations)
  | _ => none

theorem ofFrame_frame {ω : Type} {H : Host ω} (R : FloatReader H.serde.floats) {p : Posted}
    (known : p.request.of ∈ crateOperations) : ofFrame R (p.frame H) = some p.envelope := by
  change (Value.ofBytes R (Value.toVec H.serde.floats _)).bind _ = _
  rw [Value.ofBytes_toVec]
  exact readEnvelope_envelope crateOperations_distinct known p.request.args p.client p.txn

end Posted

/-- However a stream is cut, a server reads off it the requests that were written: each operation
with its arguments, the database and the transaction it is for, its id and its deadline. -/
theorem requests_readBack {σ ω : Type} {S : Source σ} {pending : σ → List UInt8}
    (delivers : S.Delivers pending) (H : Host ω) (R : FloatReader H.serde.floats)
    (posted : List Posted) (known : ∀ p ∈ posted, p.request.of ∈ crateOperations)
    (fit : AllFit (posted.map (Posted.frame H))) :
    ∃ bytes, encodeAll (posted.map (Posted.frame H)) = .ok bytes ∧
      ∀ s rest, pending s = bytes ++ rest → ∃ frames s',
        readFrames S.reader posted.length s = (.ok frames, s') ∧ pending s' = rest ∧
          frames.map (Posted.ofFrame R) = posted.map fun p => some p.envelope := by
  obtain ⟨bytes, encoded, reads⟩ := readFrames_encodeAll delivers fit
  refine ⟨bytes, encoded, fun s rest held => ?_⟩
  obtain ⟨s', read, left⟩ := reads s rest held
  rw [List.length_map] at read
  refine ⟨_, s', read, left, ?_⟩
  rw [List.map_map]
  exact List.map_congr_left fun p among => Posted.ofFrame_frame R (known p among)

/-- Floats by the digits of their bits, and a fraction behind them. -/
def bitFloats : FloatFormat where
  text f := Nat.toDigits 10 f.val.bits.toNat ++ ['.', '0']
  isToken f := by
    obtain ⟨c, cs, digits⟩ := List.exists_cons_of_ne_nil (Nat.toDigits_ne_nil (n := f.val.bits.toNat))
    have digit := toDigits_isDigit f.val.bits.toNat
    rw [digits] at digit ⊢
    refine ⟨⟨c, cs ++ ['.', '0'], rfl, .inr (digit c List.mem_cons_self)⟩, fun d among => ?_⟩
    rcases List.mem_append.mp among with among | among
    · simp [isNumberChar, digit d among]
    · rcases List.mem_pair.mp among with rfl | rfl <;> rfl

def bitReader : FloatReader bitFloats where
  read token :=
    let f : F64 := ⟨.ofNat 64 (digitsValue (token.takeWhile Char.isDigit))⟩
    if h : f.isFinite = true then some ⟨f, h⟩ else none
  read_text f := by
    have digits : (bitFloats.text f).takeWhile Char.isDigit = Nat.toDigits 10 f.val.bits.toNat := by
      rw [bitFloats, List.takeWhile_append_of_pos (toDigits_isDigit _)]
      simp
    obtain ⟨f, finite⟩ := f
    simp [digits, Number.digitsValue_toDigits, finite]
  fractional f := ⟨'.', by simp [bitFloats], by decide, by decide⟩

def bitHost : Host Desk := { deskHost with serde := { scriptSerde with floats := bitFloats } }

/-- A read of the cache, and a search of documents inside a transaction. -/
def postedTwice : List Posted :=
  [⟨session, none, ⟨Cache.getDel.operation⟩, ("sessions", "k1")⟩,
    ⟨session, some "t1", ⟨Documents.find.operation⟩,
      ("users", .and [.compare .eq "age" (.ofU64 7), .isIn "city" [.string "Oslo", .null]], some 5)⟩]

theorem requests_readBack_twice :
    ∃ bytes, encodeAll (postedTwice.map (Posted.frame bitHost)) = .ok bytes ∧
      ∀ s rest, List.flatten s = bytes ++ rest → ∃ frames s',
        readFrames Source.chunked.reader postedTwice.length s = (.ok frames, s') ∧
          List.flatten s' = rest ∧
          frames.map (Posted.ofFrame (F := bitHost.serde.floats) bitReader) =
            postedTwice.map fun p => some p.envelope := by
  refine requests_readBack Source.chunked_delivers bitHost bitReader postedTwice ?_ ?_
  · intro p among
    rcases List.mem_pair.mp among with rfl | rfl
    · exact List.mem_flatMap.mpr ⟨("Cache", Cache.operations), by simp [tables],
        by simp [Cache.operations]⟩
    · exact List.mem_flatMap.mpr ⟨("Document", Documents.operations), by simp [tables],
        by simp [Documents.operations]⟩
  · intro frame among
    rcases List.mem_pair.mp among with rfl | rfl <;> decide +kernel

end TricoreSdk
