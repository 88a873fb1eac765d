import Mathlib.Data.List.Forall2
import TricoreSdk.CollectionOptions
import TricoreSdk.CacheTtl
import TricoreSdk.Lib.BinaryFloat

/-! The searches that take options (`vector.rs`): which fields of a `VectorSearchOptions` reach
the server, and as what. -/

namespace TricoreSdk
open Effects BinaryFloat

/-! ## Floats of 32 bits -/

structure F32 where
  bits : BitVec 32
  deriving DecidableEq

namespace F32

def fields (f : F32) : Fields where
  negative := decide (2 ^ 31 ≤ f.bits.toNat)
  exponent := f.bits.toNat / 2 ^ 23 % 2 ^ 8
  fraction := f.bits.toNat % 2 ^ 23

def isFinite (f : F32) : Bool := f.fields.exponent != 255

theorem fits (f : F32) : f.fields.Fits 23 := Nat.mod_lt _ (Nat.two_pow_pos 23)

theorem eq_of_fields {f g : F32} (h : f.fields = g.fields) : f = g := by
  have := f.bits.isLt
  have := g.bits.isLt
  simp only [fields, Fields.mk.injEq, decide_eq_decide] at h
  have same : f.bits.toNat = g.bits.toNat := by omega
  cases f
  cases g
  exact congrArg F32.mk (BitVec.eq_of_toNat_eq same)

end F32

namespace F64

def fields (d : F64) : Fields where
  negative := decide (2 ^ 63 ≤ d.bits.toNat)
  exponent := d.bits.toNat / 2 ^ 52 % 2 ^ 11
  fraction := d.bits.toNat % 2 ^ 52

def ofFields (n : Fields) : F64 :=
  ⟨BitVec.ofNat 64 ((n.negative.toNat * 2 ^ 11 + n.exponent) * 2 ^ 52 + n.fraction)⟩

theorem fields_ofFields {n : Fields} (exponent : n.exponent < 2 ^ 11) (fits : n.Fits 52) :
    (ofFields n).fields = n := by
  obtain ⟨negative, e, fraction⟩ := n
  simp only [Fields.Fits] at exponent fits
  cases negative
  · have word : (0 * 2 ^ 11 + e) * 2 ^ 52 + fraction < 2 ^ 64 := by omega
    simp only [fields, ofFields, BitVec.toNat_ofNat, Bool.toNat_false, Nat.mod_eq_of_lt word,
      Fields.mk.injEq, decide_eq_false_iff_not]
    omega
  · have word : (1 * 2 ^ 11 + e) * 2 ^ 52 + fraction < 2 ^ 64 := by omega
    simp only [fields, ofFields, BitVec.toNat_ofNat, Bool.toNat_true, Nat.mod_eq_of_lt word,
      Fields.mk.injEq, decide_eq_true_eq]
    omega

theorem isFinite_iff (d : F64) : d.isFinite = true ↔ d.fields.exponent ≠ 2047 := by
  rw [isFinite, bne_iff_ne, ne_eq, ne_eq, ← BitVec.toNat_inj]
  simp only [fields, BitVec.toNat_and, BitVec.toNat_ushiftRight, Nat.shiftRight_eq_div_pow]
  have mask : (0x7ff#64).toNat = 2 ^ 11 - 1 := rfl
  rw [mask, Nat.and_two_pow_sub_one_eq_mod]
  exact Iff.rfl

/-- A float of 64 bits that is one of 32 bits, sign and magnitude. -/
def Is (d : F64) (f : F32) : Prop :=
  d.fields.negative = f.fields.negative ∧ d.fields.units 52 = f.fields.units 23 * 2 ^ 925

theorem Is.injective {d : F64} {f g : F32} (hf : d.Is f) (hg : d.Is g) : f = g := by
  have magnitude := hf.2.symm.trans hg.2
  generalize 925 = scale at magnitude
  exact F32.eq_of_fields (Fields.eq_of_units f.fits g.fits (hf.1.symm.trans hg.1)
    (Nat.eq_of_mul_eq_mul_right (Nat.two_pow_pos scale) magnitude))

end F64

namespace F32

/-- `f as f64` of a finite float. -/
def toF64 (f : F32) : F64 := .ofFields (f.fields.widen 23 52 896)

theorem fields_toF64 {f : F32} (h : f.isFinite = true) :
    f.toF64.fields = f.fields.widen 23 52 896 ∧ f.toF64.isFinite = true := by
  have finite : f.fields.exponent ≠ 255 := bne_iff_ne.mp h
  have narrow : f.fields.exponent < 2 ^ 8 := Nat.mod_lt _ (Nat.two_pow_pos 8)
  have exponent : (f.fields.widen 23 52 896).exponent ≤ f.fields.exponent + 896 :=
    Fields.widen_exponent_le f.fits (by decide)
  have fields := F64.fields_ofFields (n := f.fields.widen 23 52 896) (by omega)
    (Fields.widen_fits f.fits (by decide))
  refine ⟨fields, (F64.isFinite_iff _).mpr ?_⟩
  rw [toF64, fields]
  omega

theorem toF64_is {f : F32} (h : f.isFinite = true) : f.toF64.Is f := by
  rw [F64.Is, (fields_toF64 h).1, Fields.widen_negative,
    Fields.units_widen f.fits (by decide) (by decide), show 52 - 23 + 896 = 925 from rfl]
  exact ⟨rfl, rfl⟩

/-- The float nearest to `n / 2 ^ k` times the least positive one, the even one of two. -/
def nearest (negative : Bool) (n k : Nat) : F32 :=
  let drop := max k (Nat.log2 n - 23)
  -- The leading bit of the significand adds one to the exponent.
  let word := (drop - k) * 2 ^ 23 + F64.roundEven n drop
  ⟨BitVec.ofNat 32 (negative.toNat * 2 ^ 31 + min word (255 * 2 ^ 23))⟩

end F32

/-- A float that is not finite becomes `null`. -/
def serializeF32 (f : F32) : Value :=
  if h : f.isFinite = true then .number (.float ⟨f.toF64, (F32.fields_toF64 h).2⟩) else .null

/-- An `f32` out of a number of any kind. -/
def Value.asF32 : Value → Option F32
  | number (.posInt n) => some (F32.nearest false (n.toNat * 2 ^ 149) 0)
  | number (.negInt i) => some (F32.nearest true (i.val.natAbs * 2 ^ 149) 0)
  | number (.float d) => some (F32.nearest d.val.fields.negative (d.val.fields.units 52) 925)
  | _ => none

/-! ## The options -/

inductive ScoreMetric where
  | cosine
  | dot
  | l2
  | l1
  | linf
  deriving DecidableEq

inductive FilterStrategy where
  | auto
  | graph
  | exact
  deriving DecidableEq

inductive AnnIndex where
  | hnsw
  | ivf
  | ivfPq
  deriving DecidableEq

/-! The names of the variants in `snake_case`. -/

def ScoreMetric.name : ScoreMetric → String
  | cosine => "cosine"
  | dot => "dot"
  | l2 => "l2"
  | l1 => "l1"
  | linf => "linf"

def FilterStrategy.name : FilterStrategy → String
  | auto => "auto"
  | graph => "graph"
  | exact => "exact"

def AnnIndex.name : AnnIndex → String
  | hnsw => "hnsw"
  | ivf => "ivf"
  | ivfPq => "ivf_pq"

theorem ScoreMetric.name_injective (a b : ScoreMetric) (h : b.name = a.name) : b = a := by
  cases a <;> cases b <;> simp [name] at h ⊢

theorem FilterStrategy.name_injective (a b : FilterStrategy) (h : b.name = a.name) : b = a := by
  cases a <;> cases b <;> simp [name] at h ⊢

theorem AnnIndex.name_injective (a b : AnnIndex) (h : b.name = a.name) : b = a := by
  cases a <;> cases b <;> simp [name] at h ⊢

structure SparseVector where
  indices : List UInt32
  values : List F32
  deriving DecidableEq

def sparseObject (indices : List UInt32) (weights : List Value) : Value :=
  Value.ofFields [("indices", .array (indices.map fun i => .ofU64 i.toUInt64)), ("values", .array weights)]

def SparseVector.toValue (v : SparseVector) : Value :=
  sparseObject v.indices (v.values.map serializeF32)

/-- What a batch or example search should apply beyond its query vectors; a `usize` has 64 bits. -/
structure VectorSearchOptions where
  filter : Option Value := none
  minScore : Option F32 := none
  includeVectors : Bool := false
  offset : Option UInt64 := none
  includeMetadata : Option Bool := none
  maxDistance : Option F32 := none
  efSearch : Option UInt64 := none
  exact : Bool := false
  scoreMetric : Option ScoreMetric := none
  filterStrategy : Option FilterStrategy := none
  usingVector : Option String := none
  tenant : Option String := none
  space : Option String := none
  sparse : Option SparseVector := none
  hybridAlpha : Option F32 := none
  explain : Bool := false
  scoreExpr : Option String := none
  explainText : Option String := none
  ann : Option AnnIndex := none
  nprobe : Option UInt64 := none

namespace VectorSearchOptions

def default : VectorSearchOptions := {}

def put (body : List (String × Value)) (key : String) : Option Value → List (String × Value)
  | some value => Map.insert key value body
  | none => body

/-- `b.then_some(true)`. -/
def thenTrue (b : Bool) : Option Bool := if b then some true else none

def write (o : VectorSearchOptions) (body : List (String × Value)) : List (String × Value) :=
  let body := put body "filter" o.filter
  let body := put body "min_score" (o.minScore.map serializeF32)
  let body := put body "include_vectors" ((thenTrue o.includeVectors).map .bool)
  let body := put body "offset" (o.offset.map .ofU64)
  let body := put body "include_metadata" (o.includeMetadata.map .bool)
  let body := put body "max_distance" (o.maxDistance.map serializeF32)
  let body := put body "ef_search" (o.efSearch.map .ofU64)
  let body := put body "exact" ((thenTrue o.exact).map .bool)
  let body := put body "score_metric" (o.scoreMetric.map fun m => .string m.name)
  let body := put body "filter_strategy" (o.filterStrategy.map fun s => .string s.name)
  let body := put body "using" (o.usingVector.map .string)
  let body := put body "tenant" (o.tenant.map .string)
  let body := put body "namespace" (o.space.map .string)
  let body := put body "sparse" (o.sparse.map SparseVector.toValue)
  let body := put body "hybrid_alpha" (o.hybridAlpha.map serializeF32)
  let body := put body "explain" ((thenTrue o.explain).map .bool)
  let body := put body "score_expr" (o.scoreExpr.map .string)
  let body := put body "explain_text" (o.explainText.map .string)
  let body := put body "ann" (o.ann.map fun a => .string a.name)
  put body "nprobe" (o.nprobe.map .ofU64)

end VectorSearchOptions

/-! ## What a field is to become -/

/-- How the values of a type are written: as what, which JSON is a value's own, and which values
JSON can carry. -/
structure Spelling (α : Type) where
  toValue : α → Value
  Own : α → Value → Prop
  Carried : α → Prop
  own_iff : ∀ a, Own a (toValue a) ↔ Carried a
  injective : ∀ {a b}, Own a (toValue b) → b = a

namespace Spelling

/-- Values that are written injectively, each as itself. -/
def plain {α : Type} (toValue : α → Value) (injective : ∀ a b, toValue b = toValue a → b = a) :
    Spelling α where
  toValue := toValue
  Own a v := v = toValue a
  Carried _ := True
  own_iff _ := ⟨fun _ => trivial, fun _ => rfl⟩
  injective h := injective _ _ h

def json : Spelling Value := plain id fun _ _ h => h

def flag : Spelling Bool := plain .bool fun _ _ h => Value.bool.inj h

def count : Spelling UInt64 := plain .ofU64 fun _ _ h => by
  cases h
  rfl

def text : Spelling String := plain .string fun _ _ h => Value.string.inj h

def variant {α : Type} (name : α → String) (injective : ∀ a b, name b = name a → b = a) : Spelling α :=
  plain (fun a => .string (name a)) fun a b h => injective a b (Value.string.inj h)

end Spelling

/-- A number, and the same one as the float. -/
def OwnFloat (f : F32) (v : Value) : Prop := ∃ d : Finite, v = .number (.float d) ∧ d.val.Is f

theorem ownFloat_iff (f : F32) : OwnFloat f (serializeF32 f) ↔ f.isFinite = true := by
  unfold serializeF32
  constructor
  · rintro ⟨d, written, -⟩
    by_contra odd
    rw [dif_neg odd] at written
    cases written
  · intro finite
    rw [dif_pos finite]
    exact ⟨_, rfl, F32.toF64_is finite⟩

theorem OwnFloat.injective {f g : F32} (h : OwnFloat f (serializeF32 g)) : g = f := by
  obtain ⟨d, written, is⟩ := h
  unfold serializeF32 at written
  split at written
  · rename_i finite
    cases written
    exact (F32.toF64_is finite).injective is
  · cases written

/-- The indices, and each weight as its own number. -/
def OwnSparse (v : SparseVector) (w : Value) : Prop :=
  ∃ weights, w = sparseObject v.indices weights ∧ List.Forall₂ OwnFloat v.values weights

theorem get_ofFields {fields : List (String × Value)} (distinct : (fields.map Prod.fst).Nodup)
    (key : String) : (Value.ofFields fields).get key = fields.lookup key := by
  change List.lookup key (fields.foldl _ []) = _
  rw [Value.lookup_foldl_insert distinct, List.lookup_nil, Option.or_none]

theorem sparseObject_get (indices : List UInt32) (weights : List Value) :
    (sparseObject indices weights).get "indices"
        = some (.array (indices.map fun i => .ofU64 i.toUInt64)) ∧
      (sparseObject indices weights).get "values" = some (.array weights) := by
  have other : "values" ≠ "indices" := by decide
  have distinct : (["indices", "values"] : List String).Nodup := by decide
  unfold sparseObject
  rw [get_ofFields (by exact distinct), get_ofFields (by exact distinct)]
  simp only [lookup_cons_ite, if_neg other, if_true, and_self]

theorem sparseObject_inj {is js : List UInt32} {vs ws : List Value}
    (h : sparseObject is vs = sparseObject js ws) : is = js ∧ vs = ws := by
  have left := sparseObject_get is vs
  rw [h, (sparseObject_get js ws).1, (sparseObject_get js ws).2] at left
  simp only [Option.some.injEq, Value.array.injEq] at left
  refine ⟨List.map_injective_iff.mpr (fun i j same => ?_) left.1.symm, left.2.symm⟩
  simp only [Value.ofU64, Value.number.injEq, Number.posInt.injEq] at same
  exact UInt32.toUInt64_inj.mp same

theorem forall₂_ownFloat (values : List F32) :
    List.Forall₂ OwnFloat values (values.map serializeF32) ↔ ∀ f ∈ values, f.isFinite = true := by
  rw [List.forall₂_map_right_iff, List.forall₂_same]
  exact forall₂_congr fun f _ => ownFloat_iff f

theorem ownSparse_iff (v : SparseVector) :
    OwnSparse v v.toValue ↔ ∀ f ∈ v.values, f.isFinite = true := by
  rw [← forall₂_ownFloat]
  constructor
  · rintro ⟨weights, written, own⟩
    exact (sparseObject_inj written).2 ▸ own
  · intro own
    exact ⟨_, rfl, own⟩

theorem OwnSparse.injective {v w : SparseVector} (h : OwnSparse v w.toValue) : w = v := by
  obtain ⟨weights, written, own⟩ := h
  obtain ⟨indices, values⟩ := sparseObject_inj written
  rw [← values, List.forall₂_map_right_iff] at own
  have same : v.values = w.values :=
    List.forall₂_eq_eq_eq ▸ own.imp fun _ _ is => is.injective.symm
  cases v
  cases w
  cases indices
  cases same
  rfl

namespace Spelling

def float : Spelling F32 where
  toValue := serializeF32
  Own := OwnFloat
  Carried f := f.isFinite = true
  own_iff := ownFloat_iff
  injective := OwnFloat.injective

def sparse : Spelling SparseVector where
  toValue := SparseVector.toValue
  Own := OwnSparse
  Carried v := ∀ f ∈ v.values, f.isFinite = true
  own_iff := ownSparse_iff
  injective := OwnSparse.injective

end Spelling

/-! ## The table of the fields -/

/-- A field by its key, what is read off it, where it is set, and how that is written. -/
structure SearchField where
  key : String
  {α : Type}
  spelling : Spelling α
  get : VectorSearchOptions → Option α

namespace VectorSearchOptions

def searchFields : List SearchField :=
  [⟨"filter", .json, filter⟩, ⟨"min_score", .float, minScore⟩,
    ⟨"include_vectors", .flag, fun o => thenTrue o.includeVectors⟩, ⟨"offset", .count, offset⟩,
    ⟨"include_metadata", .flag, includeMetadata⟩, ⟨"max_distance", .float, maxDistance⟩,
    ⟨"ef_search", .count, efSearch⟩, ⟨"exact", .flag, fun o => thenTrue o.exact⟩,
    ⟨"score_metric", .variant ScoreMetric.name ScoreMetric.name_injective, scoreMetric⟩,
    ⟨"filter_strategy", .variant FilterStrategy.name FilterStrategy.name_injective, filterStrategy⟩,
    ⟨"using", .text, usingVector⟩, ⟨"tenant", .text, tenant⟩, ⟨"namespace", .text, space⟩,
    ⟨"sparse", .sparse, sparse⟩, ⟨"hybrid_alpha", .float, hybridAlpha⟩,
    ⟨"explain", .flag, fun o => thenTrue o.explain⟩, ⟨"score_expr", .text, scoreExpr⟩,
    ⟨"explain_text", .text, explainText⟩, ⟨"ann", .variant AnnIndex.name AnnIndex.name_injective, ann⟩,
    ⟨"nprobe", .count, nprobe⟩]

def written (o : VectorSearchOptions) (f : SearchField) : Option Value :=
  (f.get o).map f.spelling.toValue

theorem write_eq (o : VectorSearchOptions) (body : List (String × Value)) :
    o.write body = searchFields.foldl (fun body f => put body f.key (o.written f)) body := by
  have filter : o.filter = o.filter.map Spelling.json.toValue := by cases o.filter <;> rfl
  unfold write
  rw [filter]
  rfl

theorem keys_nodup : (searchFields.map SearchField.key).Nodup := by decide

theorem foldl_put (entries : List (String × Option Value)) (body : List (String × Value)) :
    entries.foldl (fun body e => put body e.1 e.2) body =
      (Value.present entries).foldl (fun map e => Map.insert e.1 e.2 map) body := by
  induction entries generalizing body with
  | nil => rfl
  | cons e entries ih =>
    obtain ⟨key, v⟩ := e
    cases v with
    | none => exact ih body
    | some v => exact ih (Map.insert key v body)

theorem lookup_write_eq (o : VectorSearchOptions) (body : List (String × Value)) (key : String) :
    (o.write body).lookup key =
      ((Value.present (searchFields.map fun f => (f.key, o.written f))).lookup key).or
        (body.lookup key) := by
  have entries := foldl_put (searchFields.map fun f => (f.key, o.written f)) body
  rw [List.foldl_map] at entries
  rw [write_eq, entries, Value.lookup_foldl_insert]
  refine (Value.present_names _).nodup ?_
  rw [List.map_map]
  exact keys_nodup

theorem lookup_write (o : VectorSearchOptions) {f : SearchField} (among : f ∈ searchFields)
    (body : List (String × Value)) :
    (o.write body).lookup f.key = (o.written f).or (body.lookup f.key) := by
  have distinct : ((searchFields.map fun f => (f.key, o.written f)).map Prod.fst).Nodup := by
    rw [List.map_map]
    exact keys_nodup
  rw [lookup_write_eq, Value.lookup_present distinct
    (List.mem_map_of_mem (f := fun f => (f.key, o.written f)) among)]

theorem lookup_write_of_unset {o : VectorSearchOptions} {key : String}
    (unset : ∀ f ∈ searchFields, f.key = key → f.get o = none) (body : List (String × Value)) :
    (o.write body).lookup key = body.lookup key := by
  by_cases named : key ∈ searchFields.map SearchField.key
  · obtain ⟨f, among, rfl⟩ := List.mem_map.mp named
    rw [lookup_write o among, written, unset f among rfl, Option.map_none, Option.none_or]
  · rw [lookup_write_eq, Value.lookup_present_of_notMem, Option.none_or]
    rw [List.map_map]
    exact named

theorem eq_of_get {o o' : VectorSearchOptions} (h : ∀ f ∈ searchFields, f.get o' = f.get o) : o' = o := by
  have flag {b b' : Bool} (h : thenTrue b' = thenTrue b) : b' = b := by
    cases b <;> cases b' <;> cases h <;> rfl
  simp only [searchFields, List.forall_mem_cons] at h
  obtain ⟨filter, minScore, includeVectors, offset, includeMetadata, maxDistance, efSearch, exact,
    scoreMetric, filterStrategy, usingVector, tenant, space, sparse, hybridAlpha, explain,
    scoreExpr, explainText, ann, nprobe, -⟩ := h
  cases o
  cases o'
  cases filter
  cases minScore
  cases flag includeVectors
  cases offset
  cases includeMetadata
  cases maxDistance
  cases efSearch
  cases flag exact
  cases scoreMetric
  cases filterStrategy
  cases usingVector
  cases tenant
  cases space
  cases sparse
  cases hybridAlpha
  cases flag explain
  cases scoreExpr
  cases explainText
  cases ann
  cases nprobe
  rfl

end VectorSearchOptions

/-! ## The searches -/

structure VectorHit where
  id : String
  score : F32
  metadata : SortedMap String Value
  vector : Option (List F32)
  reason : Option String

structure VectorSearchResult where
  results : List VectorHit
  index : String

inductive VectorExample where
  | id (id : String)
  | vector (vector : List F32)
  deriving DecidableEq

def VectorExample.toValue : VectorExample → Value
  | .id name => .string name
  | .vector values => .array (values.map serializeF32)

/-- `serde_null::or_default`: `null` is the default too. -/
def Value.orNull {α : Type} (default : α) (read : Value → Option α) (v : Value) : Option α :=
  (asOption read v).map fun a => a.getD default

def VectorHit.fromValue (v : Value) : Option VectorHit := do
  match ← v.structFields ["id", "score", "metadata", "vector", "reason"] with
  | [id, score, metadata, vector, reason] =>
    some
      { id := ← (← id).asStr
        score := ← Value.orDefault ⟨0⟩ Value.asF32 score
        metadata := ← Value.orDefault .empty (Value.orNull .empty (Value.asMap some)) metadata
        vector := ← Value.orDefault none (Value.asOption (Value.asArray Value.asF32)) vector
        reason := ← Value.orDefault none Value.asOptionStr reason }
  | _ => none

def VectorSearchResult.fromValue (v : Value) : Option VectorSearchResult := do
  match ← v.structFields ["results", "index"] with
  | [results, index] =>
    some
      { results := ← Value.orDefault [] (Value.orNull [] (Value.asArray VectorHit.fromValue)) results
        index := ← Value.orDefault "" Value.asStr index }
  | _ => none

def batchResults (v : Value) : Option (List (List VectorHit)) := do
  match ← v.structFields ["results"] with
  | [results] => Value.orDefault [] (Value.asArray (Value.asArray VectorHit.fromValue)) results
  | _ => none

def vectorOp (variant : String) (body : List (String × Value)) : Value :=
  Value.ofFields [("Vector", Value.ofFields [(variant, .object body)])]

/-- The fields of a body, in the order they are inserted. -/
def bodyOf (fields : List (String × Value)) : List (String × Value) :=
  fields.foldl (fun body field => Map.insert field.1 field.2 body) []

def searchBatchBody (collection : String) (vectors : List (List F32)) (topK : UInt64) :
    List (String × Value) :=
  bodyOf [("collection", .string collection),
    ("vectors", .array (vectors.map fun vector => .array (vector.map serializeF32))),
    ("top_k", .ofU64 topK)]

def searchByExamplesBody (collection : String) (positive negative : List VectorExample)
    (topK : UInt64) (excludeExamples : Bool) : List (String × Value) :=
  bodyOf [("collection", .string collection), ("positive", .array (positive.map VectorExample.toValue)),
    ("negative", .array (negative.map VectorExample.toValue)), ("top_k", .ofU64 topK),
    ("exclude_examples", .bool excludeExamples)]

section

variable {ω : Type} (H : Host ω)

def vectorSearchBatch (collection : String) (vectors : List (List F32)) (topK : UInt64)
    (options : VectorSearchOptions) : TypedMethod (List (List VectorHit)) where
  op := .ok (vectorOp "SearchBatch" (options.write (searchBatchBody collection vectors topK)))
  decode r := r.decode (H.serde.mismatch "Batch") batchResults "SearchBatch"
  refused := TypedMethod.unrefused _
  misread _ _ := Response.decode_misread

def vectorSearchByExamples (collection : String) (positive negative : List VectorExample)
    (topK : UInt64) (excludeExamples : Bool) (options : VectorSearchOptions) :
    TypedMethod VectorSearchResult where
  op := .ok (vectorOp "SearchByExamples"
    (options.write (searchByExamplesBody collection positive negative topK excludeExamples)))
  decode r := r.decode (H.serde.mismatch "VectorSearchResult") VectorSearchResult.fromValue
    "SearchByExamples"
  refused := TypedMethod.unrefused _
  misread _ _ := Response.decode_misread

end

inductive Search where
  | batch (collection : String) (vectors : List (List F32)) (topK : UInt64)
  | byExamples (collection : String) (positive negative : List VectorExample) (topK : UInt64)
    (excludeExamples : Bool)
  deriving DecidableEq

namespace Search

/-- What a body holds before the options are written into it. -/
def body : Search → List (String × Value)
  | batch collection vectors topK => searchBatchBody collection vectors topK
  | byExamples collection positive negative topK excludeExamples =>
    searchByExamplesBody collection positive negative topK excludeExamples

def variant : Search → String
  | batch _ _ _ => "SearchBatch"
  | byExamples _ _ _ _ _ => "SearchByExamples"

/-- The operation a search sends with these options, or its refusal. -/
def op {ω : Type} (H : Host ω) (options : VectorSearchOptions) : Search → Except Error Value
  | batch collection vectors topK => (vectorSearchBatch H collection vectors topK options).op
  | byExamples collection positive negative topK excludeExamples =>
    (vectorSearchByExamples H collection positive negative topK excludeExamples options).op

theorem op_eq {ω : Type} (H : Host ω) (options : VectorSearchOptions) (search : Search) :
    search.op H options = .ok (vectorOp search.variant (options.write search.body)) := by
  cases search <;> rfl

theorem lookup_body (search : Search) {f : SearchField}
    (among : f ∈ VectorSearchOptions.searchFields) : search.body.lookup f.key = none := by
  have absent {fields : List (String × Value)} (distinct : (fields.map Prod.fst).Nodup)
      (other : f.key ∉ fields.map Prod.fst) : (bodyOf fields).lookup f.key = none := by
    rw [bodyOf, Value.lookup_foldl_insert distinct, List.lookup_nil, Option.or_none,
      List.lookup_eq_none_iff]
    intro m hm
    exact bne_iff_ne.mpr fun same => other (same ▸ List.mem_map_of_mem hm)
  have batch : ∀ f ∈ VectorSearchOptions.searchFields, f.key ∉ ["collection", "vectors", "top_k"] := by
    decide
  have examples : ∀ f ∈ VectorSearchOptions.searchFields,
      f.key ∉ ["collection", "positive", "negative", "top_k", "exclude_examples"] := by decide
  cases search with
  | batch => exact absent (by simp) (batch f among)
  | byExamples => exact absent (by simp) (examples f among)

end Search

namespace VectorSearchOptions

def scores (o : VectorSearchOptions) : List F32 :=
  o.minScore.toList ++ o.maxDistance.toList ++ o.hybridAlpha.toList

def weights (o : VectorSearchOptions) : List F32 := (o.sparse.map SparseVector.values).getD []

/-- What a search does with its options. -/
structure Sent (o : VectorSearchOptions) : Prop where
  distinct : (searchFields.map SearchField.key).Nodup
  put : ∀ f ∈ searchFields, ∀ body, body.lookup f.key = none →
    (((o.write body).lookup f.key).isSome ↔ f.get o ≠ f.get .default)
  own : ∀ f ∈ searchFields, ∀ a, f.get o = some a →
    ∀ body, ∃ v, (o.write body).lookup f.key = some v ∧ f.spelling.Own a v
  untouched : ∀ key, (∀ f ∈ searchFields, f.key = key → f.get o = f.get .default) →
    ∀ body, (o.write body).lookup key = body.lookup key
  kept : ∀ (search : Search) (key : String) (v : Value), search.body.lookup key = some v →
    (o.write search.body).lookup key = some v
  apart : ∀ {ω : Type} (H : Host ω) (search : Search) (o' : VectorSearchOptions),
    search.op H o' = search.op H o → o' = o
  refused : ∀ {ω : Type} (H : Host ω) (search : Search), (∃ f ∈ o.scores, f.isFinite = false) →
    ∃ e, search.op H o = .error e

def Finite (o : VectorSearchOptions) : Prop :=
  (∀ f ∈ o.scores, f.isFinite = true) ∧ ∀ f ∈ o.weights, f.isFinite = true

theorem finite_iff (o : VectorSearchOptions) :
    o.Finite ↔ ∀ f ∈ searchFields, ∀ a, f.get o = some a → f.spelling.Carried a := by
  have weights : (∀ f ∈ o.weights, f.isFinite = true) ↔
      ∀ v, o.sparse = some v → ∀ f ∈ v.values, f.isFinite = true := by
    unfold weights
    cases o.sparse <;> simp
  simp only [Finite, scores, List.mem_append, Option.mem_toList, or_imp, forall_and, weights,
    searchFields, List.forall_mem_cons, Spelling.json, Spelling.flag, Spelling.count, Spelling.text,
    Spelling.variant, Spelling.plain, Spelling.float, Spelling.sparse, implies_true, true_and]
  constructor
  · rintro ⟨⟨⟨minScore, maxDistance⟩, hybridAlpha⟩, sparse⟩
    exact ⟨minScore, maxDistance, sparse, hybridAlpha, fun f none => by cases none⟩
  · rintro ⟨minScore, maxDistance, sparse, hybridAlpha, -⟩
    exact ⟨⟨⟨minScore, maxDistance⟩, hybridAlpha⟩, sparse⟩

theorem written_eq_some {o : VectorSearchOptions} {f : SearchField} {a : f.α} (h : f.get o = some a) :
    o.written f = some (f.spelling.toValue a) := by
  rw [written, h, Option.map_some]

theorem get_default : ∀ f ∈ searchFields, f.get .default = none := by
  simp only [searchFields, List.forall_mem_cons]
  simp [default, thenTrue]

theorem get_eq_of_written {o o' : VectorSearchOptions} {f : SearchField}
    (carried : ∀ a, f.get o = some a → f.spelling.Carried a) (h : o'.written f = o.written f) :
    f.get o' = f.get o := by
  cases told : f.get o with
  | none =>
    rw [written, written, told] at h
    exact Option.map_eq_none_iff.mp h
  | some a =>
    rw [written_eq_some told, written, Option.map_eq_some_iff] at h
    obtain ⟨b, told', same⟩ := h
    have own := (f.spelling.own_iff a).mpr (carried a told)
    rw [← same] at own
    rw [told', f.spelling.injective own]

theorem vectorOp_inj {variant : String} {body body' : List (String × Value)}
    (h : vectorOp variant body = vectorOp variant body') : body = body' := by
  injection h with h
  injection h with h _
  injection h with _ h
  injection h with h
  injection h with h _
  injection h with _ h
  injection h

/-- A search sends its options as they are set exactly if each of their floats is a number. -/
theorem sent_iff (o : VectorSearchOptions) : o.Sent ↔ o.Finite := by
  rw [finite_iff]
  constructor
  · intro sent f among a told
    obtain ⟨v, written, own⟩ := sent.own f among a told []
    rw [lookup_write o among, written_eq_some told, Option.some_or] at written
    cases written
    exact (f.spelling.own_iff a).mp own
  · intro carried
    refine ⟨keys_nodup, ?_, ?_, ?_, ?_, ?_, ?_⟩
    · intro f among body clear
      rw [lookup_write o among, clear, Option.or_none, get_default f among, written, Option.isSome_map,
        Option.isSome_iff_ne_none]
    · intro f among a told body
      refine ⟨f.spelling.toValue a, ?_, (f.spelling.own_iff a).mpr (carried f among a told)⟩
      rw [lookup_write o among, written_eq_some told, Option.some_or]
    · intro key unset body
      refine lookup_write_of_unset (fun f among named => ?_) body
      rw [unset f among named, get_default f among]
    · intro search key v held
      rw [lookup_write_of_unset _ search.body, held]
      rintro f among rfl
      rw [search.lookup_body among] at held
      cases held
    · intro ω H search o' same
      refine eq_of_get fun f among => get_eq_of_written (carried f among) ?_
      rw [search.op_eq, search.op_eq] at same
      have bodies := vectorOp_inj (Except.ok.inj same)
      have found := congrArg (List.lookup f.key) bodies
      rwa [lookup_write o' among, lookup_write o among, search.lookup_body among, Option.or_none,
        Option.or_none] at found
    · rintro ω H search ⟨f, score, odd⟩
      rw [((finite_iff o).mpr carried).1 f score] at odd
      cases odd

/-- A bound that is no number goes out as `null`, which is no bound. -/
theorem nan_sent : ¬Sent { minScore := some ⟨0x7fc00000⟩ } := by
  intro sent
  have among : ⟨"min_score", .float, minScore⟩ ∈ searchFields := .tail _ (.head _)
  obtain ⟨v, held, d, number, -⟩ := sent.own _ among ⟨0x7fc00000⟩ rfl []
  have null : serializeF32 ⟨0x7fc00000⟩ = .null := rfl
  rw [lookup_write _ among, written_eq_some rfl, Option.some_or] at held
  cases null.symm.trans ((Option.some.inj held).trans number)

end VectorSearchOptions

end TricoreSdk
