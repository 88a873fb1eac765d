import TricoreSdk.VectorSearch
import TricoreSdk.GraphCalls

/-! Vectors (`vector.rs`): the arguments of their operations and the answers. -/

namespace TricoreSdk
open BinaryFloat Shape Written

/-! ## Floats of 32 bits as they are read back -/

theorem F64.roundEven_mul (m k : Nat) : roundEven (m * 2 ^ k) k = m := by
  have positive : 0 < 2 ^ k := Nat.two_pow_pos k
  rw [roundEven, Nat.mul_mod_left, Nat.mul_div_cancel _ positive, Nat.zero_mul, if_neg (by omega)]

namespace F32

theorem eq_word (f : F32) :
    f = ⟨BitVec.ofNat 32 (f.fields.negative.toNat * 2 ^ 31 +
      (f.fields.exponent * 2 ^ 23 + f.fields.fraction))⟩ := by
  obtain ⟨bits⟩ := f
  have := bits.isLt
  refine congrArg F32.mk (BitVec.eq_of_toNat_eq ?_)
  rw [BitVec.toNat_ofNat]
  by_cases sign : 2 ^ 31 ≤ bits.toNat
  · simp only [fields, sign, decide_true, Bool.toNat_true]
    omega
  · simp only [fields, sign, decide_false, Bool.toNat_false]
    omega

theorem nearest_units {f : F32} (h : f.isFinite = true) (k : Nat) :
    nearest f.fields.negative (f.fields.units 23 * 2 ^ k) k = f := by
  have finite : f.fields.exponent ≠ 255 := bne_iff_ne.mp h
  have narrow : f.fields.exponent < 2 ^ 8 := Nat.mod_lt _ (Nat.two_pow_pos 8)
  have fits : f.fields.fraction < 2 ^ 23 := f.fits
  conv_rhs => rw [f.eq_word]
  unfold nearest
  dsimp only
  by_cases normal : f.fields.exponent = 0
  · -- Below the least normal number the units are the fraction.
    have units : f.fields.units 23 = f.fields.fraction := if_pos normal
    have drop : max k (Nat.log2 (f.fields.fraction * 2 ^ k) - 23) = k := by
      by_cases zero : f.fields.fraction = 0
      · simp [zero]
      · have leads : Nat.log2 f.fields.fraction < 23 := (Nat.log2_lt zero).mpr fits
        rw [log2_mul_pow zero]
        omega
    rw [units, drop, F64.roundEven_mul, normal, Nat.sub_self, Nat.min_eq_left (by omega)]
  · obtain ⟨e, he⟩ := Nat.exists_eq_succ_of_ne_zero normal
    have units : f.fields.units 23 = (2 ^ 23 + f.fields.fraction) * 2 ^ e := by
      rw [BinaryFloat.Fields.units, if_neg normal, he, Nat.succ_sub_one]
    have magnitude : f.fields.units 23 * 2 ^ k = (2 ^ 23 + f.fields.fraction) * 2 ^ (k + e) := by
      rw [units, Nat.mul_assoc, ← Nat.pow_add, Nat.add_comm e]
    have drop : max k (Nat.log2 ((2 ^ 23 + f.fields.fraction) * 2 ^ (k + e)) - 23) = k + e := by
      rw [log2_mul_pow (by omega), log2_significand fits]
      omega
    have word : e * 2 ^ 23 + (2 ^ 23 + f.fields.fraction) = e.succ * 2 ^ 23 + f.fields.fraction := by
      omega
    rw [magnitude, drop, F64.roundEven_mul, he, Nat.add_sub_cancel_left, word,
      Nat.min_eq_left (by omega)]

end F32

theorem asF32_serializeF32 {f : F32} (h : f.isFinite = true) : (serializeF32 f).asF32 = some f := by
  obtain ⟨negative, units⟩ := F32.toF64_is h
  rw [serializeF32, dif_pos h]
  change some (F32.nearest f.toF64.fields.negative (f.toF64.fields.units 52) 925) = some f
  rw [negative, units, F32.nearest_units h]

def Finite32 := { f : F32 // f.isFinite = true }

/-- A number as it is written: null unless it is finite. -/
def F32.written (f : F32) : Option Finite32 :=
  if h : f.isFinite = true then some ⟨f, h⟩ else none

/-! ## Arguments -/

inductive VectorMetric where
  | cosine
  | dot
  | l2
  deriving DecidableEq

inductive VectorQuantization where
  | none
  | int8
  deriving DecidableEq

inductive FusionMethod where
  | rrf
  | max
  | mean
  deriving DecidableEq

structure VectorUpsert where
  id : String
  vector : List F32
  metadata : Option Properties := none

structure TextUpsert where
  id : String
  text : String
  metadata : Option Properties := none

structure RecallOptions where
  sample : Option UInt64 := none
  topK : Option UInt64 := none
  efSearch : Option UInt64 := none

structure VectorConfigChange where
  normalize : Option Bool := none
  m : Option UInt64 := none
  efConstruction : Option UInt64 := none
  multiTenant : Option Bool := none
  deriving DecidableEq

inductive WrittenExample where
  | id (id : String)
  | vector (vector : List (Option Finite32))

def VectorExample.written : VectorExample → WrittenExample
  | id name => .id name
  | vector values => .vector (values.map F32.written)

namespace Written

/-- A `u32`. -/
def word : Coded Value UInt32 where
  write n := .ofU64 n.toUInt64
  read v := (v.asU64.filter fun n => n.toNat < 2 ^ 32).map UInt64.toUInt32
  back n := by
    change ((some n.toUInt64).filter _).map _ = _
    have narrow : n.toUInt64.toNat < 2 ^ 32 := n.toNat_lt
    rw [Option.filter_some, if_pos (decide_eq_true narrow)]
    simp

def finite32 : Coded Value Finite32 where
  write f := serializeF32 f.val
  read v := v.asF32.bind F32.written
  back f := by
    rw [asF32_serializeF32 f.property, Option.bind_some]
    exact dif_pos f.property

theorem finite32_isNull (f : Finite32) : (finite32.write f).isNull = false := by
  change (serializeF32 f.val).isNull = false
  rw [serializeF32, dif_pos f.property]
  rfl

def nullableFinite32 : Coded Value (Option Finite32) := nullable finite32 finite32_isNull

/-- A vector, with null for what is no number. -/
def vector : Coded Value (List (Option Finite32)) := listOf nullableFinite32

def vectorMetric : Coded Value VectorMetric :=
  variant (fun | .cosine => "cosine" | .dot => "dot" | .l2 => "l2") [.cosine, .dot, .l2]
    (fun m => by cases m <;> decide) (by decide)

def quantization : Coded Value VectorQuantization :=
  variant (fun | .none => "none" | .int8 => "int8") [.none, .int8]
    (fun q => by cases q <;> decide) (by decide)

def fusion : Coded Value FusionMethod :=
  variant (fun | .rrf => "rrf" | .max => "max" | .mean => "mean") [.rrf, .max, .mean]
    (fun f => by cases f <;> decide) (by decide)

def scoreMetric : Coded Value ScoreMetric :=
  variant ScoreMetric.name [.cosine, .dot, .l2, .l1, .linf] (fun m => by cases m <;> decide)
    (by decide)

def filterStrategy : Coded Value FilterStrategy :=
  variant FilterStrategy.name [.auto, .graph, .exact] (fun s => by cases s <;> decide) (by decide)

def annIndex : Coded Value AnnIndex :=
  variant AnnIndex.name [.hnsw, .ivf, .ivfPq] (fun i => by cases i <;> decide) (by decide)

def sparse : Coded Value (List UInt32 × List (Option Finite32)) :=
  ((Fields.one "indices" (listOf word)).and (.one "values" vector)).coded Value.format (by decide)

def vectorUpsert : Coded Value (String × List (Option Finite32) × Option Properties) :=
  ((Fields.one "id" text).and <| (Fields.one "vector" vector).and <|
    .optional "metadata" object).coded Value.format (by decide)

def textUpsert : Coded Value TextUpsert :=
  (((Fields.one "id" text).and <| (Fields.one "text" text).and <|
    .optional "metadata" object).through (fun t => ⟨t.1, t.2.1, t.2.2⟩)
      (fun t => (t.id, t.text, t.metadata)) fun _ => rfl).coded Value.format (by decide)

/-- Untagged: a text or an array of numbers. -/
def example_ : Coded Value WrittenExample where
  write
    | .id name => .string name
    | .vector values => vector.write values
  read
    | .string name => some (.id name)
    | v => (vector.read v).map .vector
  back
    | .id name => rfl
    | .vector values => by
      change (vector.read (vector.write values)).map WrittenExample.vector = _
      rw [vector.back, Option.map_some]

end Written

/-! ### The options of a search -/

structure WrittenSearch where
  filter : Option Value
  minScore : Option (Option Finite32)
  includeVectors : Bool
  offset : Option UInt64
  includeMetadata : Option Bool
  maxDistance : Option (Option Finite32)
  efSearch : Option UInt64
  exact : Bool
  scoreMetric : Option ScoreMetric
  filterStrategy : Option FilterStrategy
  usingVector : Option String
  tenant : Option String
  space : Option String
  sparse : Option (List UInt32 × List (Option Finite32))
  hybridAlpha : Option (Option Finite32)
  explain : Bool
  scoreExpr : Option String
  explainText : Option String
  ann : Option AnnIndex
  nprobe : Option UInt64

def VectorSearchOptions.asWritten (o : VectorSearchOptions) : WrittenSearch where
  filter := o.filter
  minScore := o.minScore.map F32.written
  includeVectors := o.includeVectors
  offset := o.offset
  includeMetadata := o.includeMetadata
  maxDistance := o.maxDistance.map F32.written
  efSearch := o.efSearch
  exact := o.exact
  scoreMetric := o.scoreMetric
  filterStrategy := o.filterStrategy
  usingVector := o.usingVector
  tenant := o.tenant
  space := o.space
  sparse := o.sparse.map fun v => (v.indices, v.values.map F32.written)
  hybridAlpha := o.hybridAlpha.map F32.written
  explain := o.explain
  scoreExpr := o.scoreExpr
  explainText := o.explainText
  ann := o.ann
  nprobe := o.nprobe

namespace Written

/-- A flag that is only written when it is set. -/
def ifSet (name : String) : Fields Value Bool :=
  .skipping name flag (fun b => !b) false fun b h => by cases b <;> simp_all

def search : Fields Value WrittenSearch :=
  ((Fields.optional "filter" any).and <| (Fields.optional "min_score" nullableFinite32).and <|
    (ifSet "include_vectors").and <| (Fields.optional "offset" count).and <|
    (Fields.optional "include_metadata" flag).and <|
    (Fields.optional "max_distance" nullableFinite32).and <| (Fields.optional "ef_search" count).and <|
    (ifSet "exact").and <| (Fields.optional "score_metric" scoreMetric).and <|
    (Fields.optional "filter_strategy" filterStrategy).and <| (Fields.optional "using" text).and <|
    (Fields.optional "tenant" text).and <| (Fields.optional "namespace" text).and <|
    (Fields.optional "sparse" sparse).and <| (Fields.optional "hybrid_alpha" nullableFinite32).and <|
    (ifSet "explain").and <| (Fields.optional "score_expr" text).and <|
    (Fields.optional "explain_text" text).and <| (Fields.optional "ann" annIndex).and <|
    .optional "nprobe" count).through
      (fun (filter, minScore, vectors, offset, metadata, distance, ef, exact, metric, strategy,
          named, tenant, space, sparse, alpha, explain, expr, explainText, ann, nprobe) =>
        ⟨filter, minScore, vectors, offset, metadata, distance, ef, exact, metric, strategy,
          named, tenant, space, sparse, alpha, explain, expr, explainText, ann, nprobe⟩)
      (fun s => (s.filter, s.minScore, s.includeVectors, s.offset, s.includeMetadata,
        s.maxDistance, s.efSearch, s.exact, s.scoreMetric, s.filterStrategy, s.usingVector,
        s.tenant, s.space, s.sparse, s.hybridAlpha, s.explain, s.scoreExpr, s.explainText, s.ann,
        s.nprobe))
      fun _ => rfl

end Written

/-! ## Answers -/

structure VectorItem where
  id : String
  vector : List F32
  metadata : Properties

structure VectorCollectionSummary where
  name : String
  dimension : UInt64
  metric : VectorMetric

structure VectorCollectionInfo where
  collection : String
  dimension : UInt64
  metric : VectorMetric
  count : Int
  quantization : VectorQuantization

structure VectorPage where
  collection : String
  count : UInt64
  vectors : List VectorItem
  truncated : Bool
  total : Int

structure Embedding where
  embedder : String
  dimension : UInt64
  vectors : List (List F32)
  sparse : List SparseVector

structure VectorAlias where
  aliasName : String
  collection : String

structure VectorPartition where
  name : String
  count : Int

structure VectorPartitions where
  field : String
  partitions : List VectorPartition
  unpartitioned : Int

structure VectorIndexRebuild where
  rebuilt : Bool
  vectors : Int
  buildMs : Int
  persisted : Bool
  tombstonesCleared : Int

structure VectorIndexStats where
  collection : String
  index : String
  stored : Int
  flatScanThreshold : Option Int
  layers : Option Int
  nodes : Option Int
  live : Option Int
  tombstones : Option Int
  reachable : Option Int
  unreachable : Option Int
  shouldRebuild : Option Bool
  persisted : Option Bool
  entry : Option String
  livePerLayer : Option (List Int)
  degree : Option Value
  memory : Option Value
  parameters : Option Value

structure VectorRecall where
  collection : String
  index : String
  measured : Bool
  recalled : F64
  minRecall : Option F64
  queries : Option Int
  topK : Option Int
  efSearch : Option Int
  flatFallbacks : Option Int
  reason : Option String

structure FusedHit where
  id : String
  score : F32
  matched : UInt64
  metadata : Properties

structure FusedSearchResult where
  fusion : FusionMethod
  queries : UInt64
  depth : UInt64
  results : List FusedHit

structure NamedVector where
  name : String
  dimension : UInt64
  metric : VectorMetric

structure VectorConfig where
  collection : String
  normalize : Bool
  m : UInt64
  efConstruction : UInt64
  multiTenant : Bool
  named : List NamedVector

namespace Spoken

/-- A `f32`, which has to be a number to be written. -/
def float32 : Heard Value F32 where
  means v f := f.isFinite = true ∧ v = serializeF32 f
  read := Value.asF32
  reads := by
    rintro v f ⟨finite, rfl⟩
    exact asF32_serializeF32 finite

def metric : Parts Value VectorMetric := field "metric" Written.vectorMetric.heard .cosine

/-- Metadata under `serde_null::or_default`. -/
def metadata : Parts Value Properties := field "metadata" (orDefault .empty object) .empty

def vectorItem : Heard Value VectorItem :=
  record <| ((required "id" text).and <| (items "vector" float32).and metadata).image
    fun i => ⟨i.1, i.2.1, i.2.2⟩

def vectorHit : Heard Value VectorHit :=
  record <| ((required "id" text).and <| (field "score" float32 ⟨0⟩).and <| metadata.and <|
    (maybe "vector" (listOf float32)).and <| maybe "reason" text).image
      fun (id, score, metadata, vector, reason) => ⟨id, score, metadata, vector, reason⟩

def vectorSearchResult : Heard Value VectorSearchResult :=
  record <| ((items "results" vectorHit).and <| field "index" text "").image fun r => ⟨r.1, r.2⟩

def vectorCollectionSummary : Heard Value VectorCollectionSummary :=
  record <| ((required "name" text).and <| (field "dimension" count 0).and metric).image
    fun s => ⟨s.1, s.2.1, s.2.2⟩

def vectorCollectionInfo : Heard Value VectorCollectionInfo :=
  record <| ((required "collection" text).and <| (field "dimension" count 0).and <| metric.and <|
    (field "count" integer 0).and <| field "quantization" Written.quantization.heard .none).image
      fun (collection, dimension, metric, count, quantization) =>
        ⟨collection, dimension, metric, count, quantization⟩

def vectorPage : Heard Value VectorPage :=
  record <| ((required "collection" text).and <| (field "count" count 0).and <|
    (items "vectors" vectorItem).and <| (field "truncated" flag false).and <|
    field "total" integer 0).image
      fun (collection, count, vectors, truncated, total) =>
        ⟨collection, count, vectors, truncated, total⟩

def sparseVector : Heard Value SparseVector :=
  record <| ((field "indices" (listOf Written.word.heard) []).and <|
    field "values" (listOf float32) []).image fun v => ⟨v.1, v.2⟩

def embedding : Heard Value Embedding :=
  record <| ((field "embedder" text "").and <| (field "dimension" count 0).and <|
    (field "vectors" (listOf (listOf float32)) []).and <|
    field "sparse" (listOf sparseVector) []).image fun e => ⟨e.1, e.2.1, e.2.2.1, e.2.2.2⟩

def vectorAlias : Heard Value VectorAlias :=
  record <| ((required "alias" text).and <| field "collection" text "").image fun a => ⟨a.1, a.2⟩

def vectorPartition : Heard Value VectorPartition :=
  record <| ((required "name" text).and <| field "count" integer 0).image fun p => ⟨p.1, p.2⟩

def vectorPartitions : Heard Value VectorPartitions :=
  record <| ((field "field" text "").and <|
    (field "partitions" (listOf vectorPartition) []).and <|
    field "unpartitioned" integer 0).image fun p => ⟨p.1, p.2.1, p.2.2⟩

def vectorIndexRebuild : Heard Value VectorIndexRebuild :=
  record <| ((field "rebuilt" flag false).and <| (field "vectors" integer 0).and <|
    (field "build_ms" integer 0).and <| (field "persisted" flag false).and <|
    field "tombstones_cleared" integer 0).image
      fun (rebuilt, vectors, ms, persisted, cleared) => ⟨rebuilt, vectors, ms, persisted, cleared⟩

def vectorIndexStats : Heard Value VectorIndexStats :=
  record <| ((field "collection" text "").and <| (field "index" text "").and <|
    (field "stored" integer 0).and <| (maybe "flat_scan_threshold" integer).and <|
    (maybe "layers" integer).and <| (maybe "nodes" integer).and <| (maybe "live" integer).and <|
    (maybe "tombstones" integer).and <| (maybe "reachable" integer).and <|
    (maybe "unreachable" integer).and <| (maybe "should_rebuild" flag).and <|
    (maybe "persisted" flag).and <| (maybe "entry" text).and <|
    (maybe "live_per_layer" (listOf integer)).and <| (maybe "degree" any).and <|
    (maybe "memory" any).and <| maybe "parameters" any).image
      fun (collection, index, stored, threshold, layers, nodes, live, tombstones, reachable,
          unreachable, rebuild, persisted, entry, perLayer, degree, memory, parameters) =>
        ⟨collection, index, stored, threshold, layers, nodes, live, tombstones, reachable,
          unreachable, rebuild, persisted, entry, perLayer, degree, memory, parameters⟩

def vectorRecall : Heard Value VectorRecall :=
  record <| ((field "collection" text "").and <| (field "index" text "").and <|
    (field "measured" flag false).and <| (field "recall" float zero).and <|
    (maybe "min_recall" float).and <| (maybe "queries" integer).and <|
    (maybe "top_k" integer).and <| (maybe "ef_search" integer).and <|
    (maybe "flat_fallbacks" integer).and <| maybe "reason" text).image
      fun (collection, index, measured, recalled, least, queries, topK, ef, fallbacks, reason) =>
        ⟨collection, index, measured, recalled, least, queries, topK, ef, fallbacks, reason⟩

def fusedHit : Heard Value FusedHit :=
  record <| ((required "id" text).and <| (field "score" float32 ⟨0⟩).and <|
    (field "matched" count 0).and metadata).image fun h => ⟨h.1, h.2.1, h.2.2.1, h.2.2.2⟩

def fusedSearchResult : Heard Value FusedSearchResult :=
  record <| ((field "fusion" Written.fusion.heard .rrf).and <| (field "queries" count 0).and <|
    (field "depth" count 0).and <| items "results" fusedHit).image
      fun r => ⟨r.1, r.2.1, r.2.2.1, r.2.2.2⟩

def namedVector : Heard Value NamedVector :=
  record <| ((required "name" text).and <| (field "dimension" count 0).and metric).image
    fun v => ⟨v.1, v.2.1, v.2.2⟩

def vectorConfig : Heard Value VectorConfig :=
  record <| ((field "collection" text "").and <| (field "normalize" flag false).and <|
    (field "m" count 0).and <| (field "ef_construction" count 0).and <|
    (field "multi_tenant" flag false).and <| field "named" (listOf namedVector) []).image
      fun (collection, normalize, m, ef, multi, named) =>
        ⟨collection, normalize, m, ef, multi, named⟩

end Spoken

end TricoreSdk
