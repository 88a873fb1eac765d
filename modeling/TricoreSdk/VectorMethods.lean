import TricoreSdk.VectorCalls

/-! The methods on vectors (`vector.rs`): the operation each asks for and what it takes from the
answer. -/

namespace TricoreSdk
open Shape Written

namespace Vectors
open Operation

variable {α β : Type}

def json (variant : String) (fields : Coded (Option Value) α) (type : String)
    (answer : Heard Value β) : Inquiry α β :=
  ⟨"Vector", variant, fields, .json variant type answer⟩

def doing (variant : String) (fields : Coded (Option Value) α) : Operation α Unit :=
  .ofDone "Vector" variant fields

def counted (variant : String) (fields : Coded (Option Value) α) (type key : String) :
    Inquiry α Int :=
  json variant fields type (Spoken.single key Spoken.integer 0)

def inCollection : Fields Value String := .one "collection" text

def byId : Fields Value (String × String) := inCollection.and (.one "id" text)

def measured : Fields Value (UInt64 × VectorMetric) :=
  (Fields.one "dimension" count).and (.one "metric" vectorMetric)

def withMetadata : Fields Value (Option Properties) := .one "metadata" nullableObject

def filtered : Fields Value (Option Value) := .optional "filter" any

def several : Fields Value (String × List (List (Option Finite32)) × UInt64) :=
  inCollection.and <| (Fields.one "vectors" (listOf vector)).and <| .one "top_k" count

/-! ### Collections -/

def createCollection : Operation (String × (UInt64 × VectorMetric) × VectorQuantization) Unit :=
  doing "CreateCollection"
    (withFields (inCollection.and <| measured.and <| .one "quantization" quantization) (by decide))

def dropCollection : Operation String Unit :=
  doing "DropCollection" (withFields inCollection (by decide))

def listCollections : Inquiry Unit (List VectorCollectionSummary) :=
  json "ListCollections" plain "Details"
    (Spoken.single "details" (Spoken.listOf Spoken.vectorCollectionSummary) [])

def describeCollection : Inquiry String VectorCollectionInfo :=
  json "DescribeCollection" (withFields inCollection (by decide)) "VectorCollectionInfo"
    Spoken.vectorCollectionInfo

def renameCollection : Inquiry (String × String) Int :=
  counted "RenameCollection" (withFields (inCollection.and (.one "to" text)) (by decide)) "Moved"
    "moved"

def copyCollection : Inquiry (String × String) Int :=
  counted "CopyCollection" (withFields (inCollection.and (.one "to" text)) (by decide)) "Copied"
    "copied"

def setAlias : Operation (String × Option String) Unit :=
  doing "SetAlias"
    (withFields ((Fields.one "alias" text).and (.one "collection" nullableText)) (by decide))

def listAliases : Inquiry Unit (List VectorAlias) :=
  json "ListAliases" plain "Aliases"
    (Spoken.single "aliases" (Spoken.listOf Spoken.vectorAlias) [])

def addNamedVector : Operation ((String × String) × UInt64 × VectorMetric) Unit :=
  doing "AddNamedVector" (withFields ((inCollection.and (.one "name" text)).and measured) (by decide))

def setCollectionConfig : Inquiry (String × Option Bool × Option UInt64 × Option UInt64 ×
    Option Bool) VectorConfig :=
  json "SetCollectionConfig"
    (withFields (inCollection.and <| (Fields.optional "normalize" flag).and <|
      (Fields.optional "m" count).and <| (Fields.optional "ef_construction" count).and <|
      .optional "multi_tenant" flag) (by decide))
    "VectorConfig" Spoken.vectorConfig

/-! ### Vectors -/

def upsert : Operation ((String × String) × List (Option Finite32) × Option Properties) Unit :=
  doing "Upsert" (withFields (byId.and <| (Fields.one "vector" vector).and withMetadata) (by decide))

/-- Null when there is no such vector. -/
def get : Inquiry (String × String) (Option VectorItem) :=
  json "Get" (withFields byId (by decide)) "VectorItem" (Spoken.optional Spoken.vectorItem)

def delete : Operation (String × String) Unit := doing "Delete" (withFields byId (by decide))

def listVectors : Inquiry (String × Option UInt64 × Option UInt64) VectorPage :=
  json "ListVectors"
    (withFields (inCollection.and <| (Fields.optional "limit" count).and <|
      .optional "offset" count) (by decide))
    "VectorPage" Spoken.vectorPage

def embed : Inquiry (List String × UInt64) Embedding :=
  json "Embed"
    (withFields ((Fields.one "texts" (listOf text)).and (.one "dimension" count)) (by decide))
    "Embedding" Spoken.embedding

def upsertText : Inquiry (String × List TextUpsert) Int :=
  counted "UpsertText"
    (withFields (inCollection.and (.one "items" (listOf textUpsert))) (by decide)) "Upserted"
    "upserted"

def upsertNamed : Operation ((String × String) × SortedMap String (List (Option Finite32)) ×
    Option Properties) Unit :=
  doing "UpsertNamed"
    (withFields (byId.and <| (Fields.one "vectors" (mapOf vector)).and withMetadata) (by decide))

def upsertMany : Inquiry (String × List (String × List (Option Finite32) × Option Properties)) Int :=
  counted "UpsertMany"
    (withFields (inCollection.and (.one "items" (listOf vectorUpsert))) (by decide)) "Upserted"
    "upserted"

def deleteMany : Inquiry (String × List String) Int :=
  counted "DeleteMany" (withFields (inCollection.and (.one "ids" (listOf text))) (by decide))
    "DeletedCount" "deleted"

def deleteByFilter : Inquiry (String × Value) Int :=
  counted "DeleteByFilter" (withFields (inCollection.and (.one "filter" any)) (by decide))
    "DeletedCount" "deleted"

def updateByFilter : Inquiry (String × Value × Properties) Int :=
  counted "UpdateByFilter"
    (withFields (inCollection.and <| (Fields.one "filter" any).and <| .one "set" object)
      (by decide))
    "Updated" "updated"

def countVectors : Inquiry (String × Option Value) Int :=
  counted "Count" (withFields (inCollection.and filtered) (by decide)) "Count" "count"

def listPartitions : Inquiry (String × Option String) VectorPartitions :=
  json "ListPartitions" (withFields (inCollection.and (.optional "field" text)) (by decide))
    "VectorPartitions" Spoken.vectorPartitions

/-! ### Searches -/

/-- An empty filter is written as null. -/
def search : Inquiry (String × List (Option Finite32) × UInt64 × Option Properties)
    VectorSearchResult :=
  json "Search"
    (withFields (inCollection.and <| (Fields.one "vector" vector).and <|
      (Fields.one "top_k" count).and <| .one "filter" nullableObject) (by decide))
    "VectorSearchResult" Spoken.vectorSearchResult

def searchBatch : Inquiry ((String × List (List (Option Finite32)) × UInt64) × WrittenSearch)
    (List (List VectorHit)) :=
  json "SearchBatch" (withFields (several.and Written.search) (by decide)) "Batch"
    (Spoken.single "results" (Spoken.listOf (Spoken.listOf Spoken.vectorHit)) [])

def searchMulti : Inquiry ((String × List (List (Option Finite32)) × UInt64) × FusionMethod ×
    Option Value) FusedSearchResult :=
  json "SearchMulti"
    (withFields (several.and <| (Fields.one "fusion" fusion).and filtered) (by decide))
    "FusedSearchResult" Spoken.fusedSearchResult

def searchByExamples : Inquiry ((String × List WrittenExample × List WrittenExample × UInt64 ×
    Bool) × WrittenSearch) VectorSearchResult :=
  json "SearchByExamples"
    (withFields ((inCollection.and <| (Fields.one "positive" (listOf example_)).and <|
      (Fields.one "negative" (listOf example_)).and <| (Fields.one "top_k" count).and <|
      .one "exclude_examples" flag).and Written.search) (by decide))
    "VectorSearchResult" Spoken.vectorSearchResult

/-! ### The index -/

def rebuildIndex : Inquiry String VectorIndexRebuild :=
  json "RebuildIndex" (withFields inCollection (by decide)) "VectorIndexRebuild"
    Spoken.vectorIndexRebuild

def indexStats : Inquiry String VectorIndexStats :=
  json "IndexStats" (withFields inCollection (by decide)) "VectorIndexStats"
    Spoken.vectorIndexStats

def measureRecall : Inquiry (String × Option UInt64 × Option UInt64 × Option UInt64) VectorRecall :=
  json "MeasureRecall"
    (withFields (inCollection.and <| (Fields.optional "sample" count).and <|
      (Fields.optional "top_k" count).and <| .optional "ef_search" count) (by decide))
    "VectorRecall" Spoken.vectorRecall

def operations : List AnyOperation :=
  [⟨createCollection⟩, ⟨dropCollection⟩, ⟨listCollections.operation⟩,
    ⟨describeCollection.operation⟩, ⟨renameCollection.operation⟩, ⟨copyCollection.operation⟩,
    ⟨setAlias⟩, ⟨listAliases.operation⟩, ⟨addNamedVector⟩, ⟨setCollectionConfig.operation⟩,
    ⟨upsert⟩, ⟨get.operation⟩, ⟨delete⟩, ⟨listVectors.operation⟩, ⟨embed.operation⟩,
    ⟨upsertText.operation⟩, ⟨upsertNamed⟩, ⟨upsertMany.operation⟩, ⟨deleteMany.operation⟩,
    ⟨deleteByFilter.operation⟩, ⟨updateByFilter.operation⟩, ⟨countVectors.operation⟩,
    ⟨listPartitions.operation⟩, ⟨search.operation⟩, ⟨searchBatch.operation⟩,
    ⟨searchMulti.operation⟩, ⟨searchByExamples.operation⟩, ⟨rebuildIndex.operation⟩,
    ⟨indexStats.operation⟩, ⟨measureRecall.operation⟩]

theorem operations_distinct : (operations.map AnyOperation.tag).Nodup := by decide

end Vectors

/-! ## What is written and read, as the searches with options have it -/

theorem nullableFinite32_written (f : F32) : nullableFinite32.write f.written = serializeF32 f := by
  unfold F32.written
  split
  · rfl
  · rename_i odd
    rw [serializeF32, dif_neg odd]
    rfl

theorem listOf_written {α β : Type} {c : Coded Value β} {f : α → β} {toValue : α → Value}
    (same : ∀ a, c.write (f a) = toValue a) (as : List α) :
    (listOf c).write (as.map f) = .array (as.map toValue) := by
  change Value.array ((as.map f).map c.write) = _
  rw [List.map_map]
  exact congrArg Value.array (List.map_congr_left fun a _ => same a)

theorem vector_written (values : List F32) :
    vector.write (values.map F32.written) = .array (values.map serializeF32) :=
  listOf_written nullableFinite32_written values

theorem sparse_written (v : SparseVector) :
    Written.sparse.write (v.indices, v.values.map F32.written) = v.toValue := by
  change Value.ofPresent [("indices", some _), ("values", some (vector.write _))] = _
  rw [vector_written]
  rfl

theorem example_written (e : VectorExample) : example_.write e.written = e.toValue := by
  cases e with
  | id name => rfl
  | vector values => exact vector_written values

namespace VectorSearchOptions

theorem foldl_put_present (entries : List (String × Option Value)) (body : List (String × Value)) :
    entries.foldl (fun body e => put body e.1 e.2) body =
      (Value.present entries).foldl (fun map m => Map.insert m.1 m.2 map) body := by
  induction entries generalizing body with
  | nil => rfl
  | cons e entries ih =>
    obtain ⟨key, value⟩ := e
    cases value with
    | none => exact ih body
    | some v => exact ih (Map.insert key v body)

theorem search_write (o : VectorSearchOptions) :
    Written.search.write o.asWritten = searchFields.map fun f => (f.key, o.written f) := by
  have floats (f : Option F32) :
      (f.map F32.written).map nullableFinite32.write = f.map serializeF32 := by
    rw [Option.map_map]
    exact congrArg (Option.map · f) (funext nullableFinite32_written)
  have weights (v : Option SparseVector) :
      (v.map fun v => (v.indices, v.values.map F32.written)).map Written.sparse.write =
        v.map SparseVector.toValue := by
    rw [Option.map_map]
    exact congrArg (Option.map · v) (funext sparse_written)
  have flags (b : Bool) :
      (if (!b) = true then none else some (Value.bool b)) = (thenTrue b).map Value.bool := by
    cases b <;> rfl
  have vectors := flags o.includeVectors
  have exactly := flags o.exact
  have explained := flags o.explain
  change [("filter", o.filter.map id),
    ("min_score", (o.minScore.map F32.written).map nullableFinite32.write),
    ("include_vectors",
      if (!o.includeVectors) = true then none else some (Value.bool o.includeVectors)),
    ("offset", o.offset.map Value.ofU64), ("include_metadata", o.includeMetadata.map Value.bool),
    ("max_distance", (o.maxDistance.map F32.written).map nullableFinite32.write),
    ("ef_search", o.efSearch.map Value.ofU64),
    ("exact", if (!o.exact) = true then none else some (Value.bool o.exact)),
    ("score_metric", o.scoreMetric.map Written.scoreMetric.write),
    ("filter_strategy", o.filterStrategy.map Written.filterStrategy.write),
    ("using", o.usingVector.map Value.string), ("tenant", o.tenant.map Value.string),
    ("namespace", o.space.map Value.string),
    ("sparse", (o.sparse.map fun v => (v.indices, v.values.map F32.written)).map
      Written.sparse.write),
    ("hybrid_alpha", (o.hybridAlpha.map F32.written).map nullableFinite32.write),
    ("explain", if (!o.explain) = true then none else some (Value.bool o.explain)),
    ("score_expr", o.scoreExpr.map Value.string), ("explain_text", o.explainText.map Value.string),
    ("ann", o.ann.map Written.annIndex.write), ("nprobe", o.nprobe.map Value.ofU64)] = _
  rw [floats, floats, floats, weights, vectors, exactly, explained]
  rfl

theorem search_body (own : List (String × Value)) (o : VectorSearchOptions) :
    Value.ofPresent (own.map (fun m => (m.1, some m.2)) ++ Written.search.write o.asWritten) =
      .object (o.write (bodyOf own)) := by
  have given : Value.present (own.map fun m => (m.1, some m.2)) = own := by
    induction own with
    | nil => rfl
    | cons m own ih => exact congrArg (m :: ·) ih
  rw [Value.ofPresent, Value.ofFields, search_write, Value.present, List.filterMap_append,
    ← Value.present, ← Value.present, given, List.foldl_append, ← foldl_put_present,
    List.foldl_map, write_eq]
  rfl

end VectorSearchOptions

namespace Spoken

theorem orDefault_read {α : Type} (absent : α) (t : Heard Value α) :
    (orDefault absent t).read = Value.orNull absent t.read := by
  have values (o : Option α) : o = (o.map some).map fun a => a.getD absent := by
    cases o <;> rfl
  funext v
  cases v with
  | null => rfl
  | _ => exact values _

theorem vectorHit_read : vectorHit.read = VectorHit.fromValue := by
  funext v
  refine record_read v fun parts length => ?_
  match parts with
  | [id, score, metadata, vector, reason] =>
    simp [Parts.image, Spoken.metadata, maybe, orDefault_read, object_read, float32,
      Value.asOption_asStr, Option.map_eq_bind, Option.bind_assoc]

theorem vectorSearchResult_read : vectorSearchResult.read = VectorSearchResult.fromValue := by
  funext v
  refine record_read v fun parts length => ?_
  match parts with
  | [results, index] =>
    simp [Parts.image, items, orDefault_read, vectorHit_read, Option.map_eq_bind, Option.bind_assoc]

theorem batchResults_read :
    (single "results" (listOf (listOf vectorHit)) []).read = batchResults := by
  funext v
  rw [single_read, listOf_read, listOf_read, vectorHit_read]
  rfl

end Spoken

/-! ## The methods -/

/-- A change of nothing is refused. -/
def configuring {α : Type} (change : VectorConfigChange) (args : α) : Except Error α :=
  if change = {} then
    .error (Error.invalid
      "a configuration change must set at least one of `normalize`, `m`, `ef_construction` or `multi_tenant`")
  else .ok args

theorem configuring_refuses {α : Type} (change : VectorConfigChange) (args : α) :
    RefusesInvalid (configuring change args) := by
  intro e h
  unfold configuring at h
  split at h
  · cases h
    exact ⟨_, rfl⟩
  · cases h

section

variable {ω : Type} (H : Host ω)

/-! ### Collections -/

def vectorCreateCollectionQuantized (collection : String) (dimension : UInt64)
    (metric : VectorMetric) (quantization : VectorQuantization) : Stub Unit :=
  Vectors.createCollection.perform (collection, (dimension, metric), quantization)

def vectorCreateCollection (collection : String) (dimension : UInt64) (metric : VectorMetric) :
    Stub Unit :=
  vectorCreateCollectionQuantized collection dimension metric .none

def vectorDropCollection (collection : String) : Stub Unit :=
  Vectors.dropCollection.perform collection

def vectorListCollections : Stub (List VectorCollectionSummary) := Vectors.listCollections.call H ()

def vectorDescribeCollection (collection : String) : Stub VectorCollectionInfo :=
  Vectors.describeCollection.call H collection

def vectorRenameCollection (collection dst : String) : Stub Int :=
  Vectors.renameCollection.call H (collection, dst)

def vectorCopyCollection (collection dst : String) : Stub Int :=
  Vectors.copyCollection.call H (collection, dst)

def vectorSetAlias (name : String) (collection : Option String) : Stub Unit :=
  Vectors.setAlias.perform (name, collection)

def vectorListAliases : Stub (List VectorAlias) := Vectors.listAliases.call H ()

def vectorAddNamedVector (collection name : String) (dimension : UInt64) (metric : VectorMetric) :
    Stub Unit :=
  Vectors.addNamedVector.perform ((collection, name), dimension, metric)

def vectorSetCollectionConfig (collection : String) (change : VectorConfigChange) :
    Stub VectorConfig :=
  Vectors.setCollectionConfig.stub H
    (configuring change
      (collection, change.normalize, change.m, change.efConstruction, change.multiTenant))
    (configuring_refuses change _) id

/-! ### Vectors -/

def vectorUpsert (collection id : String) (vector : List F32) (metadata : Option Properties) :
    Stub Unit :=
  Vectors.upsert.perform ((collection, id), vector.map F32.written, metadata)

def vectorGet (collection id : String) : Stub (Option VectorItem) := Vectors.get.call H (collection, id)

def vectorDelete (collection id : String) : Stub Unit := Vectors.delete.perform (collection, id)

def vectorListVectors (collection : String) (limit offset : Option UInt64) : Stub VectorPage :=
  Vectors.listVectors.call H (collection, positiveBound limit, positiveBound offset)

def vectorEmbed (texts : List String) (dimension : UInt64) : Stub Embedding :=
  Vectors.embed.call H (texts, dimension)

def vectorUpsertText (collection : String) (items : List TextUpsert) : Stub Int :=
  Vectors.upsertText.call H (collection, items)

def vectorUpsertNamed (collection id : String) (vectors : SortedMap String (List F32))
    (metadata : Option Properties) : Stub Unit :=
  Vectors.upsertNamed.perform ((collection, id), vectors.mapValues (List.map F32.written), metadata)

def vectorUpsertMany (collection : String) (items : List VectorUpsert) : Stub Int :=
  Vectors.upsertMany.call H
    (collection, items.map fun i => (i.id, i.vector.map F32.written, i.metadata))

def vectorDeleteMany (collection : String) (ids : List String) : Stub Int :=
  Vectors.deleteMany.call H (collection, ids)

def vectorDeleteByFilter (collection : String) (filter : Value) : Stub Int :=
  Vectors.deleteByFilter.call H (collection, filter)

def vectorUpdateByFilter (collection : String) (filter : Value) (set : Properties) : Stub Int :=
  Vectors.updateByFilter.call H (collection, filter, set)

def vectorCount (collection : String) (filter : Option Value) : Stub Int :=
  Vectors.countVectors.call H (collection, filter)

def vectorListPartitions (collection : String) (field : Option String) : Stub VectorPartitions :=
  Vectors.listPartitions.call H (collection, field)

/-! ### Searches -/

def vectorSearchFiltered (collection : String) (vector : List F32) (topK : UInt64)
    (filter : Properties) : Stub VectorSearchResult :=
  Vectors.search.call H
    (collection, vector.map F32.written, topK, if filter.isEmpty then none else some filter)

/-- The nearest `topK` vectors. -/
def vectorSearch (collection : String) (vector : List F32) (topK : UInt64) :
    Stub VectorSearchResult :=
  vectorSearchFiltered H collection vector topK .empty

theorem searchBatch_eq (collection : String) (vectors : List (List F32)) (topK : UInt64)
    (options : VectorSearchOptions) :
    (Vectors.searchBatch.call H ((collection, vectors.map (List.map F32.written), topK),
      options.asWritten)).toTypedMethod = vectorSearchBatch H collection vectors topK options := by
  refine TypedMethod.ext ?_ fun r => (Inquiry.call_decode ..).trans ?_
  · have body : Value.ofPresent ([("collection", some (.string collection)),
        ("vectors", some ((listOf vector).write (vectors.map (List.map F32.written)))),
        ("top_k", some (.ofU64 topK))] ++ Written.search.write options.asWritten) =
        .object (options.write (searchBatchBody collection vectors topK)) := by
      rw [listOf_written vector_written]
      exact VectorSearchOptions.search_body [("collection", .string collection),
        ("vectors", .array (vectors.map fun vector => .array (vector.map serializeF32))),
        ("top_k", .ofU64 topK)] options
    exact congrArg (fun body => Except.ok (Value.ofFields
      [("Vector", Value.ofFields [("SearchBatch", body)])])) body
  · exact congrArg (fun read => r.decode (H.serde.mismatch "Batch") read "SearchBatch")
      Spoken.batchResults_read

theorem searchByExamples_eq (collection : String) (positive negative : List VectorExample)
    (topK : UInt64) (excludeExamples : Bool) (options : VectorSearchOptions) :
    (Vectors.searchByExamples.call H ((collection, positive.map VectorExample.written,
      negative.map VectorExample.written, topK, excludeExamples), options.asWritten)).toTypedMethod =
      vectorSearchByExamples H collection positive negative topK excludeExamples options := by
  refine TypedMethod.ext ?_ fun r => (Inquiry.call_decode ..).trans ?_
  · have body : Value.ofPresent ([("collection", some (.string collection)),
        ("positive", some ((listOf example_).write (positive.map VectorExample.written))),
        ("negative", some ((listOf example_).write (negative.map VectorExample.written))),
        ("top_k", some (.ofU64 topK)), ("exclude_examples", some (.bool excludeExamples))] ++
          Written.search.write options.asWritten) =
        .object (options.write
          (searchByExamplesBody collection positive negative topK excludeExamples)) := by
      rw [listOf_written example_written, listOf_written example_written]
      exact VectorSearchOptions.search_body [("collection", .string collection),
        ("positive", .array (positive.map VectorExample.toValue)),
        ("negative", .array (negative.map VectorExample.toValue)), ("top_k", .ofU64 topK),
        ("exclude_examples", .bool excludeExamples)] options
    exact congrArg (fun body => Except.ok (Value.ofFields
      [("Vector", Value.ofFields [("SearchByExamples", body)])])) body
  · exact congrArg (fun read => r.decode (H.serde.mismatch "VectorSearchResult") read
      "SearchByExamples") Spoken.vectorSearchResult_read

def vectorSearchMulti (collection : String) (vectors : List (List F32)) (topK : UInt64)
    (fusion : FusionMethod) (filter : Option Value) : Stub FusedSearchResult :=
  Vectors.searchMulti.call H
    ((collection, vectors.map (List.map F32.written), topK), fusion, filter)

/-! ### The index -/

def vectorRebuildIndex (collection : String) : Stub VectorIndexRebuild :=
  Vectors.rebuildIndex.call H collection

def vectorIndexStats (collection : String) : Stub VectorIndexStats :=
  Vectors.indexStats.call H collection

def vectorMeasureRecall (collection : String) (options : RecallOptions) : Stub VectorRecall :=
  Vectors.measureRecall.call H (collection, options.sample, options.topK, options.efSearch)

end

end TricoreSdk
