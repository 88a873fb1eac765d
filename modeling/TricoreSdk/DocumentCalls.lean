import TricoreSdk.Documents

/-! The methods on document collections (`document.rs`): the operation each asks for and what it
takes from the answer. -/

namespace TricoreSdk
open Shape Written

/-! ## What the answers hold -/

structure DocumentIndex where
  name : String
  field : String
  unique : Bool

structure DocumentStats where
  collection : String
  documentCount : Int
  indexedFields : Int

structure UpdateCounts where
  matched : Int
  modified : Int

structure UpdateOne where
  updated : Bool
  inserted : Bool

/-- Which version of the document a by-id write hands back. -/
inductive ReturnDocument where
  | none
  | before
  | after
  deriving DecidableEq

/-- How `document_replace` behaves. -/
structure ReplaceOptions where
  upsert : Bool := false
  returnDocument : ReturnDocument := .none
  expectedVersion : Option UInt64 := none

structure ReplaceResult where
  id : String
  replaced : Bool
  inserted : Bool
  document : Option Document

structure PurgeCounts where
  purged : Int
  more : Bool

/-- What `document_explain` should run. -/
structure ExplainOptions where
  limit : Option UInt64 := none
  sort : List SortKey := []
  skip : Option UInt64 := none

structure DocumentPlan where
  plan : String
  index : Option String
  indexUsed : Bool
  scanReason : Option String
  scanSource : Option String
  estimatedRows : F64
  estimatedCost : F64
  rowsExamined : Int
  rowsReturned : Int
  elapsedUs : Int

structure IndexRebuild where
  indexName : String
  documents : Int
  entries : Int

structure BulkWriteResult where
  inserted : Int
  updated : Int
  upserted : Int
  replaced : Int
  deleted : Int
  insertedIds : List String

namespace Spoken

def documentIndex : Heard Value DocumentIndex :=
  record <| ((required "index_name" text).and <| (field "field" text "").and <|
    field "unique" flag false).image fun i => ⟨i.1, i.2.1, i.2.2⟩

def documentStats : Heard Value DocumentStats :=
  record <| ((required "analyzed" text).and <| (field "document_count" integer 0).and <|
    field "indexed_fields" integer 0).image fun s => ⟨s.1, s.2.1, s.2.2⟩

def updateCounts : Heard Value UpdateCounts :=
  record <| ((field "matched" integer 0).and <| field "modified" integer 0).image
    fun c => ⟨c.1, c.2⟩

def updateOne : Heard Value UpdateOne :=
  record <| ((field "updated" flag false).and <| field "inserted" flag false).image
    fun o => ⟨o.1, o.2⟩

def replaceResult : Heard Value ReplaceResult :=
  record <| ((field "id" text "").and <| (field "replaced" flag false).and <|
    (field "inserted" flag false).and <| maybe "document" object).image
      fun r => ⟨r.1, r.2.1, r.2.2.1, r.2.2.2⟩

def purgeCounts : Heard Value PurgeCounts :=
  record <| ((field "purged" integer 0).and <| field "more" flag false).image fun c => ⟨c.1, c.2⟩

def documentPlan : Heard Value DocumentPlan :=
  record <| ((field "plan" text "").and <| (maybe "index" text).and <|
    (field "index_used" flag false).and <| (maybe "scan_reason" text).and <|
    (maybe "scan_source" text).and <| (field "estimated_rows" float ⟨0⟩).and <|
    (field "estimated_cost" float ⟨0⟩).and <| (field "rows_examined" integer 0).and <|
    (field "rows_returned" integer 0).and <| field "elapsed_us" integer 0).image
      fun (plan, index, used, reason, source, rows, cost, examined, returned, elapsed) =>
        ⟨plan, index, used, reason, source, rows, cost, examined, returned, elapsed⟩

def indexRebuild : Heard Value IndexRebuild :=
  record <| ((required "rebuilt" text).and <| (field "documents" integer 0).and <|
    field "entries" integer 0).image fun r => ⟨r.1, r.2.1, r.2.2⟩

def documentCommit : Heard Value DocumentCommit :=
  record <| ((field "committed" flag false).and <| field "writes" integer 0).image
    fun c => ⟨c.1, c.2⟩

def bulkWriteResult : Heard Value BulkWriteResult :=
  record <| ((field "inserted" integer 0).and <| (field "updated" integer 0).and <|
    (field "upserted" integer 0).and <| (field "replaced" integer 0).and <|
    (field "deleted" integer 0).and <| field "inserted_ids" (listOf text) []).image
      fun (inserted, updated, upserted, replaced, deleted, ids) =>
        ⟨inserted, updated, upserted, replaced, deleted, ids⟩

/-- The payload of `Documents`. -/
def documents : Heard Value (List Document) := listOf object

end Spoken

def CollectionOptions.finite (o : CollectionOptions) : Bool :=
  o.schema.all fun s => s.fields.entries.all fun m =>
    m.2.minimum.all F64.isFinite && m.2.maximum.all F64.isFinite

theorem CollectionOptions.finite_iff (o : CollectionOptions) : o.finite = true ↔ o.Finite := by
  simp [finite, Finite, FieldRule.Finite, Option.all_eq_true]

/-- The options of a collection, whose bounds have to be numbers to be written. -/
def CollectionOptions.coded : Coded Value { o : CollectionOptions // o.Finite } where
  write o := o.val.toValue
  read v := do
    let o ← fromValue v
    if h : o.finite = true then some ⟨o, o.finite_iff.mp h⟩ else none
  back := by
    rintro ⟨o, finite⟩
    rw [CollectionOptions.fromValue_toValue finite]
    exact dif_pos (o.finite_iff.mpr finite)

/-- The answer that holds the options of a collection, or none when it has the default ones. -/
def Spoken.collectionOptions : Heard Value CollectionOptions where
  means v o := (o.Finite ∧ v.get "options" = some o.toValue) ∨
    ∃ map, v = .object map ∧ map.lookup "options" = none ∧ o = .default
  read := CollectionOptions.fromWire
  reads := by
    rintro v o (⟨finite, held⟩ | ⟨map, rfl, missing, rfl⟩)
    · rw [fromWire_of_get held]
      exact CollectionOptions.fromValue_toValue finite
    · simp [CollectionOptions.fromWire, Value.structFields, missing, Value.orDefault]

/-! ## The operations -/

namespace Documents
open Operation

variable {α β : Type}

def json (variant : String) (fields : Coded (Option Value) α) (type : String)
    (answer : Heard Value β) : Inquiry α β :=
  ⟨"Document", variant, fields, .json variant type answer⟩

def doing (variant : String) (payload : Coded (Option Value) α) : Operation α Unit :=
  .ofDone "Document" variant payload

/-- `documents_of`. -/
def payload (what : String) : Payload (List Document) where
  kind := "Documents"
  means := Spoken.documents.means
  read S := deserialized Spoken.documents.read fun v =>
    "malformed Documents payload from " ++ what ++ ": " ++ S.mismatch "Vec<Document>" v
  reads said := by rw [deserialized, Spoken.documents.reads said]
  misread := deserialized_error

def finding (variant : String) (fields : Coded (Option Value) α) : Inquiry α (List Document) :=
  ⟨"Document", variant, fields, payload variant⟩

/-- `{"collection": …}`. -/
def inCollection : Fields Value String := .one "collection" text

/-- `{"collection": …, "id": …}`. -/
def byId : Fields Value (String × String) := inCollection.and (.one "id" text)

/-- `{"collection": …, "index_name": …}`. -/
def byIndex : Fields Value (String × String) := inCollection.and (.one "index_name" text)

def createCollection : Operation String Unit :=
  doing "CreateCollection" (withFields inCollection (by decide))

def dropCollection : Operation String Unit :=
  doing "DropCollection" (withFields inCollection (by decide))

def listCollections : Inquiry Unit (List String) :=
  json "ListCollections" Operation.plain "Collections"
    (Spoken.single "collections" (Spoken.listOf Spoken.text) [])

def insert : Inquiry (String × Option String × Value) String :=
  json "Insert"
    (withFields (inCollection.and <| (Fields.one "id" nullableText).and <| .one "document" any)
      (by decide))
    "Inserted" (Spoken.single "id" Spoken.text "")

def get : Inquiry (String × String) (List Document) :=
  finding "Get" (withFields byId (by decide))

def find : Inquiry (String × DocumentFilter × Option UInt64) (List Document) :=
  finding "Find"
    (withFields (inCollection.and <| (Fields.one "filter" DocumentFilter.coded).and <|
      .one "limit" nullableCount) (by decide))

def update : Operation ((String × String) × Document) Unit :=
  doing "Update" (withFields (byId.and (.one "set" object)) (by decide))

def updateOne : Inquiry ((String × String) × DocumentUpdate × Bool) UpdateOne :=
  json "UpdateOne"
    (withFields (byId.and <| (Fields.one "update" DocumentUpdate.coded).and <| .one "upsert" flag)
      (by decide))
    "UpdateOne" Spoken.updateOne

def updateMany : Inquiry (String × DocumentFilter × DocumentUpdate) UpdateCounts :=
  json "UpdateMany"
    (withFields (inCollection.and <| (Fields.one "filter" DocumentFilter.coded).and <|
      .one "update" DocumentUpdate.coded) (by decide))
    "UpdateCounts" Spoken.updateCounts

def delete : Operation (String × String) Unit := doing "Delete" (withFields byId (by decide))

def createIndex : Operation ((String × String) × String × Bool) Unit :=
  doing "CreateIndex"
    (withFields (byIndex.and <| (Fields.one "field" text).and <| .one "unique" flag) (by decide))

def dropIndex : Operation (String × String) Unit :=
  doing "DropIndex" (withFields byIndex (by decide))

def listIndexes : Inquiry String (List DocumentIndex) :=
  json "ListIndexes" (withFields inCollection (by decide)) "Indexes"
    (Spoken.single "indexes" (Spoken.listOf Spoken.documentIndex) [])

def analyze : Inquiry String DocumentStats :=
  json "Analyze" (withFields inCollection (by decide)) "DocumentStats" Spoken.documentStats

def aggregate : Inquiry (String × List AggregateStage) (List Document) :=
  finding "Aggregate"
    (withFields (inCollection.and (.one "pipeline" (listOf AggregateStage.coded))) (by decide))

/-- `return` is left out when no document is asked for. -/
def returnDocument : Fields Value ReturnDocument :=
  .skipping "return"
    (Written.variant (fun | .none => "None" | .before => "Before" | .after => "After")
      [.none, .before, .after] (fun r => by cases r <;> decide) (by decide))
    (· == .none) .none fun _ h => beq_iff_eq.mp h

def replace : Inquiry ((String × String) × Value × Bool × ReturnDocument × Option UInt64)
    ReplaceResult :=
  json "Replace"
    (withFields (byId.and <| (Fields.one "document" any).and <| (Fields.one "upsert" flag).and <|
      returnDocument.and <| .optional "expected_version" count) (by decide))
    "ReplaceResult" Spoken.replaceResult

def insertMany : Inquiry (String × List Value) (List String) :=
  json "InsertMany" (withFields (inCollection.and (.one "documents" (listOf any))) (by decide))
    "Inserted" (Spoken.single "ids" (Spoken.listOf Spoken.text) [])

def deleteMany : Inquiry (String × DocumentFilter) Int :=
  json "DeleteMany"
    (withFields (inCollection.and (.one "filter" DocumentFilter.coded)) (by decide))
    "Deleted" (Spoken.single "deleted" Spoken.integer 0)

def renameCollection : Operation (String × String) Unit :=
  doing "RenameCollection" (withFields (inCollection.and (.one "to" text)) (by decide))

def purgeExpired : Inquiry String PurgeCounts :=
  json "PurgeExpired" (withFields inCollection (by decide)) "PurgeCounts" Spoken.purgeCounts

def explain : Inquiry
    (String × DocumentFilter × Option UInt64 × List SortKey × Option UInt64) DocumentPlan :=
  json "Explain"
    (withFields (inCollection.and <| (Fields.one "filter" DocumentFilter.coded).and <|
      (Fields.optional "limit" count).and <|
      (Fields.skipping "sort" (listOf SortKey.coded) List.isEmpty []
        fun _ h => List.isEmpty_iff.mp h).and <|
      .optional "skip" count) (by decide))
    "DocumentPlan" Spoken.documentPlan

def beginTransaction : Inquiry Bool String :=
  json "BeginTransaction" (withFields (.one "serializable" flag) (by decide)) "Begun"
    (Spoken.single "txn" Spoken.text "")

def commitTransaction : Inquiry Unit DocumentCommit :=
  json "CommitTransaction" Operation.plain "DocumentCommit" Spoken.documentCommit

def rollbackTransaction : Operation Unit Unit := doing "RollbackTransaction" Operation.plain

def rebuildIndex : Inquiry (String × String) IndexRebuild :=
  json "RebuildIndex" (withFields byIndex (by decide)) "IndexRebuild" Spoken.indexRebuild

def setCollectionOptions :
    Inquiry (String × { o : CollectionOptions // o.Finite }) Int :=
  json "SetCollectionOptions"
    (withFields (inCollection.and (.one "options" CollectionOptions.coded)) (by decide))
    "Updated" (Spoken.single "documents_checked" Spoken.integer 0)

def getCollectionOptions : Inquiry String CollectionOptions :=
  json "GetCollectionOptions" (withFields inCollection (by decide)) "Wire" Spoken.collectionOptions

def bulkWrite : Inquiry (String × List BulkOp) BulkWriteResult :=
  json "BulkWrite" (withFields (inCollection.and (.one "ops" (listOf BulkOp.coded))) (by decide))
    "BulkWriteResult" Spoken.bulkWriteResult

def operations : List AnyOperation :=
  [⟨createCollection⟩, ⟨dropCollection⟩, ⟨listCollections.operation⟩, ⟨insert.operation⟩, ⟨get.operation⟩,
    ⟨find.operation⟩, ⟨update⟩, ⟨updateOne.operation⟩, ⟨updateMany.operation⟩, ⟨delete⟩, ⟨createIndex⟩,
    ⟨dropIndex⟩, ⟨listIndexes.operation⟩, ⟨analyze.operation⟩, ⟨aggregate.operation⟩, ⟨replace.operation⟩,
    ⟨insertMany.operation⟩, ⟨deleteMany.operation⟩, ⟨renameCollection⟩, ⟨purgeExpired.operation⟩,
    ⟨explain.operation⟩, ⟨beginTransaction.operation⟩, ⟨commitTransaction.operation⟩,
    ⟨rollbackTransaction⟩, ⟨rebuildIndex.operation⟩, ⟨setCollectionOptions.operation⟩,
    ⟨getCollectionOptions.operation⟩, ⟨bulkWrite.operation⟩]

theorem operations_distinct : (operations.map AnyOperation.tag).Nodup := by decide

end Documents

/-! ## The methods -/

/-- A document as the JSON object it must be; `document` is what `serde_json::to_value` made. -/
def objectValue (document : Except String Value) : Except Error Value :=
  match document with
  | .error e => .error (Error.invalid ("the document cannot be encoded as JSON: " ++ e))
  | .ok (.object map) => .ok (.object map)
  | .ok _ =>
    .error (Error.invalid "a document must encode to a JSON object, not a scalar or an array")

theorem objectValue_refuses (document : Except String Value) :
    RefusesInvalid (objectValue document) := by
  intro e h
  unfold objectValue at h
  split at h
  · cases h
    exact ⟨_, rfl⟩
  · cases h
  · cases h
    exact ⟨_, rfl⟩

/-- An update that changes nothing is refused. -/
def changing {α : Type} (update : DocumentUpdate) (args : α) : Except Error α :=
  if update.isEmpty then
    .error (Error.invalid "an update must set or increment at least one field")
  else .ok args

theorem changing_refuses {α : Type} (update : DocumentUpdate) (args : α) :
    RefusesInvalid (changing update args) := by
  intro e h
  unfold changing at h
  split at h
  · cases h
    exact ⟨_, rfl⟩
  · cases h

/-- An id that the answer has to carry. -/
def present (text missing : String) : Except Error String :=
  if text.isEmpty then .error (Error.protocol missing) else .ok text

theorem present_error {text missing : String} {e : Error} (h : present text missing = .error e) :
    ∃ message, e = Error.protocol message := by
  unfold present at h
  split at h
  · cases h
    exact ⟨_, rfl⟩
  · cases h

section

variable {α γ ω : Type} (H : Host ω)

/-! ### Collections -/

def documentCreateCollection (collection : String) : Stub Unit :=
  Documents.createCollection.perform collection

def documentDropCollection (collection : String) : Stub Unit :=
  Documents.dropCollection.perform collection

def documentListCollections : Stub (List String) := Documents.listCollections.call H ()

def documentRenameCollection (collection newName : String) : Stub Unit :=
  Documents.renameCollection.perform (collection, newName)

def documentPurgeExpired (collection : String) : Stub PurgeCounts :=
  Documents.purgeExpired.call H collection

/-! ### One document -/

def documentInsertInner (collection : String) (id : Option String)
    (document : Except String Value) : Stub String :=
  Documents.insert.stubThen H
    ((objectValue document).map fun document => (collection, id, document))
    (refusesInvalid_map (objectValue_refuses document) _)
    (fun id => present id "Insert answered with no document id") fun _ _ => present_error

def documentInsert (collection : String) (document : Except String Value) : Stub String :=
  documentInsertInner H collection none document

def documentInsertWithId (collection id : String) (document : Except String Value) : Stub String :=
  documentInsertInner H collection (some id) document

def documentGet (collection id : String) : Stub (Option Document) :=
  Documents.get.callFor H (collection, id) List.head?

def documentUpdate (collection id : String) (set : Document) : Stub Unit :=
  Documents.update.perform ((collection, id), set)

/-- `update_one`. -/
def updateOneInner (collection id : String) (update : DocumentUpdate) (upsert : Bool)
    (take : UpdateOne → γ) : Stub γ :=
  Documents.updateOne.stub H (changing update ((collection, id), update, upsert))
    (changing_refuses update _) take

def documentUpdateOne (collection id : String) (update : DocumentUpdate) : Stub Unit :=
  updateOneInner H collection id update false fun _ => ()

/-- Apply an update to one document, creating it when it does not exist; whether it was. -/
def documentUpsertOne (collection id : String) (update : DocumentUpdate) : Stub Bool :=
  updateOneInner H collection id update true UpdateOne.inserted

def documentDelete (collection id : String) : Stub Unit := Documents.delete.perform (collection, id)

def documentReplace (collection id : String) (document : Except String Value)
    (options : ReplaceOptions) : Stub ReplaceResult :=
  Documents.replace.stub H
    ((objectValue document).map fun document =>
      ((collection, id), document, options.upsert, options.returnDocument,
        options.expectedVersion))
    (refusesInvalid_map (objectValue_refuses document) _) fun result => result

/-! ### Many documents -/

def documentFind (collection : String) (filter : DocumentFilter) : Stub (List Document) :=
  Documents.find.call H (collection, filter, none)

/-- At most `limit` of them; a limit of zero is none. -/
def documentFindLimit (collection : String) (filter : DocumentFilter) (limit : UInt64) :
    Stub (List Document) :=
  Documents.find.call H (collection, filter, if limit = 0 then none else some limit)

def documentUpdateMany (collection : String) (filter : DocumentFilter) (update : DocumentUpdate) :
    Stub UpdateCounts :=
  Documents.updateMany.stub H (changing update (collection, filter, update))
    (changing_refuses update _) id

def documentInsertMany (collection : String) (documents : List (Except String Value)) :
    Stub (List String) :=
  Documents.insertMany.stub H ((documents.mapM objectValue).map fun documents =>
      (collection, documents))
    (refusesInvalid_map (fun _ h =>
      have ⟨document, _, refused⟩ := Codec.mapM_error h
      objectValue_refuses document _ refused) _) id

def documentDeleteMany (collection : String) (filter : DocumentFilter) : Stub Int :=
  Documents.deleteMany.call H (collection, filter)

def documentAggregate (collection : String) (pipeline : List AggregateStage) :
    Stub (List Document) :=
  Documents.aggregate.call H (collection, pipeline)

def documentExplain (collection : String) (filter : DocumentFilter) (options : ExplainOptions) :
    Stub DocumentPlan :=
  Documents.explain.call H (collection, filter, options.limit, options.sort, options.skip)

def documentBulkWrite (collection : String) (ops : List BulkOp) : Stub BulkWriteResult :=
  Documents.bulkWrite.call H (collection, ops)

/-! ### Indexes and options -/

def documentCreateIndex (collection indexName field : String) (unique : Bool) : Stub Unit :=
  Documents.createIndex.perform ((collection, indexName), field, unique)

def documentDropIndex (collection indexName : String) : Stub Unit :=
  Documents.dropIndex.perform (collection, indexName)

def documentListIndexes (collection : String) : Stub (List DocumentIndex) :=
  Documents.listIndexes.call H collection

def documentRebuildIndex (collection indexName : String) : Stub IndexRebuild :=
  Documents.rebuildIndex.call H (collection, indexName)

def documentAnalyze (collection : String) : Stub DocumentStats :=
  Documents.analyze.call H collection

theorem setCollectionOptions_eq (collection : String) (options : CollectionOptions)
    (finite : options.Finite) :
    (Documents.setCollectionOptions.call H (collection, ⟨options, finite⟩)).toTypedMethod =
      documentSetCollectionOptions H collection options :=
  TypedMethod.ext rfl fun r => (Inquiry.call_decode ..).trans
    (congrArg (fun fromValue => r.decode (H.serde.mismatch "Updated") fromValue
      "SetCollectionOptions") (funext (Spoken.single_integer "documents_checked")))

theorem getCollectionOptions_eq (collection : String) :
    (Documents.getCollectionOptions.call H collection).toTypedMethod =
      documentGetCollectionOptions H collection :=
  TypedMethod.ext rfl fun _ => Inquiry.call_decode ..

end

end TricoreSdk
