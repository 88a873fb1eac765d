import TricoreSdk.Stubs

/-! Documents (`document.rs`): filters, updates, aggregation stages and bulk operations as JSON, and
the operations on collections. -/

namespace TricoreSdk
open Shape Written

abbrev Document := SortedMap String Value

/-- The name and the payload of an externally tagged variant. -/
def Value.asTagged : Value → Option (String × Value)
  | object [(name, body)] => some (name, body)
  | _ => none

def Value.tagged (name : String) (body : Value) : Value := ofFields [(name, body)]

@[simp] theorem Value.asTagged_tagged (name : String) (body : Value) :
    (tagged name body).asTagged = some (name, body) := rfl

/-! ## Filters -/

inductive Comparison where
  | eq
  | ne
  | gt
  | gte
  | lt
  | lte
  | contains
  deriving DecidableEq

namespace Comparison

def variant : Comparison → String
  | eq => "Eq"
  | ne => "Ne"
  | gt => "Gt"
  | gte => "Gte"
  | lt => "Lt"
  | lte => "Lte"
  | contains => "Contains"

def ofVariant (name : String) : Option Comparison :=
  [eq, ne, gt, gte, lt, lte, contains].find? fun c => c.variant == name

theorem ofVariant_variant (c : Comparison) : ofVariant c.variant = some c := by
  cases c <;> decide

theorem variant_ne_in (c : Comparison) : c.variant ≠ "In" := by
  cases c <;> decide

end Comparison

inductive DocumentFilter where
  | all
  | compare (comparison : Comparison) (field : String) (value : Value)
  | isIn (field : String) (values : List Value)
  | and (filters : List DocumentFilter)

/-- `field_filter`. -/
def fieldFilter (variant field : String) (value : Value) : Value :=
  .tagged variant (.ofFields [("field", .string field), ("value", value)])

namespace DocumentFilter

def eq := compare .eq

def ne := compare .ne

def gt := compare .gt

def gte := compare .gte

def lt := compare .lt

def lte := compare .lte

def contains := compare .contains

mutual

def toValue : DocumentFilter → Value
  | all => .string "All"
  | compare comparison field value => fieldFilter comparison.variant field value
  | isIn field values =>
    .tagged "In" (.ofFields [("field", .string field), ("values", .array values)])
  | and filters => .tagged "And" (.array (toValues filters))

def toValues : List DocumentFilter → List Value
  | [] => []
  | f :: fs => f.toValue :: toValues fs

end

def onField (variant : String) (body : Value) : Option DocumentFilter := do
  let field ← (← body.get "field").asStr
  if variant = "In" then return isIn field (← (← body.get "values").asItems)
  else return compare (← Comparison.ofVariant variant) field (← body.get "value")

mutual

def fromValue : Value → Option DocumentFilter
  | .string name => if name = "All" then some all else none
  | .object [(name, .array filters)] =>
    if name = "And" then (fromValues filters).map and else none
  | .object [(name, body)] => onField name body
  | _ => none

def fromValues : List Value → Option (List DocumentFilter)
  | [] => some []
  | v :: vs => do return (← fromValue v) :: (← fromValues vs)

end

theorem onField_compare (c : Comparison) (field : String) (value : Value) :
    onField c.variant (.ofFields [("field", .string field), ("value", value)]) =
      some (compare c field value) := by
  simp [onField, Value.get, Value.ofFields, Map.lookup_insert, Value.asStr, c.variant_ne_in,
    c.ofVariant_variant]

theorem onField_isIn (field : String) (values : List Value) :
    onField "In" (.ofFields [("field", .string field), ("values", .array values)]) =
      some (isIn field values) := by
  simp [onField, Value.get, Value.ofFields, Map.lookup_insert, Value.asStr, Value.asItems]

mutual

/-- A filter nests its filters to any depth, and each of them is read back in its place. -/
theorem fromValue_toValue : ∀ f : DocumentFilter, fromValue f.toValue = some f
  | all => by rw [toValue, fromValue, if_pos rfl]
  | compare c field value => by
    rw [toValue]
    exact onField_compare c field value
  | isIn field values => by
    rw [toValue]
    exact onField_isIn field values
  | and filters => by
    have read : fromValue (and filters).toValue = (fromValues (toValues filters)).map and := by
      rw [toValue]
      rfl
    rw [read, fromValues_toValues filters, Option.map_some]

theorem fromValues_toValues : ∀ fs : List DocumentFilter, fromValues (toValues fs) = some fs
  | [] => rfl
  | f :: fs => by
    rw [toValues, fromValues, fromValue_toValue f, fromValues_toValues fs]
    rfl

end

def coded : Coded Value DocumentFilter := ⟨toValue, fromValue, fromValue_toValue⟩

end DocumentFilter

/-! ## Updates -/

theorem isEmpty_only {α : Type} (m : SortedMap String α) (h : m.isEmpty = true) : m = .empty :=
  SortedMap.eq_empty h

structure DocumentUpdate where
  set : SortedMap String Value
  inc : SortedMap String Value

namespace DocumentUpdate

def new : DocumentUpdate := ⟨.empty, .empty⟩

/-- `update.set(path, value)`. -/
def setting (path : String) (value : Value) (u : DocumentUpdate) : DocumentUpdate :=
  { u with set :=
      ⟨SortedMap.insertEntry path value u.set.entries,
        SortedMap.insertEntry_sorted path value u.set.sorted⟩ }

def incrementing (path : String) (delta : Value) (u : DocumentUpdate) : DocumentUpdate :=
  { u with inc :=
      ⟨SortedMap.insertEntry path delta u.inc.entries,
        SortedMap.insertEntry_sorted path delta u.inc.sorted⟩ }

def isEmpty (u : DocumentUpdate) : Bool := u.set.isEmpty && u.inc.isEmpty

/-- The half that is not used is left out. -/
def fields : Fields Value DocumentUpdate :=
  ((Fields.skipping "set" object SortedMap.isEmpty .empty isEmpty_only).and
    (.skipping "inc" object SortedMap.isEmpty .empty isEmpty_only)).through
    (fun u => ⟨u.1, u.2⟩) (fun u => (u.set, u.inc)) fun _ => rfl

def coded : Coded Value DocumentUpdate := fields.coded Value.format (by decide)

end DocumentUpdate

/-! ## Aggregation -/

inductive GroupKey where
  | field (path : String)
  | constant (value : Value)

namespace GroupKey

def toValue : GroupKey → Value
  | field path => .tagged "Field" (.string path)
  | constant value => .tagged "Constant" value

def fromValue (v : Value) : Option GroupKey := do
  let (name, body) ← v.asTagged
  if name = "Field" then body.asStr.map field
  else if name = "Constant" then some (constant body)
  else none

theorem fromValue_toValue (k : GroupKey) : fromValue k.toValue = some k := by
  cases k <;> simp [toValue, fromValue, Value.asStr]

def coded : Coded Value GroupKey := ⟨toValue, fromValue, fromValue_toValue⟩

end GroupKey

inductive Reduction where
  | sum
  | avg
  | min
  | max
  deriving DecidableEq

namespace Reduction

def variant : Reduction → String
  | sum => "Sum"
  | avg => "Avg"
  | min => "Min"
  | max => "Max"

def ofVariant (name : String) : Option Reduction :=
  [sum, avg, min, max].find? fun r => r.variant == name

theorem ofVariant_variant (r : Reduction) : ofVariant r.variant = some r := by
  cases r <;> decide

end Reduction

/-- One reduction inside a group stage; counting takes no field. -/
inductive AccumulatorOp where
  | reduce (reduction : Reduction) (field : String)
  | count

namespace AccumulatorOp

def sum := reduce .sum

def avg := reduce .avg

def min := reduce .min

def max := reduce .max

def toValue : AccumulatorOp → Value
  | reduce r field => .tagged r.variant (.string field)
  | count => .string "Count"

def fromValue : Value → Option AccumulatorOp
  | .string name => if name = "Count" then some count else none
  | v => do
    let (name, body) ← v.asTagged
    return reduce (← Reduction.ofVariant name) (← body.asStr)

theorem fromValue_toValue (a : AccumulatorOp) : fromValue a.toValue = some a := by
  cases a with
  | reduce r field =>
    change (do
      let (name, body) ← (Value.tagged r.variant (.string field)).asTagged
      return reduce (← Reduction.ofVariant name) (← body.asStr)) = _
    simp [r.ofVariant_variant, Value.asStr]
  | count => rw [toValue, fromValue, if_pos rfl]

def coded : Coded Value AccumulatorOp := ⟨toValue, fromValue, fromValue_toValue⟩

end AccumulatorOp

structure GroupAccumulator where
  output : String
  op : AccumulatorOp

def GroupAccumulator.coded : Coded Value GroupAccumulator :=
  (((Fields.one "output" text).and (.one "op" AccumulatorOp.coded)).through
    (fun a => ⟨a.1, a.2⟩) (fun a => (a.output, a.op)) fun _ => rfl).coded Value.format (by decide)

structure SortKey where
  field : String
  descending : Bool

namespace SortKey

def up (field : String) : SortKey := ⟨field, false⟩

def down (field : String) : SortKey := ⟨field, true⟩

def coded : Coded Value SortKey :=
  (((Fields.one "field" text).and (.one "descending" flag)).through
    (fun k => ⟨k.1, k.2⟩) (fun k => (k.field, k.descending)) fun _ => rfl).coded
    Value.format (by decide)

end SortKey

inductive AggregateStage where
  | filter (filter : DocumentFilter)
  | group (by_ : GroupKey) (accumulators : List GroupAccumulator)
  | sort (keys : List SortKey)
  | skip (n : UInt64)
  | limit (n : UInt64)
  | project (fields : List String) (include_ : Bool)
  | count (field : String)

namespace AggregateStage

def groupBody : Coded Value (GroupKey × List GroupAccumulator) :=
  ((Fields.one "by" GroupKey.coded).and
    (.one "accumulators" (listOf GroupAccumulator.coded))).coded Value.format (by decide)

def projectBody : Coded Value (List String × Bool) :=
  ((Fields.one "fields" (listOf text)).and (.one "include" flag)).coded Value.format (by decide)

def countBody : Coded Value String := (Fields.one "field" text).coded Value.format (by decide)

def toValue : AggregateStage → Value
  | filter f => .tagged "Match" f.toValue
  | group key accumulators => .tagged "Group" (groupBody.write (key, accumulators))
  | sort keys => .tagged "Sort" ((listOf SortKey.coded).write keys)
  | skip n => .tagged "Skip" (.ofU64 n)
  | limit n => .tagged "Limit" (.ofU64 n)
  | project fields kept => .tagged "Project" (projectBody.write (fields, kept))
  | count field => .tagged "Count" (countBody.write field)

def fromValue (v : Value) : Option AggregateStage := do
  let (name, body) ← v.asTagged
  if name = "Match" then (DocumentFilter.fromValue body).map filter
  else if name = "Group" then (groupBody.read body).map fun g => group g.1 g.2
  else if name = "Sort" then ((listOf SortKey.coded).read body).map sort
  else if name = "Skip" then body.asU64.map skip
  else if name = "Limit" then body.asU64.map limit
  else if name = "Project" then (projectBody.read body).map fun p => project p.1 p.2
  else if name = "Count" then (countBody.read body).map count
  else none

theorem fromValue_toValue (s : AggregateStage) : fromValue s.toValue = some s := by
  cases s <;>
    simp [toValue, fromValue, DocumentFilter.fromValue_toValue, Coded.back, Value.asU64, Value.ofU64]

def coded : Coded Value AggregateStage := ⟨toValue, fromValue, fromValue_toValue⟩

end AggregateStage

/-! ## Bulk operations -/

inductive BulkOp where
  | insert (id : Option String) (document : Value)
  | updateOne (id : String) (update : DocumentUpdate) (upsert : Bool)
    (expectedVersion : Option UInt64)
  | replace (id : String) (document : Value) (upsert : Bool) (expectedVersion : Option UInt64)
  | delete (id : String) (expectedVersion : Option UInt64)

namespace BulkOp

def upserting : BulkOp → BulkOp
  | updateOne id update _ version => updateOne id update true version
  | replace id document _ version => replace id document true version
  | op => op

/-- Apply only if the document still has this version. -/
def expecting (version : UInt64) : BulkOp → BulkOp
  | updateOne id update upsert _ => updateOne id update upsert (some version)
  | replace id document upsert _ => replace id document upsert (some version)
  | delete id _ => delete id (some version)
  | insert id document => insert id document

def insertBody : Coded Value (Option String × Value) :=
  ((Fields.one "id" nullableText).and (.one "document" any)).coded Value.format (by decide)

def updateBody : Coded Value (String × DocumentUpdate × Bool × Option UInt64) :=
  ((Fields.one "id" text).and <| (Fields.one "update" DocumentUpdate.coded).and <|
    (Fields.one "upsert" flag).and <| .one "expected_version" nullableCount).coded
    Value.format (by decide)

def replaceBody : Coded Value (String × Value × Bool × Option UInt64) :=
  ((Fields.one "id" text).and <| (Fields.one "document" any).and <|
    (Fields.one "upsert" flag).and <| .one "expected_version" nullableCount).coded
    Value.format (by decide)

def deleteBody : Coded Value (String × Option UInt64) :=
  ((Fields.one "id" text).and (.one "expected_version" nullableCount)).coded Value.format
    (by decide)

def toValue : BulkOp → Value
  | insert id document => .tagged "Insert" (insertBody.write (id, document))
  | updateOne id update upsert version =>
    .tagged "UpdateOne" (updateBody.write (id, update, upsert, version))
  | replace id document upsert version =>
    .tagged "Replace" (replaceBody.write (id, document, upsert, version))
  | delete id version => .tagged "Delete" (deleteBody.write (id, version))

def fromValue (v : Value) : Option BulkOp := do
  let (name, body) ← v.asTagged
  if name = "Insert" then (insertBody.read body).map fun i => insert i.1 i.2
  else if name = "UpdateOne" then
    (updateBody.read body).map fun u => updateOne u.1 u.2.1 u.2.2.1 u.2.2.2
  else if name = "Replace" then
    (replaceBody.read body).map fun r => replace r.1 r.2.1 r.2.2.1 r.2.2.2
  else if name = "Delete" then (deleteBody.read body).map fun d => delete d.1 d.2
  else none

theorem fromValue_toValue (b : BulkOp) : fromValue b.toValue = some b := by
  cases b <;> simp [toValue, fromValue, Coded.back]

def coded : Coded Value BulkOp := ⟨toValue, fromValue, fromValue_toValue⟩

end BulkOp

end TricoreSdk
