import TricoreSdk.Lib.Codec
import TricoreSdk.Lib.SortedMap
import TricoreSdk.ByteValues
import TricoreSdk.Params

/-! The options of a document collection (`document.rs`): a schema, defaults and versioning, as
`derive` writes them to JSON and reads them back. -/

namespace TricoreSdk
open Effects

/-! ## Records -/

namespace Value

def present (fields : List (String × Option Value)) : List (String × Value) :=
  fields.filterMap fun field => field.2.map fun v => (field.1, v)

/-- A record, as `derive` writes one. -/
def ofPresent (fields : List (String × Option Value)) : Value := ofFields (present fields)

theorem lookup_foldl_insert {fields : List (String × Value)}
    (distinct : (fields.map Prod.fst).Nodup) (map : List (String × Value)) (key : String) :
    (fields.foldl (fun map field => Map.insert field.1 field.2 map) map).lookup key =
      (fields.lookup key).or (map.lookup key) := by
  induction fields generalizing map with
  | nil => rfl
  | cons m fields ih =>
    obtain ⟨fresh, rest⟩ := List.nodup_cons.mp distinct
    rw [List.foldl_cons, ih rest, Map.lookup_insert, lookup_cons_ite]
    by_cases h : key = m.1
    · have absent : fields.lookup key = none := by
        rw [List.lookup_eq_none_iff]
        intro n hn
        have named : n.1 ∈ fields.map Prod.fst := List.mem_map_of_mem hn
        exact bne_iff_ne.mpr fun same : key = n.1 => fresh (h ▸ same ▸ named)
      rw [if_pos h, if_pos h, absent, Option.none_or, Option.some_or]
    · rw [if_neg h, if_neg h]

theorem present_names (fields : List (String × Option Value)) :
    ((present fields).map Prod.fst).Sublist (fields.map Prod.fst) := by
  induction fields with
  | nil => exact .slnil
  | cons field fields ih =>
    obtain ⟨name, v⟩ := field
    cases v with
    | none => exact ih.cons name
    | some v => exact ih.cons_cons name

theorem lookup_present_of_notMem {fields : List (String × Option Value)} {key : String}
    (h : key ∉ fields.map Prod.fst) : (present fields).lookup key = none := by
  rw [List.lookup_eq_none_iff]
  intro m hm
  have named : m.1 ∈ fields.map Prod.fst :=
    (present_names fields).subset (List.mem_map_of_mem hm)
  exact bne_iff_ne.mpr fun same : key = m.1 => h (same ▸ named)

theorem lookup_present {fields : List (String × Option Value)}
    (distinct : (fields.map Prod.fst).Nodup) {field : String × Option Value}
    (among : field ∈ fields) : (present fields).lookup field.1 = field.2 := by
  induction fields with
  | nil => cases among
  | cons f fields ih =>
    obtain ⟨fresh, rest⟩ := List.nodup_cons.mp distinct
    obtain ⟨name, v⟩ := f
    rcases List.mem_cons.mp among with rfl | later
    · cases v with
      | none => exact (lookup_present_of_notMem fresh :)
      | some v => exact (lookup_cons_ite name name v _).trans (if_pos rfl)
    · have named : field.1 ∈ fields.map Prod.fst := List.mem_map_of_mem later
      have other : field.1 ≠ name := fun same => fresh (same ▸ named)
      have tail := ih rest later
      cases v with
      | none => exact tail
      | some v => exact ((lookup_cons_ite name field.1 v _).trans (if_neg other)).trans tail

theorem structFields_ofPresent (fields : List (String × Option Value))
    (distinct : (fields.map Prod.fst).Nodup) :
    (ofPresent fields).structFields (fields.map Prod.fst) = some (fields.map Prod.snd) := by
  have named : ((present fields).map Prod.fst).Nodup :=
    (present_names fields).nodup distinct
  rw [ofPresent, ofFields, structFields, List.map_map]
  refine congrArg some (List.map_congr_left fun field hf => ?_)
  rw [Function.comp_apply, lookup_foldl_insert named, lookup_present distinct hf, List.lookup_nil,
    Option.or_none]

/-- `Option<T>`: `null` is `None`. -/
def asOption {α : Type} (read : Value → Option α) : Value → Option (Option α)
  | null => some none
  | v => (read v).map some

def asArray {α : Type} (read : Value → Option α) : Value → Option (List α)
  | array items => items.mapM read
  | _ => none

/-- A `BTreeMap` or a `Map`. -/
def asMap {α : Type} (read : Value → Option α) : Value → Option (SortedMap String α)
  | object map => (map.mapM fun m => (read m.2).map fun a => (m.1, a)).map .ofEntries
  | _ => none

def ofOption {α : Type} (write : α → Value) : Option α → Value
  | some a => write a
  | none => null

def ofMap {α : Type} (write : α → Value) (map : SortedMap String α) : Value :=
  ofFields (map.entries.map fun m => (m.1, write m.2))

end Value

/-! ## Floats -/

namespace F64

/-- `n / 2 ^ k`, to the nearest integer and to the even one of two. -/
def roundEven (n k : Nat) : Nat :=
  let half := n % 2 ^ k * 2
  if 2 ^ k < half ∨ half = 2 ^ k ∧ n / 2 ^ k % 2 = 1 then n / 2 ^ k + 1 else n / 2 ^ k

/-- `n as f64`. -/
def ofNat (n : Nat) : F64 :=
  if n = 0 then ⟨0⟩
  else
    let exponent := Nat.log2 n
    let significand := if exponent ≤ 52 then n * 2 ^ (52 - exponent) else roundEven n (exponent - 52)
    -- The leading bit of the significand adds one to the exponent.
    ⟨BitVec.ofNat 64 ((exponent + 1022) * 2 ^ 52 + significand)⟩

def ofInt (i : Int) : F64 :=
  if i < 0 then ⟨(ofNat i.natAbs).bits ||| (1 <<< 63)⟩ else ofNat i.natAbs

end F64

def Value.asF64 : Value → Option F64
  | number (.posInt n) => some (F64.ofNat n.toNat)
  | number (.negInt i) => some (F64.ofInt i.val)
  | number (.float f) => some f.val
  | _ => none

/-! ## The options -/

inductive FieldType where
  | string
  | number
  | integer
  | boolean
  | object
  | array
  | null
  deriving DecidableEq

namespace FieldType

/-- The name of a variant in `snake_case`. -/
def name : FieldType → String
  | string => "string"
  | number => "number"
  | integer => "integer"
  | boolean => "boolean"
  | object => "object"
  | array => "array"
  | null => "null"

def ofName (text : String) : Option FieldType :=
  [string, number, integer, boolean, object, array, null].find? fun t => t.name == text

def toValue (t : FieldType) : Value := .string t.name

/-- A unit variant is read by its name, or as an object of it and `null`. -/
def fromValue : Value → Option FieldType
  | .string text => ofName text
  | .object [(text, .null)] => ofName text
  | _ => none

end FieldType

/-- What one field may hold; a length is a `usize` of 64 bits. -/
structure FieldRule where
  fieldType : Option FieldType
  oneOf : List Value
  minimum : Option F64
  maximum : Option F64
  minLength : Option UInt64
  maxLength : Option UInt64
  pattern : Option String

structure DocumentSchema where
  required : List String
  fields : SortedMap String FieldRule
  additionalFields : Bool

structure CollectionOptions where
  schema : Option DocumentSchema
  defaults : SortedMap String Value
  versioned : Bool

/-- `CollectionOptions::default()`. -/
def CollectionOptions.default : CollectionOptions := ⟨none, .empty, false⟩

/-- A field as `derive` writes it, left out under its `skip_serializing_if`. -/
def writeField {α : Type} (name : String) (skip : α → Bool) (write : α → Value) (a : α) :
    String × Option Value :=
  (name, if skip a then none else some (write a))

/-- A field that is always written. -/
def keep {α : Type} (_ : α) : Bool := false

namespace FieldRule

def record (r : FieldRule) : List (String × Option Value) :=
  [writeField "type" Option.isNone (Value.ofOption FieldType.toValue) r.fieldType,
    writeField "one_of" List.isEmpty Value.array r.oneOf,
    writeField "minimum" Option.isNone (Value.ofOption serializeF64) r.minimum,
    writeField "maximum" Option.isNone (Value.ofOption serializeF64) r.maximum,
    writeField "min_length" Option.isNone (Value.ofOption Value.ofU64) r.minLength,
    writeField "max_length" Option.isNone (Value.ofOption Value.ofU64) r.maxLength,
    writeField "pattern" Option.isNone (Value.ofOption Value.string) r.pattern]

def toValue (r : FieldRule) : Value := .ofPresent r.record

def fromValue (v : Value) : Option FieldRule := do
  match ← v.structFields
      ["type", "one_of", "minimum", "maximum", "min_length", "max_length", "pattern"] with
  | [fieldType, oneOf, minimum, maximum, minLength, maxLength, pattern] =>
    some
      { fieldType := ← Value.orDefault none (Value.asOption FieldType.fromValue) fieldType
        oneOf := ← Value.orDefault [] (Value.asArray some) oneOf
        minimum := ← Value.orDefault none (Value.asOption Value.asF64) minimum
        maximum := ← Value.orDefault none (Value.asOption Value.asF64) maximum
        minLength := ← Value.orDefault none (Value.asOption Value.asU64) minLength
        maxLength := ← Value.orDefault none (Value.asOption Value.asU64) maxLength
        pattern := ← Value.orDefault none (Value.asOption Value.asStr) pattern }
  | _ => none

end FieldRule

namespace DocumentSchema

def record (s : DocumentSchema) : List (String × Option Value) :=
  [writeField "required" keep (fun paths => Value.array (paths.map Value.string)) s.required,
    writeField "fields" keep (Value.ofMap FieldRule.toValue) s.fields,
    writeField "additional_fields" keep Value.bool s.additionalFields]

def toValue (s : DocumentSchema) : Value := .ofPresent s.record

def fromValue (v : Value) : Option DocumentSchema := do
  match ← v.structFields ["required", "fields", "additional_fields"] with
  | [required, fields, additionalFields] =>
    some
      { required := ← Value.orDefault [] (Value.asArray Value.asStr) required
        fields := ← Value.orDefault .empty (Value.asMap FieldRule.fromValue) fields
        -- Absent means allowed.
        additionalFields := ← Value.orDefault true Value.asBool additionalFields }
  | _ => none

end DocumentSchema

namespace CollectionOptions

def record (o : CollectionOptions) : List (String × Option Value) :=
  [writeField "schema" Option.isNone (Value.ofOption DocumentSchema.toValue) o.schema,
    writeField "defaults" SortedMap.isEmpty (Value.ofMap id) o.defaults,
    writeField "versioned" keep Value.bool o.versioned]

def toValue (o : CollectionOptions) : Value := .ofPresent o.record

def fromValue (v : Value) : Option CollectionOptions := do
  match ← v.structFields ["schema", "defaults", "versioned"] with
  | [schema, defaults, versioned] =>
    some
      { schema := ← Value.orDefault none (Value.asOption DocumentSchema.fromValue) schema
        defaults := ← Value.orDefault .empty (Value.asMap some) defaults
        versioned := ← Value.orDefault false Value.asBool versioned }
  | _ => none

/-- The `options` field of an answer. -/
def fromWire (v : Value) : Option CollectionOptions := do
  match ← v.structFields ["options"] with
  | [options] => Value.orDefault .default fromValue options
  | _ => none

end CollectionOptions

/-! ## Read back -/

section

variable {α : Type} {read : Value → Option α} {write : α → Value}

theorem orDefault_writeField (name : String) {skip : α → Bool} {absent a : α}
    (only : skip a = true → a = absent) (back : read (write a) = some a) :
    Value.orDefault absent read (writeField name skip write a).2 = some a := by
  unfold writeField
  cases h : skip a with
  | true => exact congrArg some (only h).symm
  | false => exact back

theorem asOption_ofOption {o : Option α} (back : ∀ a, o = some a → read (write a) = some a)
    (apart : ∀ a, o = some a → write a ≠ .null) :
    Value.asOption read (.ofOption write o) = some o := by
  cases o with
  | none => rfl
  | some a =>
    have present := apart a rfl
    have value := back a rfl
    rw [Value.ofOption]
    generalize write a = v at present value
    cases v with
    | null => exact absurd rfl present
    | _ => exact congrArg (Option.map some) value

theorem orDefault_ofOption (name : String) {o : Option α}
    (back : ∀ a, o = some a → read (write a) = some a) (apart : ∀ a, o = some a → write a ≠ .null) :
    Value.orDefault none (Value.asOption read)
      (writeField name Option.isNone (Value.ofOption write) o).2 = some o :=
  orDefault_writeField name (fun h => Option.isNone_iff_eq_none.mp h) (asOption_ofOption back apart)

theorem asArray_map {as : List α} (back : ∀ a ∈ as, read (write a) = some a) :
    Value.asArray read (.array (as.map write)) = some as := Codec.mapM_map_some back

theorem Map.insert_eq_insertEntry (key : String) (value : Value) (map : List (String × Value)) :
    Map.insert key value map = SortedMap.insertEntry key value map := by
  induction map with
  | nil => rfl
  | cons m map ih => rw [Map.insert, SortedMap.insertEntry, ih]

theorem ofMap_eq (map : SortedMap String α) :
    Value.ofMap write map = .object (map.entries.map fun m => (m.1, write m.2)) := by
  have sorted : ([] ++ map.entries.map fun m : String × α => (m.1, write m.2)).Pairwise
      fun m n : String × Value => m.1 < n.1 := List.pairwise_map.mpr map.sorted
  have built := SortedMap.foldl_insertEntry _ _ sorted
  simp only [Value.ofMap, Value.ofFields, Map.insert_eq_insertEntry]
  rw [built, List.nil_append]

theorem asMap_ofMap {map : SortedMap String α}
    (back : ∀ m ∈ map.entries, read (write m.2) = some m.2) :
    Value.asMap read (.ofMap write map) = some map := by
  have entries : (map.entries.map fun m => (m.1, write m.2)).mapM
      (fun m => (read m.2).map fun a => (m.1, a)) = some map.entries :=
    Codec.mapM_map_some fun m hm => by rw [back m hm]; rfl
  rw [ofMap_eq, Value.asMap, entries, Option.map_some, SortedMap.ofEntries_entries]

end

theorem FieldType.fromValue_toValue (t : FieldType) : fromValue t.toValue = some t := by
  cases t <;> decide

theorem asF64_serializeF64 {f : F64} (finite : f.isFinite = true) :
    (serializeF64 f).asF64 = some f ∧ serializeF64 f ≠ .null := by
  rw [serializeF64, dif_pos finite]
  exact ⟨rfl, nofun⟩

def FieldRule.Finite (r : FieldRule) : Prop :=
  (∀ f, r.minimum = some f → f.isFinite = true) ∧ ∀ f, r.maximum = some f → f.isFinite = true

def CollectionOptions.Finite (o : CollectionOptions) : Prop :=
  ∀ s, o.schema = some s → ∀ m ∈ s.fields.entries, m.2.Finite

theorem FieldRule.fromValue_toValue {r : FieldRule} (finite : r.Finite) :
    fromValue r.toValue = some r := by
  have distinct : (r.record.map Prod.fst).Nodup := by simp [record, writeField]
  have fields : r.toValue.structFields
      ["type", "one_of", "minimum", "maximum", "min_length", "max_length", "pattern"] =
      some (r.record.map Prod.snd) := Value.structFields_ofPresent r.record distinct
  have fieldType := orDefault_ofOption "type" (o := r.fieldType)
    (fun t _ => FieldType.fromValue_toValue t) nofun
  have values : Value.asArray some (.array (r.oneOf.map id)) = some r.oneOf :=
    asArray_map fun _ _ => rfl
  rw [List.map_id] at values
  have oneOf := orDefault_writeField "one_of" (fun h => List.isEmpty_iff.mp h) values
  have minimum := orDefault_ofOption "minimum" (o := r.minimum)
    (fun f hf => (asF64_serializeF64 (finite.1 f hf)).1)
    (fun f hf => (asF64_serializeF64 (finite.1 f hf)).2)
  have maximum := orDefault_ofOption "maximum" (o := r.maximum)
    (fun f hf => (asF64_serializeF64 (finite.2 f hf)).1)
    (fun f hf => (asF64_serializeF64 (finite.2 f hf)).2)
  have minLength : Value.orDefault none (Value.asOption Value.asU64)
      (writeField "min_length" Option.isNone (Value.ofOption Value.ofU64) r.minLength).2 =
      some r.minLength := orDefault_ofOption _ (fun _ _ => rfl) nofun
  have maxLength : Value.orDefault none (Value.asOption Value.asU64)
      (writeField "max_length" Option.isNone (Value.ofOption Value.ofU64) r.maxLength).2 =
      some r.maxLength := orDefault_ofOption _ (fun _ _ => rfl) nofun
  have pattern : Value.orDefault none (Value.asOption Value.asStr)
      (writeField "pattern" Option.isNone (Value.ofOption Value.string) r.pattern).2 =
      some r.pattern := orDefault_ofOption _ (fun _ _ => rfl) nofun
  rw [fromValue, fields]
  simp only [record, List.map_cons, List.map_nil, Option.bind_eq_bind, Option.bind_some,
    fieldType, oneOf, minimum, maximum, minLength, maxLength, pattern]

theorem DocumentSchema.fromValue_toValue {s : DocumentSchema}
    (finite : ∀ m ∈ s.fields.entries, m.2.Finite) : fromValue s.toValue = some s := by
  have distinct : (s.record.map Prod.fst).Nodup := by simp [record, writeField]
  have fields : s.toValue.structFields ["required", "fields", "additional_fields"] =
      some (s.record.map Prod.snd) := Value.structFields_ofPresent s.record distinct
  have paths : Value.asArray Value.asStr (.array (s.required.map .string)) = some s.required :=
    asArray_map fun _ _ => rfl
  have rules : Value.asMap FieldRule.fromValue (.ofMap FieldRule.toValue s.fields) =
      some s.fields := asMap_ofMap fun m hm => FieldRule.fromValue_toValue (finite m hm)
  have required : Value.orDefault [] (Value.asArray Value.asStr)
      (writeField "required" keep (fun paths => Value.array (paths.map Value.string))
        s.required).2 = some s.required := orDefault_writeField _ nofun paths
  have fields' : Value.orDefault .empty (Value.asMap FieldRule.fromValue)
      (writeField "fields" keep (Value.ofMap FieldRule.toValue) s.fields).2 = some s.fields :=
    orDefault_writeField _ nofun rules
  have additional : Value.orDefault true Value.asBool
      (writeField "additional_fields" keep Value.bool s.additionalFields).2 =
      some s.additionalFields := orDefault_writeField _ nofun rfl
  rw [fromValue, fields]
  simp only [record, List.map_cons, List.map_nil, Option.bind_eq_bind, Option.bind_some,
    required, fields', additional]

theorem CollectionOptions.fromValue_toValue {o : CollectionOptions} (finite : o.Finite) :
    fromValue o.toValue = some o := by
  have distinct : (o.record.map Prod.fst).Nodup := by simp [record, writeField]
  have fields : o.toValue.structFields ["schema", "defaults", "versioned"] =
      some (o.record.map Prod.snd) := Value.structFields_ofPresent o.record distinct
  have object (s : DocumentSchema) : s.toValue ≠ .null := nofun
  have schema := orDefault_ofOption "schema" (o := o.schema)
    (fun s hs => DocumentSchema.fromValue_toValue (finite s hs)) (fun s _ => object s)
  have values : Value.asMap some (.ofMap id o.defaults) = some o.defaults :=
    asMap_ofMap fun _ _ => rfl
  have defaults := orDefault_writeField "defaults" (fun h => SortedMap.eq_empty h) values
  have versioned : Value.orDefault false Value.asBool
      (writeField "versioned" keep Value.bool o.versioned).2 = some o.versioned :=
    orDefault_writeField _ nofun rfl
  rw [fromValue, fields]
  simp only [record, List.map_cons, List.map_nil, Option.bind_eq_bind, Option.bind_some,
    schema, defaults, versioned]

/-! ## The methods -/

def documentSetCollectionOptionsOp (collection : String) (options : CollectionOptions) : Value :=
  documentOp (Value.ofFields [("SetCollectionOptions", Value.ofFields
    [("collection", .string collection), ("options", options.toValue)])])

def documentGetCollectionOptionsOp (collection : String) : Value :=
  documentOp (Value.ofFields [("GetCollectionOptions", Value.ofFields
    [("collection", .string collection)])])

section

variable {ω : Type} (H : Host ω)

def documentSetCollectionOptions (collection : String) (options : CollectionOptions) :
    TypedMethod Int where
  op := .ok (documentSetCollectionOptionsOp collection options)
  decode r := r.decode (H.serde.mismatch "Updated") (Value.intField "documents_checked")
    "SetCollectionOptions"
  refused := TypedMethod.unrefused _
  misread _ _ := Response.decode_misread

def documentGetCollectionOptions (collection : String) : TypedMethod CollectionOptions where
  op := .ok (documentGetCollectionOptionsOp collection)
  decode r := r.decode (H.serde.mismatch "Wire") CollectionOptions.fromWire "GetCollectionOptions"
  refused := TypedMethod.unrefused _
  misread _ _ := Response.decode_misread

end

def storedOptions (op : Value) : Option Value :=
  ((op.get "Document").bind fun body => body.get "SetCollectionOptions").bind fun body =>
    body.get "options"

theorem storedOptions_op (collection : String) (options : CollectionOptions) :
    storedOptions (documentSetCollectionOptionsOp collection options) = some options.toValue := by
  simp [storedOptions, documentSetCollectionOptionsOp, documentOp, Value.ofFields, Value.get,
    Map.lookup_insert]

theorem fromWire_of_get {v stored : Value} (held : v.get "options" = some stored) :
    CollectionOptions.fromWire v = CollectionOptions.fromValue stored := by
  cases v with
  | object map =>
    have found : map.lookup "options" = some stored := held
    simp [CollectionOptions.fromWire, Value.structFields, found, Value.orDefault]
  | _ => cases held

end TricoreSdk
