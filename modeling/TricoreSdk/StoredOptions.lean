import TricoreSdk.CollectionOptions
import TricoreSdk.ControlReply
import TricoreSdk.Replies

/-! Collection options through their text (`document.rs`): what is stored is what was set, and what
is read of it is what `serde_json` makes of its floats and its nesting. -/

namespace TricoreSdk
open Effects

namespace Value

/-! ## Values in order -/

mutual

/-- Members in the order of their names, at every level: a `Map` is a `BTreeMap`. -/
def Ordered : Value → Prop
  | array items => ItemsOrdered items
  | object members => (members.Pairwise fun m n => m.1 < n.1) ∧ MembersOrdered members
  | _ => True

def ItemsOrdered : List Value → Prop
  | [] => True
  | v :: vs => v.Ordered ∧ ItemsOrdered vs

def MembersOrdered : List (String × Value) → Prop
  | [] => True
  | (_, v) :: ms => v.Ordered ∧ MembersOrdered ms

end

theorem itemsOrdered_of_forall {vs : List Value} (h : ∀ v ∈ vs, v.Ordered) : ItemsOrdered vs := by
  induction vs with
  | nil => trivial
  | cons v vs ih =>
    exact ⟨h v List.mem_cons_self, ih fun w among => h w (.tail _ among)⟩

theorem membersOrdered_of_forall {ms : List (String × Value)} (h : ∀ m ∈ ms, m.2.Ordered) :
    MembersOrdered ms := by
  induction ms with
  | nil => trivial
  | cons m ms ih =>
    exact ⟨h m List.mem_cons_self, ih fun n among => h n (.tail _ among)⟩

theorem ofFields_eq (fields : List (String × Value)) :
    ofFields fields = object (SortedMap.ofEntries fields).entries := by
  simp only [ofFields, SortedMap.ofEntries, Map.insert_eq_insertEntry]

theorem ofFields_ordered {fields : List (String × Value)} (h : ∀ m ∈ fields, m.2.Ordered) :
    (ofFields fields).Ordered := by
  rw [ofFields_eq]
  refine ⟨(SortedMap.ofEntries fields).sorted, membersOrdered_of_forall fun m among => ?_⟩
  exact h m (SortedMap.mem_ofEntries among)

def FieldOrdered (field : String × Option Value) : Prop := ∀ v, field.2 = some v → v.Ordered

theorem writeField_ordered {α : Type} (name : String) (skip : α → Bool) {write : α → Value} {a : α}
    (h : (write a).Ordered) : FieldOrdered (writeField name skip write a) := by
  intro v written
  unfold writeField at written
  split at written
  · cases written
  · exact Option.some.inj written ▸ h

theorem ofPresent_ordered {fields : List (String × Option Value)}
    (h : ∀ field ∈ fields, FieldOrdered field) : (ofPresent fields).Ordered := by
  refine ofFields_ordered fun m among => ?_
  obtain ⟨field, written, present⟩ := List.mem_filterMap.mp among
  obtain ⟨v, held, rfl⟩ := Option.map_eq_some_iff.mp present
  exact h field written v held

theorem ofMap_ordered {α : Type} {write : α → Value} {map : SortedMap String α}
    (h : ∀ m ∈ map.entries, (write m.2).Ordered) : (ofMap write map).Ordered := by
  refine ofFields_ordered fun m among => ?_
  obtain ⟨entry, held, rfl⟩ := List.mem_map.mp among
  exact h entry held

theorem ofOption_ordered {α : Type} {write : α → Value} {o : Option α}
    (h : ∀ a, o = some a → (write a).Ordered) : (ofOption write o).Ordered := by
  cases o with
  | none => trivial
  | some a => exact h a rfl

/-! ## What is read of them -/

variable {near : Finite → Option Finite}

theorem keptItems_eq (vs : List Value) : keptItems near vs = vs.map (kept near) := by
  induction vs with
  | nil => rw [keptItems, List.map_nil]
  | cons v vs ih => rw [keptItems, ih, List.map_cons]

theorem keptMembers_eq (ms map : List (String × Value)) :
    keptMembers near ms map =
      (ms.map fun m => (m.1, m.2.kept near)).foldl
        (fun map m => SortedMap.insertEntry m.1 m.2 map) map := by
  induction ms generalizing map with
  | nil => rw [keptMembers, List.map_nil, List.foldl_nil]
  | cons m ms ih =>
    rw [keptMembers, ih, List.map_cons, List.foldl_cons, Map.insert_eq_insertEntry]

theorem kept_object {members : List (String × Value)}
    (sorted : members.Pairwise fun m n => m.1 < n.1) :
    (object members).kept near = object (members.map fun m => (m.1, m.2.kept near)) := by
  have read : ([] ++ members.map fun m : String × Value => (m.1, m.2.kept near)).Pairwise
      fun m n : String × Value => m.1 < n.1 := List.pairwise_map.mpr sorted
  rw [kept, keptMembers_eq, SortedMap.foldl_insertEntry _ _ read, List.nil_append]

mutual

theorem kept_eq_iff : ∀ {v : Value}, v.Ordered →
    (v.kept near = v ↔ ∀ f ∈ v.floats, (near f).getD f = f)
  | null, _ => by simp [kept, floats]
  | bool b, _ => by simp [kept, floats]
  | string s, _ => by simp [kept, floats]
  | number (.posInt n), _ => by simp [kept, floats]
  | number (.negInt i), _ => by simp [kept, floats]
  | number (.float f), _ => by simp [kept, floats]
  | array items, ordered => by
    rw [kept, floats, array.injEq]
    exact keptItems_eq_iff ordered
  | object members, ⟨sorted, ordered⟩ => by
    rw [kept_object sorted, floats, object.injEq]
    exact keptMembers_eq_iff ordered

theorem keptItems_eq_iff : ∀ {vs : List Value}, ItemsOrdered vs →
    (keptItems near vs = vs ↔ ∀ f ∈ itemsFloats vs, (near f).getD f = f)
  | [], _ => by simp [keptItems, itemsFloats]
  | v :: vs, ⟨first, rest⟩ => by
    rw [keptItems, itemsFloats, List.cons.injEq, kept_eq_iff first, keptItems_eq_iff rest,
      List.forall_mem_append]

theorem keptMembers_eq_iff : ∀ {ms : List (String × Value)}, MembersOrdered ms →
    ((ms.map fun m => (m.1, m.2.kept near)) = ms ↔
      ∀ f ∈ membersFloats ms, (near f).getD f = f)
  | [], _ => by simp [membersFloats]
  | (name, v) :: ms, ⟨first, rest⟩ => by
    rw [List.map_cons, membersFloats, List.cons.injEq, Prod.mk.injEq, kept_eq_iff first,
      keptMembers_eq_iff rest, List.forall_mem_append]
    simp

end

theorem kept_null : null.kept near = null := by simp [kept]

theorem kept_bool (b : Bool) : (bool b).kept near = bool b := by simp [kept]

theorem kept_string (text : String) : (string text).kept near = string text := by simp [kept]

theorem kept_ofU64 (n : UInt64) : (ofU64 n).kept near = ofU64 n := by simp [ofU64, kept]

theorem kept_ofFields (fields : List (String × Value)) :
    (ofFields fields).kept near = ofFields (fields.map fun m => (m.1, m.2.kept near)) := by
  rw [ofFields_eq, kept_object (SortedMap.ofEntries fields).sorted, ofFields_eq,
    SortedMap.ofEntries_map]
  rfl

theorem present_map (g : Value → Value) (fields : List (String × Option Value)) :
    (present fields).map (fun m => (m.1, g m.2)) =
      present (fields.map fun field => (field.1, field.2.map g)) := by
  induction fields with
  | nil => rfl
  | cons field fields ih =>
    obtain ⟨name, v⟩ := field
    cases v with
    | none => exact ih
    | some v => exact congrArg ((name, g v) :: ·) ih

def keptField (near : Finite → Option Finite) (field : String × Option Value) :
    String × Option Value := (field.1, field.2.map (kept near))

theorem kept_ofPresent (fields : List (String × Option Value)) :
    (ofPresent fields).kept near =
      ofPresent (fields.map (keptField near)) := by
  rw [ofPresent, kept_ofFields, present_map]
  rfl

theorem kept_ofMap {α : Type} {write : α → Value} {g : α → α} (map : SortedMap String α)
    (each : ∀ a, (write a).kept near = write (g a)) :
    (ofMap write map).kept near = ofMap write (map.mapValues g) := by
  rw [ofMap, kept_ofFields, List.map_map, ofMap, SortedMap.mapValues, List.map_map]
  simp only [Function.comp_def, each]

theorem keptField_writeField {α : Type} (name : String) {skip : α → Bool} {write : α → Value}
    {a b : α} (skipped : skip b = skip a) (each : (write a).kept near = write b) :
    keptField near (writeField name skip write a) = writeField name skip write b := by
  unfold keptField writeField
  rw [skipped, ← each]
  cases skip a <;> rfl

theorem keptField_ofOption {α : Type} (name : String) {write : α → Value} {g : α → α}
    (each : ∀ a, (write a).kept near = write (g a)) (o : Option α) :
    keptField near (writeField name Option.isNone (ofOption write) o) =
      writeField name Option.isNone (ofOption write) (o.map g) := by
  cases o with
  | none => exact keptField_writeField name rfl kept_null
  | some a => exact keptField_writeField name rfl (each a)

theorem keptField_exact {α : Type} (name : String) {write : α → Value}
    (each : ∀ a, (write a).kept near = write a) (o : Option α) :
    keptField near (writeField name Option.isNone (ofOption write) o) =
      writeField name Option.isNone (ofOption write) o := by
  have same := keptField_ofOption (g := id) name each o
  rwa [Option.map_id_apply] at same

end Value

/-! ## Options as they are read -/

section

variable (near : TricoreSdk.Finite → Option TricoreSdk.Finite)

/-- A bound, as its spelling is read. -/
def F64.kept (f : F64) : F64 :=
  if h : f.isFinite = true then ((near ⟨f, h⟩).getD ⟨f, h⟩).val else f

def FieldRule.kept (r : FieldRule) : FieldRule :=
  { r with
    oneOf := r.oneOf.map (Value.kept near)
    minimum := r.minimum.map fun f => f.kept near
    maximum := r.maximum.map fun f => f.kept near }

def DocumentSchema.kept (s : DocumentSchema) : DocumentSchema :=
  { s with fields := s.fields.mapValues (FieldRule.kept near) }

def CollectionOptions.kept (o : CollectionOptions) : CollectionOptions :=
  { o with
    schema := o.schema.map (DocumentSchema.kept near)
    defaults := o.defaults.mapValues (Value.kept near) }

variable {near}

theorem serializeF64_kept (f : F64) :
    (serializeF64 f).kept near = serializeF64 (f.kept near) := by
  unfold F64.kept
  by_cases h : f.isFinite = true
  · have finite := ((near ⟨f, h⟩).getD ⟨f, h⟩).property
    rw [dif_pos h, serializeF64, dif_pos h, serializeF64, dif_pos finite]
    simp only [Value.kept]
    rfl
  · rw [dif_neg h, serializeF64, dif_neg h, Value.kept_null]

theorem F64.kept_isFinite (f : F64) : (f.kept near).isFinite = f.isFinite := by
  unfold F64.kept
  by_cases h : f.isFinite = true
  · rw [dif_pos h, h]
    exact ((near ⟨f, h⟩).getD ⟨f, h⟩).property
  · rw [dif_neg h]

theorem F64.kept_bound {bound : Option F64} (finite : ∀ f, bound = some f → f.isFinite = true) :
    ∀ f, bound.map (F64.kept near) = some f → f.isFinite = true := by
  intro f hf
  obtain ⟨f, held, rfl⟩ := Option.map_eq_some_iff.mp hf
  exact (F64.kept_isFinite f).trans (finite f held)

theorem FieldRule.kept_toValue (r : FieldRule) :
    r.toValue.kept near = (r.kept near).toValue := by
  have fieldType : Value.keptField near
      (writeField "type" Option.isNone (Value.ofOption FieldType.toValue) r.fieldType) =
      writeField "type" Option.isNone (Value.ofOption FieldType.toValue) r.fieldType :=
    Value.keptField_exact _ (fun t => Value.kept_string t.name) _
  have oneOf : Value.keptField near (writeField "one_of" List.isEmpty Value.array r.oneOf) =
      writeField "one_of" List.isEmpty Value.array (r.oneOf.map (Value.kept near)) :=
    Value.keptField_writeField _ List.isEmpty_map
      (by rw [Value.kept, Value.keptItems_eq])
  have minimum := Value.keptField_ofOption "minimum" (@serializeF64_kept near) r.minimum
  have maximum := Value.keptField_ofOption "maximum" (@serializeF64_kept near) r.maximum
  have minLength := Value.keptField_exact "min_length" (@Value.kept_ofU64 near) r.minLength
  have maxLength := Value.keptField_exact "max_length" (@Value.kept_ofU64 near) r.maxLength
  have pattern := Value.keptField_exact "pattern" (@Value.kept_string near) r.pattern
  rw [toValue, Value.kept_ofPresent, toValue]
  simp only [record, List.map_cons, List.map_nil, fieldType, oneOf, minimum, maximum, minLength,
    maxLength, pattern, kept]

theorem DocumentSchema.kept_toValue (s : DocumentSchema) :
    s.toValue.kept near = (s.kept near).toValue := by
  have required : Value.keptField near
      (writeField "required" keep (fun paths => Value.array (paths.map Value.string)) s.required) =
      writeField "required" keep (fun paths => Value.array (paths.map Value.string)) s.required := by
    refine Value.keptField_writeField _ rfl ?_
    rw [Value.kept, Value.keptItems_eq, List.map_map]
    exact congrArg Value.array (List.map_congr_left fun path _ => Value.kept_string path)
  have fields : Value.keptField near
      (writeField "fields" keep (Value.ofMap FieldRule.toValue) s.fields) =
      writeField "fields" keep (Value.ofMap FieldRule.toValue)
        (s.fields.mapValues (FieldRule.kept near)) :=
    Value.keptField_writeField _ rfl (Value.kept_ofMap s.fields FieldRule.kept_toValue)
  have additional : Value.keptField near
      (writeField "additional_fields" keep Value.bool s.additionalFields) =
      writeField "additional_fields" keep Value.bool s.additionalFields :=
    Value.keptField_writeField _ rfl (Value.kept_bool _)
  rw [toValue, Value.kept_ofPresent, toValue]
  simp only [record, List.map_cons, List.map_nil, required, fields, additional, kept]

theorem CollectionOptions.kept_toValue (o : CollectionOptions) :
    o.toValue.kept near = (o.kept near).toValue := by
  have schema := Value.keptField_ofOption "schema" (@DocumentSchema.kept_toValue near)
    o.schema
  have defaults : Value.keptField near
      (writeField "defaults" SortedMap.isEmpty (Value.ofMap id) o.defaults) =
      writeField "defaults" SortedMap.isEmpty (Value.ofMap id)
        (o.defaults.mapValues (Value.kept near)) :=
    Value.keptField_writeField _ List.isEmpty_map (Value.kept_ofMap o.defaults fun v => rfl)
  have versioned : Value.keptField near (writeField "versioned" keep Value.bool o.versioned) =
      writeField "versioned" keep Value.bool o.versioned :=
    Value.keptField_writeField _ rfl (Value.kept_bool _)
  rw [toValue, Value.kept_ofPresent, toValue]
  simp only [record, List.map_cons, List.map_nil, schema, defaults, versioned, kept]

theorem CollectionOptions.kept_finite {o : CollectionOptions} (finite : o.Finite) :
    (o.kept near).Finite := by
  intro s hs m hm
  obtain ⟨schema, held, rfl⟩ := Option.map_eq_some_iff.mp hs
  obtain ⟨rule, among, rfl⟩ := List.mem_map.mp hm
  obtain ⟨minimum, maximum⟩ := finite schema held rule among
  exact ⟨F64.kept_bound minimum, F64.kept_bound maximum⟩

theorem CollectionOptions.fromValue_kept {o : CollectionOptions} (finite : o.Finite) :
    fromValue (o.toValue.kept near) = some (o.kept near) := by
  rw [kept_toValue, fromValue_toValue (kept_finite finite)]

def FieldRule.Ordered (r : FieldRule) : Prop := ∀ v ∈ r.oneOf, v.Ordered

structure CollectionOptions.Ordered (o : CollectionOptions) : Prop where
  rules : ∀ s, o.schema = some s → ∀ m ∈ s.fields.entries, m.2.Ordered
  defaults : ∀ m ∈ o.defaults.entries, m.2.Ordered

theorem serializeF64_ordered (f : F64) : (serializeF64 f).Ordered := by
  unfold serializeF64
  split <;> trivial

theorem FieldRule.toValue_ordered {r : FieldRule} (ordered : r.Ordered) : r.toValue.Ordered := by
  refine Value.ofPresent_ordered ?_
  simp only [record, List.forall_mem_cons, List.not_mem_nil, false_implies, implies_true, and_true]
  refine ⟨Value.writeField_ordered _ _ ?_, Value.writeField_ordered _ _ ?_,
    Value.writeField_ordered _ _ ?_, Value.writeField_ordered _ _ ?_,
    Value.writeField_ordered _ _ ?_, Value.writeField_ordered _ _ ?_,
    Value.writeField_ordered _ _ ?_⟩
  · exact Value.ofOption_ordered fun t _ => trivial
  · exact Value.itemsOrdered_of_forall ordered
  · exact Value.ofOption_ordered fun f _ => serializeF64_ordered f
  · exact Value.ofOption_ordered fun f _ => serializeF64_ordered f
  · exact Value.ofOption_ordered fun n _ => trivial
  · exact Value.ofOption_ordered fun n _ => trivial
  · exact Value.ofOption_ordered fun text _ => trivial

theorem DocumentSchema.toValue_ordered {s : DocumentSchema}
    (ordered : ∀ m ∈ s.fields.entries, m.2.Ordered) : s.toValue.Ordered := by
  refine Value.ofPresent_ordered ?_
  simp only [record, List.forall_mem_cons, List.not_mem_nil, false_implies, implies_true, and_true]
  refine ⟨Value.writeField_ordered _ _ ?_, Value.writeField_ordered _ _ ?_,
    Value.writeField_ordered _ _ ?_⟩
  · refine Value.itemsOrdered_of_forall fun v among => ?_
    obtain ⟨path, -, rfl⟩ := List.mem_map.mp among
    trivial
  · exact Value.ofMap_ordered fun m held => FieldRule.toValue_ordered (ordered m held)
  · trivial

theorem CollectionOptions.toValue_ordered {o : CollectionOptions} (ordered : o.Ordered) :
    o.toValue.Ordered := by
  refine Value.ofPresent_ordered ?_
  simp only [record, List.forall_mem_cons, List.not_mem_nil, false_implies, implies_true, and_true]
  refine ⟨Value.writeField_ordered _ _ ?_, Value.writeField_ordered _ _ ?_,
    Value.writeField_ordered _ _ ?_⟩
  · exact Value.ofOption_ordered fun s hs => DocumentSchema.toValue_ordered (ordered.rules s hs)
  · exact Value.ofMap_ordered ordered.defaults
  · trivial

theorem CollectionOptions.kept_eq_iff {o : CollectionOptions} (ordered : o.Ordered)
    (finite : o.Finite) :
    o.kept near = o ↔ ∀ f ∈ o.toValue.floats, (near f).getD f = f := by
  rw [← Value.kept_eq_iff (toValue_ordered ordered), kept_toValue]
  constructor
  · intro same
    rw [same]
  · intro same
    have read : fromValue (o.kept near).toValue = _ := fromValue_toValue (kept_finite finite)
    rw [same, fromValue_toValue finite] at read
    exact (Option.some.inj read).symm

end

/-! ## Answers that hold options -/

namespace Value

/-- Nested no deeper than this, and no float out of its range. -/
def Within (near : Finite → Option Finite) (levels : Nat) (v : Value) : Prop :=
  v.depth ≤ levels ∧ ∀ f ∈ v.floats, (near f).isSome = true

variable {near : Finite → Option Finite}

theorem readable_iff_within {v : Value} : v.Readable near ↔ v.Within near 127 :=
  and_congr_left' Nat.lt_succ_iff

theorem membersDepth_le_iff {ms : List (String × Value)} {levels : Nat} :
    membersDepth ms ≤ levels ↔ ∀ m ∈ ms, m.2.depth ≤ levels := by
  induction ms with
  | nil => simp [membersDepth]
  | cons m ms ih => simp [membersDepth, ih]

theorem mem_membersFloats {ms : List (String × Value)} {f : Finite} :
    f ∈ membersFloats ms ↔ ∃ m ∈ ms, f ∈ m.2.floats := by
  induction ms with
  | nil => simp [membersFloats]
  | cons m ms ih => simp [membersFloats, ih]

theorem within_object {members : List (String × Value)} {levels : Nat} :
    (object members).Within near (levels + 1) ↔ ∀ m ∈ members, m.2.Within near levels := by
  simp only [Within, depth, floats, Nat.add_le_add_iff_right, membersDepth_le_iff,
    mem_membersFloats]
  constructor
  · rintro ⟨deep, ranged⟩ m among
    exact ⟨deep m among, fun f held => ranged f ⟨m, among, held⟩⟩
  · intro each
    refine ⟨fun m among => (each m among).1, ?_⟩
    rintro f ⟨m, among, held⟩
    exact (each m among).2 f held

theorem within_object_of_others {members : List (String × Value)} {name : String} {v : Value}
    {levels : Nat} (distinct : (members.map Prod.fst).Nodup) (held : members.lookup name = some v)
    (others : ∀ m ∈ members, m.1 ≠ name → m.2.Within near levels) :
    (object members).Within near (levels + 1) ↔ v.Within near levels := by
  have among : (name, v) ∈ members := by
    obtain ⟨before, after, rfl, -⟩ := List.lookup_eq_some_iff.mp held
    simp
  rw [within_object]
  constructor
  · intro each
    exact each (name, v) among
  · intro within m member
    by_cases same : m.1 = name
    · have alone : m = (name, v) := List.inj_on_of_nodup_map distinct member among same
      exact alone ▸ within
    · exact others m member same

end Value

/-- An answer to `document_get_collection_options` that holds these options, with nothing beside
them that could not be read. -/
structure AnswersWith (near : Finite → Option Finite) (stored : Value)
    (members answer : List (String × Value)) : Prop where
  said : ∃ body, (Bodies.wireResponse near).means (.object members) body ∧ body.status = "ok"
  data : members.lookup "data" = some (.object [("Json", .object answer)])
  distinct : (answer.map Prod.fst).Nodup
  held : answer.lookup "options" = some stored
  beside : ∀ m ∈ members, m.1 ≠ "data" → m.2.Within near 126
  others : ∀ m ∈ answer, m.1 ≠ "options" → m.2.Within near 124

/-- `serde_json` refuses a `Value` that is nested past its limit, or holds a number out of range. -/
structure Serde.Limited (S : Serde) (near : Finite → Option Finite) : Prop where
  wireResponse : ∀ {members d}, members.lookup "data" = some d → ¬d.Within near 126 →
    ∃ text, S.wireResponse ((Value.object members).toVec S.floats) = .error text

namespace AnswersWith

variable {near : Finite → Option Finite} {stored : Value} {members answer : List (String × Value)}
  (answers : AnswersWith near stored members answer)

include answers

theorem names : (members.map Prod.fst).Nodup := by
  obtain ⟨body, ⟨parts, ⟨look, fields, -⟩, -⟩, -⟩ := answers.said
  exact (Option.ite_none_right_eq_some.mp fields).1

theorem data_within : (Value.object [("Json", .object answer)]).Within near 126 ↔
    stored.Within near 124 := by
  rw [Value.within_object, List.forall_mem_singleton]
  exact Value.within_object_of_others answers.distinct answers.held answers.others

theorem readable_iff : (Value.object members).Readable near ↔ stored.Within near 124 := by
  rw [Value.readable_iff_within, ← answers.data_within]
  exact Value.within_object_of_others answers.names answers.data answers.beside

theorem body_data {body : WireResponse}
    (said : (Bodies.wireResponse near).means (.object members) body) :
    body.data = .object [("Json", (Value.object answer).kept near)] := by
  obtain ⟨parts, ⟨look, fields, -, -, data, -⟩, rfl⟩ := said
  cases (Option.ite_none_right_eq_some.mp fields).2
  rcases data with ⟨v, held, read⟩ | ⟨missing, -⟩
  · cases answers.data.symm.trans held
    refine Eq.trans read.symm ?_
    simp only [Value.kept, Value.keptMembers, Map.insert]
  · cases answers.data.symm.trans missing

theorem kept_options : ((Value.object answer).kept near).get "options" = some (stored.kept near) := by
  rw [Value.kept, Value.get, Value.keptMembers_lookup answers.distinct, answers.held]
  rfl

variable {ω : Type} {H : Host ω}

theorem response_of_within (derived : H.serde.Derived near) (within : stored.Within near 124) :
    ∃ r, readResponse H ((Value.object members).toVec H.serde.floats) = .ok r ∧ r.kind = "Json" ∧
      r.data.get "options" = some (stored.kept near) := by
  obtain ⟨body, said, ok⟩ := answers.said
  have read := replyOf_response derived (answers.readable_iff.mpr within) said
  rw [WireResponse.reply, if_pos ok] at read
  refine ⟨body.response, Option.some.inj read, ?_, ?_⟩
  · rw [WireResponse.response, answers.body_data said]
    rfl
  · rw [WireResponse.response, answers.body_data said]
    exact answers.kept_options

theorem unread_of_not_within (limited : H.serde.Limited near) (deep : ¬stored.Within near 124) :
    ∃ e, readResponse H ((Value.object members).toVec H.serde.floats) = .error e ∧
      e.isRedirect = false := by
  obtain ⟨text, refused⟩ := limited.wireResponse answers.data fun within =>
    deep (answers.data_within.mp within)
  rw [readResponse, refused]
  exact ⟨_, rfl, rfl⟩

end AnswersWith

/-! ## Set, stored and read back -/

section

variable {ω : Type} {H : Host ω} {near : Finite → Option Finite} {collection : String} {c : Client}
  {p : Process ω} {o : CollectionOptions} {members answer : List (String × Value)}

theorem get_returned (derived : H.serde.Derived near) (finite : o.Finite)
    (answers : AnswersWith near o.toValue members answer) (within : o.toValue.Within near 124)
    (final : finalAnswer ((documentGetCollectionOptions H collection).run H (c, p)).events =
      some ⟨.response, (Value.object members).toVec H.serde.floats⟩) :
    ((documentGetCollectionOptions H collection).run H (c, p)).outcome =
      .returned (o.kept near) := by
  obtain ⟨r, read, kind, held⟩ := answers.response_of_within derived within
  have decoded : (documentGetCollectionOptions H collection).decode r = .ok (o.kept near) := by
    refine Response.decode_eq_ok_iff.mpr ⟨kind, ?_⟩
    rw [fromWire_of_get held, CollectionOptions.fromValue_kept finite]
  rw [TypedMethod.run_concluded rfl] at final ⊢
  have returned := (sendIn_ok final read).1
  simp only [concluded, returned, Outcome.andThen, decoded, Outcome.ofExcept_ok]

theorem get_failed (limited : H.serde.Limited near)
    (answers : AnswersWith near o.toValue members answer) (deep : ¬o.toValue.Within near 124)
    (final : finalAnswer ((documentGetCollectionOptions H collection).run H (c, p)).events =
      some ⟨.response, (Value.object members).toVec H.serde.floats⟩) :
    ∃ e, ((documentGetCollectionOptions H collection).run H (c, p)).outcome = .failed e := by
  obtain ⟨e, unread, -⟩ := answers.unread_of_not_within limited deep
  rw [TypedMethod.run_concluded rfl] at final ⊢
  obtain ⟨e', failed⟩ := sendIn_refused final unread
  exact ⟨e', by simp only [concluded, failed, Outcome.andThen]⟩

end

/-- Options that read back as they were set: from the tree and from the text they are written as, and
from any answer that holds the JSON they were set with. -/
structure CollectionOptions.ReadsBack (S : Serde)
    (near : TricoreSdk.Finite → Option TricoreSdk.Finite) (o : CollectionOptions) : Prop where
  restored : fromValue o.toValue = some o
  reread : (S.value (o.toValue.toVec S.floats)).bind fromValue = some o
  returned : ∀ {ω : Type} {H : Host ω} {collection : String} {op stored : Value}
    {members answer : List (String × Value)} {c : Client} {p : Process ω}, H.serde = S →
    (documentSetCollectionOptions H collection o).op = .ok op → storedOptions op = some stored →
    AnswersWith near stored members answer →
    finalAnswer ((documentGetCollectionOptions H collection).run H (c, p)).events =
      some ⟨.response, (Value.object members).toVec S.floats⟩ →
    ((documentGetCollectionOptions H collection).run H (c, p)).outcome = .returned o

def plainAnswer (stored : Value) : List (String × Value) :=
  [("data", .object [("Json", .object [("options", stored)])]), ("status", .string "ok")]

theorem plainAnswer_answersWith (near : Finite → Option Finite) (stored : Value) :
    AnswersWith near stored (plainAnswer stored) [("options", stored)] where
  said := by
    refine ⟨⟨"", "ok", _, none⟩, ⟨⟨"", "ok", _, none⟩, Bodies.record_means (by simp [plainAnswer])
      ⟨.inr ⟨rfl, rfl⟩, .inl ⟨_, rfl, rfl⟩, .inl ⟨_, rfl, rfl⟩, .inr ⟨rfl, rfl⟩⟩, rfl⟩, rfl⟩
  data := rfl
  distinct := List.nodup_singleton _
  held := rfl
  beside := by
    intro m among other
    rcases List.mem_pair.mp among with rfl | rfl
    · exact absurd rfl other
    · exact ⟨Nat.zero_le _, nofun⟩
  others := by
    intro m among other
    cases List.mem_singleton.mp among
    exact absurd rfl other

/-- The server of a script, read by another deserializer. -/
def readBy (S : Serde) : Host (List (Except WireError Frame)) := { scripted with serde := S }

theorem sendOnce_readBy {S : Serde} {envelope : Value} {c : Client} (live : c.Live)
    {bytes : List UInt8} (fits : encode .request ((readBy S).body (some envelope)) = .ok bytes)
    (payload : List UInt8) :
    sendOnce (readBy S) envelope (c, playing [replies .response payload]) =
      ⟨Outcome.ofExcept (readResponse (readBy S) payload), (c, playing []),
        [.wrote c.transport .request (some envelope),
          .answered c.transport ⟨.response, payload⟩]⟩ := by
  have once := sentOnce (readBy S) envelope c (playing [replies .response payload])
  generalize sendOnce (readBy S) envelope (c, playing [replies .response payload]) = x at once ⊢
  cases once with
  | dead e he =>
    rcases he with ⟨fault, faulted, -⟩ | ⟨-, closed, -⟩
    · rw [live.fault] at faulted
      cases faulted
    · rw [live.open_] at closed
      cases closed
  | tooLarge live e he => cases he.symm.trans fits
  | broken live bytes he e w lost =>
    rcases lost with lost | ⟨w', sent, lost⟩
    · cases lost
    · cases sent
      cases lost
  | misanswered live bytes he frame w w' sent heard unread e hk =>
    cases sent
    cases heard
    cases unread
  | replied live bytes he frame w w' sent heard reply read =>
    cases sent
    cases heard
    cases read
    rfl

theorem finalAnswer_readBy {S : Serde} {near : Finite → Option Finite} (derived : S.Derived near)
    (limited : S.Limited near) {stored : Value} {members answer : List (String × Value)}
    (answers : AnswersWith near stored members answer) :
    finalAnswer ((documentGetCollectionOptions (readBy S) "").run (readBy S)
      (session, playing [replies .response ((Value.object members).toVec S.floats)])).events =
      some ⟨.response, (Value.object members).toVec S.floats⟩ := by
  obtain ⟨bytes, fits⟩ : ∃ bytes, encode .request ((readBy S).body
      (some (session.envelope (documentGetCollectionOptionsOp "") session.requestTxn))) =
        .ok bytes := ⟨_, rfl⟩
  have once := sendOnce_readBy (c := session.numbered) ⟨rfl, rfl⟩ fits
    ((Value.object members).toVec S.floats)
  rw [TypedMethod.run_concluded rfl, concluded, sendIn_apply]
  by_cases within : stored.Within near 124
  · obtain ⟨r, read, -⟩ := answers.response_of_within (H := readBy S) derived within
    change readResponse (readBy S) ((Value.object members).toVec S.floats) = .ok r at read
    rw [read] at once
    rw [sendLoop_returned once]
    rfl
  · obtain ⟨e, unread, stays⟩ := answers.unread_of_not_within (H := readBy S) limited within
    change readResponse (readBy S) ((Value.object members).toVec S.floats) = .error e at unread
    rw [unread] at once
    rw [sendLoop_failed stays once]
    rfl

section

variable {S : Serde} {near : Finite → Option Finite} {o : CollectionOptions}

theorem readsBack_exact (derived : S.Derived near) (limited : S.Limited near)
    (finite : o.Finite) (back : o.ReadsBack S near) :
    o.toValue.Within near 124 ∧ o.kept near = o := by
  have answers := plainAnswer_answersWith near o.toValue
  have final := finalAnswer_readBy derived limited answers
  have returned := back.returned (H := readBy S) rfl rfl (storedOptions_op "" o) answers final
  by_cases within : o.toValue.Within near 124
  · have told := get_returned (H := readBy S) derived finite answers within final
    rw [returned] at told
    exact ⟨within, (Outcome.returned.inj told).symm⟩
  · obtain ⟨e, failed⟩ := get_failed (H := readBy S) limited answers within final
    rw [returned] at failed
    cases failed

end

/-- Options read back as they were set exactly when each float in them is read off its text as it
is, and they are not nested so deep that an answer around them cannot be read. -/
theorem collectionOptions_readsBack_iff {S : Serde} {near : Finite → Option Finite}
    (derived : S.Derived near) (limited : S.Limited near) {o : CollectionOptions}
    (ordered : o.Ordered) (finite : o.Finite) :
    o.ReadsBack S near ↔
      (∀ f ∈ o.toValue.floats, near f = some f) ∧ o.toValue.depth ≤ 124 := by
  constructor
  · intro back
    obtain ⟨⟨deep, ranged⟩, same⟩ := readsBack_exact derived limited finite back
    refine ⟨fun f held => ?_, deep⟩
    have read := (CollectionOptions.kept_eq_iff ordered finite).mp same f held
    obtain ⟨g, hg⟩ := Option.isSome_iff_exists.mp (ranged f held)
    rw [hg, Option.getD_some] at read
    rw [hg, read]
  · rintro ⟨exact, deep⟩
    have within : o.toValue.Within near 124 :=
      ⟨deep, fun f held => by rw [exact f held]; rfl⟩
    have same : o.kept near = o := (CollectionOptions.kept_eq_iff ordered finite).mpr
      fun f held => by rw [exact f held]; rfl
    refine ⟨CollectionOptions.fromValue_toValue finite, ?_, ?_⟩
    · have readable : o.toValue.Readable near := ⟨by omega, within.2⟩
      rw [derived.value o.toValue readable, Option.bind_some,
        CollectionOptions.fromValue_kept finite, same]
    · rintro ω H collection op stored members answer c p rfl set kept answers final
      cases set
      cases (storedOptions_op collection o).symm.trans kept
      rw [get_returned derived finite answers within final, same]

theorem textSerde_limited {F : FloatFormat} {R : FloatReader F} {near : Finite → Option Finite} :
    (textSerde near R).Limited near where
  wireResponse := by
    intro members d held deep
    have unreadable : ¬(Value.object members).Readable near := by
      intro readable
      obtain ⟨before, after, rfl, -⟩ := List.lookup_eq_some_iff.mp held
      exact deep (Value.within_object.mp (Value.readable_iff_within.mp readable) ("data", d) (by simp))
    exact ⟨_, parsed_unreadable unreadable⟩

/-! ## A float that is read as another -/

def F64.quotient (a b : F64) : F64 :=
  let significand (f : F64) := f.bits.toNat % 2 ^ 52 + 2 ^ 52
  let exponent (f : F64) := f.bits.toNat / 2 ^ 52
  let scaled := significand a * 2 ^ 64
  -- The last digit says that something is left over.
  let digits := scaled / significand b * 2 + if scaled % significand b = 0 then 0 else 1
  ⟨BitVec.ofNat 64
    ((F64.ofNat digits).bits.toNat + exponent a * 2 ^ 52 - (exponent b + 65) * 2 ^ 52)⟩

/-- What `serde_json` makes of a decimal fraction: its digits, over a power of ten. -/
def F64.ofDecimal (digits scale : Nat) : F64 := (F64.ofNat digits).quotient (F64.ofNat (10 ^ scale))

/-- The greatest float below one. -/
def nines : Finite := ⟨⟨0x3fefffffffffffff⟩, by decide⟩

def ninesText : List Char := '0' :: '.' :: List.replicate 16 '9'

/-- The float that its spelling is read as. -/
def ninesRead : Finite := ⟨F64.ofDecimal 9999999999999999 16, by decide +kernel⟩

example : ninesRead.val = F64.ofNat 1 := by decide +kernel

def nearNines (f : Finite) : Option Finite := if f = nines then some ninesRead else some f

def ninesFloats : FloatFormat where
  text f := if f = nines then ninesText else bitFloats.text f
  isToken f := by
    split
    · exact ⟨⟨'0', _, rfl, .inr rfl⟩, List.all_eq_true.mp (by decide)⟩
    · exact bitFloats.isToken f

theorem bitFloats_ne_nines (f : Finite) : bitFloats.text f ≠ ninesText := by
  intro same
  have last := congrArg List.getLast? same
  simp [bitFloats, ninesText] at last

def ninesReader : FloatReader ninesFloats where
  read token := if token = ninesText then some nines else bitReader.read token
  read_text f := by
    by_cases h : f = nines
    · simp [ninesFloats, h]
    · simp [ninesFloats, h, bitFloats_ne_nines, bitReader.read_text]
  fractional f := by
    by_cases h : f = nines
    · exact ⟨'.', by simp [ninesFloats, h, ninesText], by decide, by decide⟩
    · simpa [ninesFloats, h] using bitReader.fractional f

def ninesOptions : CollectionOptions where
  schema := some
    { required := []
      fields := ⟨[("n", ⟨none, [], none, some nines.val, none, none, none⟩)],
        List.pairwise_singleton _ _⟩
      additionalFields := true }
  defaults := .empty
  versioned := false

theorem ninesOptions_ordered : ninesOptions.Ordered where
  rules := by
    rintro s ⟨⟩ m among
    cases List.mem_singleton.mp among
    nofun
  defaults := nofun

theorem ninesOptions_finite : ninesOptions.Finite := by
  rintro s ⟨⟩ m among
  cases List.mem_singleton.mp among
  refine ⟨nofun, ?_⟩
  rintro f ⟨⟩
  exact nines.property

/-- A bound of 0.9999999999999999 comes back as one. -/
theorem not_readsBack_nines :
    ¬∀ (S : Serde) (near : Finite → Option Finite), S.Derived near → S.Limited near →
      ∀ o : CollectionOptions, o.Ordered → o.Finite → o.ReadsBack S near := by
  intro h
  have derived : (textSerde nearNines ninesReader).Derived nearNines := textSerde_derived
  have back := h _ _ derived textSerde_limited ninesOptions ninesOptions_ordered ninesOptions_finite
  have same := (readsBack_exact derived textSerde_limited ninesOptions_finite back).2
  have bounds := congrArg (fun o : CollectionOptions => o.schema.map fun s =>
    s.fields.entries.map fun m => m.2.maximum) same
  exact absurd bounds (by decide +kernel)

def sampleOptions : CollectionOptions where
  schema := some
    { required := ["n"]
      fields := ⟨[("n", ⟨some .number, [.null], some (F64.ofNat 3), none, none, some 0, some ""⟩)],
        List.pairwise_singleton _ _⟩
      additionalFields := true }
  defaults := ⟨[("kind", .string "z")], List.pairwise_singleton _ _⟩
  versioned := true

theorem sampleOptions_ordered : sampleOptions.Ordered where
  rules := by
    rintro s ⟨⟩ m among
    cases List.mem_singleton.mp among
    intro v among
    cases List.mem_singleton.mp among
    trivial
  defaults := by
    intro m among
    cases List.mem_singleton.mp among
    trivial

theorem sampleOptions_finite : sampleOptions.Finite := by
  rintro s ⟨⟩ m among
  cases List.mem_singleton.mp among
  refine ⟨?_, nofun⟩
  rintro f ⟨⟩
  decide

theorem collectionOptions_readsBack_sample :
    sampleOptions.ReadsBack (textSerde nearNines ninesReader) nearNines :=
  (collectionOptions_readsBack_iff textSerde_derived textSerde_limited sampleOptions_ordered
    sampleOptions_finite).mpr ⟨by decide +kernel, by decide +kernel⟩

end TricoreSdk
