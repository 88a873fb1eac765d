import TricoreSdk.Lib.Shape
import TricoreSdk.CacheTtl
import TricoreSdk.CollectionOptions

/-! The operations behind the typed methods: what each asks of the server, and how what the server
answers is taken. A method is a stub of its operation. -/

namespace TricoreSdk
open Shape

/-! ## The JSON values as a format -/

namespace Value

def asItems : Value → Option (List Value)
  | array items => some items
  | _ => none

def lookup : Value → Option (String → Option Value)
  | object map => some fun name => map.lookup name
  | _ => none

theorem lookup_ofPresent (fields : List (String × Option Value))
    (distinct : (fields.map Prod.fst).Nodup) :
    ∃ look, (ofPresent fields).lookup = some look ∧ ∀ m ∈ fields, look m.1 = m.2 := by
  have named : ((present fields).map Prod.fst).Nodup := (present_names fields).nodup distinct
  refine ⟨_, rfl, fun m hm => ?_⟩
  rw [lookup_foldl_insert named, lookup_present distinct hm, List.lookup_nil, Option.or_none]

def format : Format Value where
  null := null
  isNull := isNull
  list := array
  items := asItems
  record := ofPresent
  fields := lookup
  columns := structFields
  isNull_null := rfl
  items_list _ := rfl
  found := lookup_ofPresent
  columns_eq := by
    intro v look h names
    cases v with
    | object map =>
      cases h
      rfl
    | _ => cases h

def asBoundedI64 (v : Value) : Option I64 := do
  let i ← v.asI64
  if h : -2 ^ 63 ≤ i ∧ i < 2 ^ 63 then some ⟨i, h⟩ else none

theorem asI64_ofI64 (i : I64) : (ofI64 i).asI64 = some i.val := by
  obtain ⟨i, low, high⟩ := i
  unfold ofI64 serializeI64
  split
  · rfl
  · rename_i positive
    have back : (UInt64.ofNat i.toNat).toNat = i.toNat := by
      rw [UInt64.toNat_ofNat']
      omega
    have small : i.toNat < 2 ^ 63 := by omega
    rw [asI64, back, if_pos small]
    congr 1
    exact Int.toNat_of_nonneg (Int.not_lt.mp positive)

theorem asBoundedI64_ofI64 (i : I64) : (ofI64 i).asBoundedI64 = some i := by
  rw [asBoundedI64, asI64_ofI64]
  exact dif_pos i.property

def asBytes (v : Value) : Option (List UInt8) := do
  (← v.asItems).mapM fun item => (item.asU64.filter fun n => n ≤ 255).map UInt64.toUInt8

theorem asBytes_byteList (bytes : List UInt8) : (byteList bytes).asBytes = some bytes :=
  Codec.mapM_map_some fun b _ => (byte_iff _ b).mpr rfl

theorem asOption_asStr : asOption asStr = asOptionStr := by
  funext v
  cases v <;> rfl

/-- The name of a unit variant, as `derive` reads one. -/
def asVariant : Value → Option String
  | string name => some name
  | object [(name, null)] => some name
  | _ => none

def asFinite (v : Value) : Option Finite := do
  let f ← v.asF64
  if h : f.isFinite = true then some ⟨f, h⟩ else none

end Value

namespace Written

def any : Coded Value Value := ⟨id, some, fun _ => rfl⟩

def text : Coded Value String := ⟨.string, Value.asStr, fun _ => rfl⟩

def flag : Coded Value Bool := ⟨.bool, Value.asBool, fun _ => rfl⟩

def count : Coded Value UInt64 := ⟨.ofU64, Value.asU64, fun _ => rfl⟩

def integer : Coded Value I64 := ⟨.ofI64, Value.asBoundedI64, Value.asBoundedI64_ofI64⟩

def bytes : Coded Value (List UInt8) := ⟨byteList, Value.asBytes, Value.asBytes_byteList⟩

def finite : Coded Value Finite where
  write f := .number (.float f)
  read := Value.asFinite
  back f := dif_pos f.property

def mapOf {α : Type} (c : Coded Value α) : Coded Value (SortedMap String α) where
  write := .ofMap c.write
  read := Value.asMap c.read
  back _ := asMap_ofMap fun m _ => c.back m.2

def object : Coded Value (SortedMap String Value) := mapOf any

def listOf {α : Type} (c : Coded Value α) : Coded Value (List α) := c.list Value.format

def variant {α : Type} (name : α → String) (all : List α) (complete : ∀ a, a ∈ all)
    (apart : (all.map name).Nodup) : Coded Value α :=
  Coded.named ⟨.string, Value.asVariant, fun _ => rfl⟩ name all complete apart

def nullable {α : Type} (c : Coded Value α) (apart : ∀ a, (c.write a).isNull = false) :
    Coded Value (Option α) := c.option Value.format apart

def nullableText : Coded Value (Option String) := nullable text fun _ => rfl

def nullableCount : Coded Value (Option UInt64) := nullable count fun _ => rfl

theorem integer_isNull (i : I64) : (integer.write i).isNull = false := by
  unfold integer Value.ofI64 serializeI64
  dsimp only
  split <;> rfl

def nullableInteger : Coded Value (Option I64) := nullable integer integer_isNull

def nullableBytes : Coded Value (Option (List UInt8)) := nullable bytes fun _ => rfl

end Written

/-! ## Operations -/

/-- An operation of the server with arguments `α` and answers `β`: the module and the variant it is
named by, how its arguments are written, and which payloads mean an answer to them. -/
structure Operation (α β : Type) where
  module : String
  variant : String
  payload : Coded (Option Value) α
  means : α → String → Value → β → Prop

namespace Operation

variable {α β γ : Type}

def plain : Coded (Option Value) Unit where
  write _ := none
  read
    | none => some ()
    | some _ => none
  back _ := rfl

def withFields (f : Fields Value α) (distinct : f.names.Nodup) : Coded (Option Value) α where
  write a := some ((f.coded Value.format distinct).write a)
  read body := body.bind (f.coded Value.format distinct).read
  back := (f.coded Value.format distinct).back

def value (o : Operation α β) (a : α) : Value :=
  Value.ofFields [(o.module,
    match o.payload.write a with
    | none => .string o.variant
    | some body => Value.ofFields [(o.variant, body)])]

/-- An operation whose answer says no more than that it was done. -/
def ofDone (module variant : String) (payload : Coded (Option Value) α) : Operation α Unit where
  module := module
  variant := variant
  payload := payload
  means _ _ _ _ := True

end Operation

/-! ## Reading a request -/

structure AnyOperation where
  {Args : Type}
  {Answer : Type}
  operation : Operation Args Answer

structure Request where
  of : AnyOperation
  args : of.Args

namespace AnyOperation

def tag (o : AnyOperation) : String × String := (o.operation.module, o.operation.variant)

end AnyOperation

def Value.asked : Value → Option ((String × String) × Option Value)
  | object [(module, string variant)] => some ((module, variant), none)
  | object [(module, object [(variant, body)])] => some ((module, variant), some body)
  | _ => none

/-- What a server that knows these operations is asked to do. -/
def readRequest (ops : List AnyOperation) (v : Value) : Option Request :=
  match v.asked with
  | none => none
  | some (tag, body) =>
    match ops.find? fun o => o.tag == tag with
    | none => none
    | some o => (o.operation.payload.read body).map fun args => ⟨o, args⟩

section

variable {α β γ : Type}

theorem Operation.asked_value (o : Operation α β) (a : α) :
    (o.value a).asked = some ((o.module, o.variant), o.payload.write a) := by
  unfold value
  cases o.payload.write a <;> rfl

theorem find?_of_nodup {ops : List AnyOperation} (distinct : (ops.map AnyOperation.tag).Nodup)
    {o : AnyOperation} (among : o ∈ ops) : ops.find? (fun o' => o'.tag == o.tag) = some o := by
  induction ops with
  | nil => cases among
  | cons o' ops ih =>
    obtain ⟨fresh, rest⟩ := List.nodup_cons.mp distinct
    rw [List.find?_cons]
    by_cases same : o'.tag = o.tag
    · rcases List.mem_cons.mp among with rfl | later
      · simp
      · exact absurd (same ▸ List.mem_map_of_mem later) fresh
    · rcases List.mem_cons.mp among with rfl | later
      · exact absurd rfl same
      · rw [beq_eq_false_iff_ne.mpr same]
        exact ih rest later

theorem readRequest_value {ops : List AnyOperation} (distinct : (ops.map AnyOperation.tag).Nodup)
    {o : AnyOperation} (among : o ∈ ops) (a : o.Args) :
    readRequest ops (o.operation.value a) = some ⟨o, a⟩ := by
  have known : ops.find? (fun o' => o'.tag == (o.operation.module, o.operation.variant)) = some o :=
    find?_of_nodup distinct among
  simp only [readRequest, o.operation.asked_value, known, o.operation.payload.back, Option.map_some]

/-! ## Stubs -/

/-- A typed method as a stub of an operation: the arguments it asks with, unless it refuses its own,
and what it returns for an answer. -/
structure Stub (α : Type) extends TypedMethod α where
  {Args : Type}
  {Answer : Type}
  operation : Operation Args Answer
  args : Except Error Args
  result : Answer → Except Error α
  asks : op = args.map operation.value
  hears : ∀ {a}, args = .ok a → ∀ {r : Response} {answer},
    operation.means a r.kind r.data answer → decode r = result answer

/-- Arguments that are refused by an error of the caller's. -/
def RefusesInvalid (args : Except Error α) : Prop :=
  ∀ e, args = .error e → ∃ message, e = Error.invalid message

theorem refusesInvalid_ok (a : α) : RefusesInvalid (.ok a : Except Error α) := by
  intro e h
  cases h

theorem refusesInvalid_map {args : Except Error α} (refused : RefusesInvalid args) (f : α → β) :
    RefusesInvalid (args.map f) := by
  intro e h
  cases args with
  | error e' =>
    cases h
    exact refused _ rfl
  | ok a => cases h

theorem refusesInvalid_bind {args : Except Error α} {f : α → Except Error β}
    (refused : RefusesInvalid args) (later : ∀ a, RefusesInvalid (f a)) :
    RefusesInvalid (args >>= f) := by
  intro e h
  cases args with
  | error e' =>
    cases h
    exact refused _ rfl
  | ok a => exact later a e h

namespace Operation

def stub (o : Operation α β) (args : Except Error α) (refused : RefusesInvalid args)
    (decode : Response → Except Error γ)
    (misread : ∀ r e, decode r = .error e → ∃ message, e = Error.protocol message)
    (result : β → Except Error γ)
    (hears : ∀ a, args = .ok a → ∀ (r : Response) answer, o.means a r.kind r.data answer →
      decode r = result answer) : Stub γ where
  op := args.map o.value
  decode := decode
  refused := refusesInvalid_map refused o.value
  misread := misread
  operation := o
  args := args
  result := result
  asks := rfl
  hears h := hears _ h _ _

theorem never_misread {e : Error} (h : (.ok () : Except Error Unit) = .error e) :
    ∃ message, e = Error.protocol message := by
  cases h

def done (o : Operation α β) (args : Except Error α) (refused : RefusesInvalid args) : Stub Unit :=
  o.stub args refused (fun _ => .ok ()) (fun _ _ => never_misread) (fun _ => .ok ())
    fun _ _ _ _ _ => rfl

end Operation

/-- A method that refuses nothing and only reports that the operation was done. -/
def Operation.perform (o : Operation α β) (args : α) : Stub Unit :=
  o.done (.ok args) (refusesInvalid_ok args)

theorem TypedMethod.ext {m m' : TypedMethod α} (op : m.op = m'.op)
    (decode : ∀ r, m.decode r = m'.decode r) : m = m' := by
  obtain ⟨_, d, _, _⟩ := m
  obtain ⟨_, d', _, _⟩ := m'
  cases op
  cases (funext decode : d = d')
  rfl

theorem bind_protocol {decoded : Except Error β} {take : β → Except Error γ} {e : Error}
    (first : ∀ e, decoded = .error e → ∃ message, e = Error.protocol message)
    (then_ : ∀ b e, take b = .error e → ∃ message, e = Error.protocol message)
    (h : decoded.bind take = .error e) : ∃ message, e = Error.protocol message := by
  cases decoded with
  | error e' =>
    cases h
    exact first _ rfl
  | ok b => exact then_ b e h

end

/-! ## Operations that are asked for an answer -/

/-- How the payload of an answer is read, and which payloads mean what. -/
structure Payload (β : Type) where
  kind : String
  means : Value → β → Prop
  read : Serde → Value → Except Error β
  reads : ∀ {S v b}, means v b → read S v = .ok b
  misread : ∀ {S v e}, read S v = .error e → ∃ message, e = Error.protocol message

/-- What `serde_json::from_value` makes of a payload, `malformed` being its complaint. -/
def deserialized {β : Type} (read : Value → Option β) (malformed : Value → String) (v : Value) :
    Except Error β :=
  match read v with
  | some b => .ok b
  | none => .error (Error.protocol (malformed v))

theorem deserialized_error {β : Type} {read : Value → Option β} {malformed : Value → String}
    {v : Value} {e : Error} (h : deserialized read malformed v = .error e) :
    ∃ message, e = Error.protocol message := by
  unfold deserialized at h
  split at h
  · cases h
  · cases h
    exact ⟨_, rfl⟩

/-- A `Json` payload of some type of the crate's. -/
def Payload.json {β : Type} (what type : String) (answer : Heard Value β) : Payload β where
  kind := "Json"
  means := answer.means
  read S := deserialized answer.read fun v => "malformed " ++ what ++ " payload: " ++ S.mismatch type v
  reads said := by rw [deserialized, answer.reads said]
  misread := deserialized_error

structure Inquiry (α β : Type) where
  module : String
  variant : String
  fields : Coded (Option Value) α
  payload : Payload β

namespace Inquiry

variable {α β γ ω : Type}

def operation (q : Inquiry α β) : Operation α β where
  module := q.module
  variant := q.variant
  payload := q.fields
  means _ kind data b := kind = q.payload.kind ∧ q.payload.means data b

variable (H : Host ω)

def decode (q : Inquiry α β) (r : Response) : Except Error β :=
  match r.expect q.payload.kind q.variant with
  | .error e => .error e
  | .ok data => q.payload.read H.serde data

theorem decode_eq (q : Inquiry α β) (r : Response) :
    q.decode H r = (r.expect q.payload.kind q.variant).bind (q.payload.read H.serde) := by
  unfold decode
  cases r.expect q.payload.kind q.variant <;> rfl

theorem decode_answer (q : Inquiry α β) {a : α} {r : Response} {b : β}
    (said : q.operation.means a r.kind r.data b) : q.decode H r = .ok b := by
  have payload : r.expect q.payload.kind q.variant = .ok r.data := if_pos said.1
  rw [decode, payload]
  exact q.payload.reads said.2

theorem decode_error (q : Inquiry α β) {r : Response} {e : Error} (h : q.decode H r = .error e) :
    ∃ message, e = Error.protocol message := by
  unfold decode at h
  split at h
  · rename_i refused
    cases h
    exact Response.expect_error refused
  · exact q.payload.misread h

/-- A method that goes on from the answer. -/
def stubThen (q : Inquiry α β) (args : Except Error α) (refused : RefusesInvalid args)
    (take : β → Except Error γ)
    (taken : ∀ b e, take b = .error e → ∃ message, e = Error.protocol message) : Stub γ :=
  q.operation.stub args refused (fun r => (q.decode H r).bind take)
    (fun _ _ h => bind_protocol (fun _ => q.decode_error H) taken h) take
    fun _ _ _ _ said => by rw [q.decode_answer H said]; rfl

def stub (q : Inquiry α β) (args : Except Error α) (refused : RefusesInvalid args)
    (take : β → γ) : Stub γ :=
  q.stubThen H args refused (fun b => .ok (take b)) fun _ _ h => by cases h

def callFor (q : Inquiry α β) (args : α) (take : β → γ) : Stub γ :=
  q.stub H (.ok args) (refusesInvalid_ok args) take

def call (q : Inquiry α β) (args : α) : Stub β := q.callFor H args fun b => b

theorem call_decode (q : Inquiry α β) (args : α) (r : Response) :
    (q.call H args).decode r = q.decode H r := by
  change (q.decode H r).bind (fun b => .ok b) = _
  cases q.decode H r <;> rfl

end Inquiry

/-! ## What answers are made of -/

namespace Spoken

/-- An `i64`. -/
def integer : Heard Value Int where
  means v i := ∃ j : I64, v = .ofI64 j ∧ i = j.val
  read := Value.asI64
  reads := by
    rintro v i ⟨j, rfl, rfl⟩
    exact Value.asI64_ofI64 j

/-- A `f64`, which has to be a number to be written. -/
def float : Heard Value F64 where
  means v f := f.isFinite = true ∧ v = serializeF64 f
  read := Value.asF64
  reads := by
    rintro v f ⟨finite, rfl⟩
    exact (asF64_serializeF64 finite).1

def text : Heard Value String := Written.text.heard

def flag : Heard Value Bool := Written.flag.heard

def count : Heard Value UInt64 := Written.count.heard

def any : Heard Value Value := Written.any.heard

def object : Heard Value (SortedMap String Value) := Written.object.heard

def listOf {α : Type} (t : Heard Value α) : Heard Value (List α) := t.list Value.format

/-- `Option<T>`: `null` is `None`. -/
def optional {α : Type} (t : Heard Value α) : Heard Value (Option α) := t.option Value.format

/-- `serde_null::or_default`. -/
def orDefault {α : Type} (absent : α) (t : Heard Value α) : Heard Value α :=
  t.orDefault Value.format absent

/-- A field under `#[serde(default)]`. -/
def field {α : Type} (name : String) (t : Heard Value α) (absent : α) : Parts Value α :=
  .one name t (some absent)

/-- A field that has to be there. -/
def required {α : Type} (name : String) (t : Heard Value α) : Parts Value α := .one name t none

/-- An `Option` under `#[serde(default)]`. -/
def maybe {α : Type} (name : String) (t : Heard Value α) : Parts Value (Option α) :=
  field name (optional t) none

def record {α : Type} (p : Parts Value α) : Heard Value α := p.heard Value.format

/-- A `u8`. -/
def byte : Heard Value UInt8 where
  means v b := v = .ofU64 b.toUInt64
  read v := (v.asU64.filter fun n => n ≤ 255).map UInt64.toUInt8
  reads said := (byte_iff _ _).mpr said

/-- A struct of one field under `#[serde(default)]`. -/
def single {α : Type} (name : String) (t : Heard Value α) (absent : α) : Heard Value α :=
  record (field name t absent)

theorem structFields_length {names : List String} {v : Value} {parts : List (Option Value)}
    (read : v.structFields names = some parts) : parts.length = names.length := by
  cases v with
  | object map =>
    cases read
    exact List.length_map _
  | array items =>
    rw [Value.structFields] at read
    split at read
    · cases read
      simp only [List.length_append, List.length_map, List.length_replicate]
      omega
    · cases read
  | _ => cases read

theorem record_read {α : Type} {p : Parts Value α} {take : List (Option Value) → Option α}
    (v : Value) (same : ∀ parts : List (Option Value), parts.length = p.names.length →
      p.read parts = take parts) :
    (record p).read v = (v.structFields p.names).bind take := by
  change (v.structFields p.names).bind p.read = _
  cases read : v.structFields p.names with
  | none => rfl
  | some parts => exact same parts (structFields_length read)

@[simp] theorem integer_read : integer.read = Value.asI64 := rfl

@[simp] theorem flag_read : flag.read = Value.asBool := rfl

@[simp] theorem text_read : text.read = Value.asStr := rfl

@[simp] theorem count_read : count.read = Value.asU64 := rfl

@[simp] theorem optional_read {α : Type} (t : Heard Value α) :
    (optional t).read = Value.asOption t.read := by
  funext v
  cases v <;> rfl

@[simp] theorem field_read {α : Type} (name : String) (t : Heard Value α) (absent : α)
    (part : Option Value) :
    (field name t absent).read [part] = Value.orDefault absent t.read part := by
  cases part <;> rfl

@[simp] theorem field_and_read {α β : Type} (name : String) (t : Heard Value α) (absent : α)
    (p : Parts Value β) (part : Option Value) (rest : List (Option Value)) :
    ((field name t absent).and p).read (part :: rest) =
      (Value.orDefault absent t.read part).bind fun a => (p.read rest).map fun b => (a, b) := by
  change ((field name t absent).read [part]).bind (fun a => (p.read rest).map fun b => (a, b)) = _
  rw [field_read]

@[simp] theorem required_and_read {α β : Type} (name : String) (t : Heard Value α)
    (p : Parts Value β) (part : Option Value) (rest : List (Option Value)) :
    ((required name t).and p).read (part :: rest) =
      (part.bind t.read).bind fun a => (p.read rest).map fun b => (a, b) := by
  cases part <;> rfl

@[simp] theorem listOf_read {α : Type} (t : Heard Value α) :
    (listOf t).read = Value.asArray t.read := by
  funext v
  cases v <;> rfl

theorem object_read : object.read = Value.asMap some := rfl

theorem single_read {α : Type} (name : String) (t : Heard Value α) (absent : α) (v : Value) :
    (single name t absent).read v = (v.structFields [name]).bind fun
      | [part] => Value.orDefault absent t.read part
      | _ => none := by
  refine record_read v fun parts length => ?_
  match parts with
  | [part] => exact field_read name t absent part

theorem single_integer (name : String) (v : Value) :
    (single name integer 0).read v = v.intField name := single_read name integer 0 v

theorem single_flag (name : String) (v : Value) :
    (single name flag false).read v = v.boolField name := single_read name flag false v

theorem single_text (name : String) (v : Value) :
    (single name text "").read v = v.textField name := single_read name text "" v

end Spoken

end TricoreSdk
