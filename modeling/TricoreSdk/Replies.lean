import TricoreSdk.Requests

/-! Replies as a client reads them: what a server tells it is what it makes of the bytes, in
whichever order fields are written and whatever else is written beside them. -/

namespace TricoreSdk
open JsonText Shape

/-! ## Texts as `serde_json` reads them -/

namespace Value

mutual

/-- How deep arrays and objects are nested. -/
def depth : Value → Nat
  | array items => itemsDepth items + 1
  | object members => membersDepth members + 1
  | _ => 0

def itemsDepth : List Value → Nat
  | [] => 0
  | v :: vs => max v.depth (itemsDepth vs)

def membersDepth : List (String × Value) → Nat
  | [] => 0
  | (_, v) :: ms => max v.depth (membersDepth ms)

end

mutual

def floats : Value → List Finite
  | number (.float f) => [f]
  | array items => itemsFloats items
  | object members => membersFloats members
  | _ => []

def itemsFloats : List Value → List Finite
  | [] => []
  | v :: vs => v.floats ++ itemsFloats vs

def membersFloats : List (String × Value) → List Finite
  | [] => []
  | (_, v) :: ms => v.floats ++ membersFloats ms

end

/-- What a deserializer takes: nothing that is nested too deep, and no float out of its range.
`near` is the float that the spelling of a float is read as. -/
def Readable (near : Finite → Option Finite) (v : Value) : Prop :=
  v.depth < 128 ∧ ∀ f ∈ v.floats, (near f).isSome = true

instance (near : Finite → Option Finite) (v : Value) : Decidable (v.Readable near) :=
  inferInstanceAs (Decidable (_ ∧ _))

variable (near : Finite → Option Finite)

mutual

/-- The value a text is read as: members in the order of their names, of those that share a name the
last. -/
def kept : Value → Value
  | number (.float f) => number (.float ((near f).getD f))
  | array items => array (keptItems items)
  | object members => object (keptMembers members [])
  | v => v

def keptItems : List Value → List Value
  | [] => []
  | v :: vs => v.kept :: keptItems vs

def keptMembers : List (String × Value) → List (String × Value) → List (String × Value)
  | [], map => map
  | (name, v) :: ms, map => keptMembers ms (Map.insert name v.kept map)

end

variable {near}

theorem lookup_of_fresh {ms : List (String × Value)} {name : String}
    (fresh : name ∉ ms.map Prod.fst) : ms.lookup name = none := by
  rw [List.lookup_eq_none_iff]
  intro m among
  have named : m.1 ∈ ms.map Prod.fst := List.mem_map_of_mem among
  exact bne_iff_ne.mpr fun same : name = m.1 => fresh (same ▸ named)

theorem keptMembers_lookup {ms : List (String × Value)} (distinct : (ms.map Prod.fst).Nodup)
    (map : List (String × Value)) (key : String) :
    (keptMembers near ms map).lookup key =
      ((ms.lookup key).map (kept near)).or (map.lookup key) := by
  induction ms generalizing map with
  | nil => rw [keptMembers]; rfl
  | cons m ms ih =>
    obtain ⟨name, v⟩ := m
    obtain ⟨fresh, rest⟩ := List.nodup_cons.mp distinct
    rw [keptMembers, ih rest, Map.lookup_insert, lookup_cons_ite]
    by_cases h : key = name
    · subst h
      rw [lookup_of_fresh fresh, if_pos rfl, if_pos rfl]
      rfl
    · rw [if_neg h, if_neg h]

theorem kept_asStr (v : Value) : (v.kept near).asStr = v.asStr := by
  unfold kept
  split <;> rfl

/-- The member of a name an object is read by. One that is there twice is refused. -/
def column (members : List (String × Value)) (name : String) : Option (Option Value) :=
  match members.filter fun m => m.1 == name with
  | [] => some none
  | [m] => some (some m.2)
  | _ => none

theorem filter_of_nodup {members : List (String × Value)}
    (distinct : (members.map Prod.fst).Nodup) (name : String) :
    members.filter (fun m => m.1 == name) =
      ((members.lookup name).map fun v => (name, v)).toList := by
  induction members with
  | nil => rfl
  | cons m members ih =>
    obtain ⟨key, v⟩ := m
    obtain ⟨fresh, rest⟩ := List.nodup_cons.mp distinct
    rw [lookup_cons_ite, List.filter_cons]
    by_cases h : name = key
    · subst h
      have others := ih rest
      rw [lookup_of_fresh fresh] at others
      rw [if_pos (beq_self_eq_true name), others, if_pos rfl]
      rfl
    · rw [if_neg h, if_neg (fun same => h (beq_iff_eq.mp same).symm)]
      exact ih rest

theorem column_of_nodup {members : List (String × Value)}
    (distinct : (members.map Prod.fst).Nodup) (name : String) :
    column members name = some (members.lookup name) := by
  rw [column, filter_of_nodup distinct]
  cases members.lookup name <;> rfl

/-- The fields of an object whose members all have names of their own. -/
def textFields : Value → Option (String → Option Value)
  | object members =>
    if (members.map Prod.fst).Nodup then some fun name => members.lookup name else none
  | _ => none

theorem textFields_object {members : List (String × Value)}
    (distinct : (members.map Prod.fst).Nodup) :
    (object members).textFields = some fun name => members.lookup name := if_pos distinct

/-- What `derive` reads a struct by: the members it knows, or the elements in order. -/
def textColumns (names : List String) : Value → Option (List (Option Value))
  | object members => names.mapM (column members)
  | v => v.structFields names

theorem isNull_null : isNull null = true := rfl

theorem asItems_array (items : List Value) : (array items).asItems = some items := rfl

theorem textFields_present (fields : List (String × Option Value))
    (distinct : (fields.map Prod.fst).Nodup) :
    ∃ look, (object (present fields)).textFields = some look ∧ ∀ m ∈ fields, look m.1 = m.2 := by
  have named : ((present fields).map Prod.fst).Nodup := (present_names fields).nodup distinct
  exact ⟨_, textFields_object named, fun m among => lookup_present distinct among⟩

theorem mapM_column {members : List (String × Value)}
    (distinct : (members.map Prod.fst).Nodup) (names : List String) :
    names.mapM (column members) = some (names.map fun name => members.lookup name) := by
  induction names with
  | nil => rfl
  | cons name names ih =>
    rw [List.mapM_cons, column_of_nodup distinct, ih]
    rfl

theorem textColumns_eq {v : Value} {look : String → Option Value} (h : v.textFields = some look)
    (names : List String) : textColumns names v = some (names.map look) := by
  cases v with
  | object members =>
    obtain ⟨distinct, looks⟩ := Option.ite_none_right_eq_some.mp h
    rw [textColumns, mapM_column distinct names, ← Option.some.inj looks]
  | _ => cases h

def textFormat : Format Value where
  null := null
  isNull := isNull
  list := array
  items := asItems
  record fields := object (present fields)
  fields := textFields
  columns := textColumns
  isNull_null := isNull_null
  items_list := asItems_array
  found := textFields_present
  columns_eq := textColumns_eq

end Value

/-! ## Message bodies -/

namespace Bodies
open Spoken

def record {α : Type} (p : Parts Value α) : Heard Value α := p.heard Value.textFormat

theorem record_means {α : Type} {p : Parts Value α} {members : List (String × Value)} {a : α}
    (distinct : (members.map Prod.fst).Nodup) (said : p.means (fun name => members.lookup name) a) :
    (record p).means (.object members) a :=
  ⟨_, Value.textFields_object distinct, said⟩

def tree (near : Finite → Option Finite) : Heard Value Value where
  means v d := v.kept near = d
  read v := some (v.kept near)
  reads said := congrArg some said

def helloOk : Heard Value HelloOk :=
  (record ((field "ok" flag false).and ((field "message" text "").and
    (field "features" count 0)))).image fun b => ⟨b.1, b.2.1, b.2.2⟩

def authOk : Heard Value AuthOk :=
  (record ((field "ok" flag false).and ((maybe "session_id" text).and
    (field "message" text "")))).image fun b => ⟨b.1, b.2.1, b.2.2⟩

def diagnostics : Heard Value Diagnostics :=
  (record ((maybe "route" text).and ((maybe "elapsed_ms" integer).and
    ((field "warnings" (listOf text) []).and ((maybe "error_code" text).and
      (maybe "leader_hint" text)))))).image
    fun b => ⟨b.1, b.2.1, b.2.2.1, b.2.2.2.1, b.2.2.2.2⟩

def wireResponse (near : Finite → Option Finite) : Heard Value WireResponse :=
  (record ((field "request_id" text "").and ((field "status" text "").and
    ((field "data" (tree near) .null).and (maybe "diagnostics" diagnostics))))).image
    fun b => ⟨b.1, b.2.1, b.2.2.1, b.2.2.2⟩

def cancelOk : Heard Value UInt64 := record (field "cancelled" count 0)

end Bodies

/-- `serde_json::from_slice`, with the code its `derive` generates, on what `to_vec` writes. -/
structure Serde.Derived (S : Serde) (near : Finite → Option Finite) : Prop where
  value : ∀ v : Value, v.Readable near → S.value (v.toVec S.floats) = some (v.kept near)
  helloOk : ∀ {v body}, v.Readable near → Bodies.helloOk.read v = some body →
    S.helloOk (v.toVec S.floats) = .ok body
  authOk : ∀ {v body}, v.Readable near → Bodies.authOk.read v = some body →
    S.authOk (v.toVec S.floats) = .ok body
  wireResponse : ∀ {v body}, v.Readable near → (Bodies.wireResponse near).read v = some body →
    S.wireResponse (v.toVec S.floats) = .ok body
  cancelOk : ∀ {v cancelled}, v.Readable near → Bodies.cancelOk.read v = some cancelled →
    S.cancelOk (v.toVec S.floats) = .ok cancelled

/-! ## What a server tells a client -/

inductive Message where
  | helloOk (body : HelloOk)
  | authOk (body : AuthOk)
  | response (body : WireResponse)
  | error (text : String) (code : Option String)
  | pong
  | cancelOk (cancelled : UInt64)
  | bye

structure Value.Refuses (v : Value) (text : String) (code : Option String) : Prop where
  distinct : ∃ members, v = .object members ∧ (members.map Prod.fst).Nodup
  text : firstText v ["message", "error"] = some text
  code : ((v.get "code").bind Value.asStr).filter (fun c => !c.isEmpty) = code

theorem Value.kept_get {near : Finite → Option Finite} {v : Value}
    (distinct : ∃ members, v = .object members ∧ (members.map Prod.fst).Nodup) (key : String) :
    ((v.kept near).get key).bind Value.asStr = (v.get key).bind Value.asStr := by
  obtain ⟨members, rfl, distinct⟩ := distinct
  have found : (keptMembers near members []).lookup key = _ := keptMembers_lookup distinct [] key
  rw [List.lookup_nil, Option.or_none] at found
  rw [kept, get, get, found]
  cases members.lookup key with
  | none => rfl
  | some v => exact kept_asStr v

theorem firstText_congr {v v' : Value}
    (same : ∀ key, (v.get key).bind Value.asStr = (v'.get key).bind Value.asStr)
    (keys : List String) : firstText v keys = firstText v' keys := by
  induction keys with
  | nil => rfl
  | cons key keys ih => rw [firstText, firstText, same, ih]

namespace Message

inductive Written (F : FloatFormat) (near : Finite → Option Finite) : Message → Frame → Prop
  | helloOk {v : Value} {body : HelloOk} (readable : v.Readable near)
    (said : Bodies.helloOk.means v body) : Written F near (.helloOk body) ⟨.helloOk, v.toVec F⟩
  | authOk {v : Value} {body : AuthOk} (readable : v.Readable near)
    (said : Bodies.authOk.means v body) : Written F near (.authOk body) ⟨.authOk, v.toVec F⟩
  | response {v : Value} {body : WireResponse} (readable : v.Readable near)
    (said : (Bodies.wireResponse near).means v body) :
    Written F near (.response body) ⟨.response, v.toVec F⟩
  | error {v : Value} {text : String} {code : Option String} (readable : v.Readable near)
    (said : v.Refuses text code) : Written F near (.error text code) ⟨.error, v.toVec F⟩
  | pong (payload : List UInt8) : Written F near .pong ⟨.pong, payload⟩
  | cancelOk {v : Value} {cancelled : UInt64} (readable : v.Readable near)
    (said : Bodies.cancelOk.means v cancelled) :
    Written F near (.cancelOk cancelled) ⟨.cancelOk, v.toVec F⟩
  | bye (payload : List UInt8) : Written F near .bye ⟨.bye, payload⟩

/-- What a client makes of a frame, unless it is none of a server's. -/
def ofFrame (S : Serde) (frame : Frame) : Option (Except Error Message) :=
  match frame.tag with
  | .helloOk => some ((parseBody (S.helloOk frame.payload) "HELLO_OK").map .helloOk)
  | .authOk => some ((parseBody (S.authOk frame.payload) "AUTH_OK").map .authOk)
  | .response => some ((parseBody (S.wireResponse frame.payload) "RESPONSE").map .response)
  | .error => some (.ok (.error (errorText S frame.payload) (errorCode S frame.payload)))
  | .pong => some (.ok .pong)
  | .cancelOk => some ((parseBody (S.cancelOk frame.payload) "CANCEL_OK").map .cancelOk)
  | .bye => some (.ok .bye)
  | _ => none

variable {S : Serde} {near : Finite → Option Finite} (derived : S.Derived near)

include derived

theorem errorText_refuses {v : Value} {text : String} {code : Option String}
    (readable : v.Readable near) (said : v.Refuses text code) :
    errorText S (v.toVec S.floats) = text := by
  have first : firstText (v.kept near) ["message", "error"] = some text :=
    (firstText_congr (Value.kept_get said.distinct) _).trans said.text
  have filled : (v.toVec S.floats).isEmpty = false := by
    obtain ⟨members, rfl, -⟩ := said.distinct
    cases members with
    | nil => rfl
    | cons m members => rfl
  rw [errorText, filled, derived.value v readable]
  simp [first]

theorem errorCode_refuses {v : Value} {text : String} {code : Option String}
    (readable : v.Readable near) (said : v.Refuses text code) :
    errorCode S (v.toVec S.floats) = code := by
  rw [errorCode, derived.value v readable]
  exact (congrArg _ (Value.kept_get said.distinct "code")).trans said.code

theorem ofFrame_written {m : Message} {frame : Frame} (written : m.Written S.floats near frame) :
    ofFrame S frame = some (.ok m) := by
  cases written with
  | helloOk readable said =>
    rw [ofFrame, derived.helloOk readable (Bodies.helloOk.reads said)]
    rfl
  | authOk readable said =>
    rw [ofFrame, derived.authOk readable (Bodies.authOk.reads said)]
    rfl
  | response readable said =>
    rw [ofFrame, derived.wireResponse readable ((Bodies.wireResponse near).reads said)]
    rfl
  | error readable said =>
    rw [ofFrame, errorText_refuses derived readable said, errorCode_refuses derived readable said]
  | pong payload => rfl
  | cancelOk readable said =>
    rw [ofFrame, derived.cancelOk readable (Bodies.cancelOk.reads said)]
    rfl
  | bye payload => rfl

end Message

/-- However a stream is cut, a client reads off it what the server said: every body field by field,
and the text and the code of every refusal. -/
theorem messages_readBack {σ : Type} {S : Source σ} {pending : σ → List UInt8}
    (delivers : S.Delivers pending) {serde : Serde} {near : Finite → Option Finite}
    (derived : serde.Derived near)
    {messages : List Message} {frames : List Frame}
    (written : List.Forall₂ (Message.Written serde.floats near) messages frames)
    (fit : AllFit frames) :
    ∃ bytes, encodeAll frames = .ok bytes ∧ ∀ s rest, pending s = bytes ++ rest →
      ∃ read s', readFrames S.reader messages.length s = (.ok read, s') ∧ pending s' = rest ∧
        read.map (Message.ofFrame serde) = messages.map fun m => some (.ok m) := by
  obtain ⟨bytes, encoded, reads⟩ := readFrames_encodeAll delivers fit
  refine ⟨bytes, encoded, fun s rest held => ?_⟩
  obtain ⟨s', read, left⟩ := reads s rest held
  rw [← written.length_eq] at read
  refine ⟨frames, s', read, left, ?_⟩
  clear encoded reads fit read
  induction written with
  | nil => rfl
  | cons first _ ih => rw [List.map_cons, List.map_cons, ih, Message.ofFrame_written derived first]

/-! ## Answers to calls -/

namespace WireResponse

/-- What is reported of a body: its diagnostics with it, and of its data the variant and what that
carries. -/
def response (body : WireResponse) : Response :=
  { requestId := body.requestId
    status := body.status
    kind := (decodeVariant body.data).1
    data := (decodeVariant body.data).2
    route := (body.diagnostics.getD .default).route
    elapsedMs := (body.diagnostics.getD .default).elapsedMs
    warnings := (body.diagnostics.getD .default).warnings
    errorCode := (body.diagnostics.getD .default).errorCode
    leaderHint := (body.diagnostics.getD .default).leaderHint }

/-- The failure that a body is when its status is not `ok`. -/
def failure (F : FloatFormat) (body : WireResponse) : Error :=
  { kind := .server
    code := body.response.errorCode
    message := body.response.failureMessage F
    leaderHint := body.response.leaderHint }

def reply (F : FloatFormat) (body : WireResponse) : Except Error Response :=
  if body.status = "ok" then .ok body.response else .error (body.failure F)

end WireResponse

section

variable {ω : Type} {H : Host ω} {near : Finite → Option Finite} (derived : H.serde.Derived near)

include derived

theorem replyOf_response {v : Value} {body : WireResponse} (readable : v.Readable near)
    (said : (Bodies.wireResponse near).means v body) :
    replyOf H ⟨.response, v.toVec H.serde.floats⟩ = some (body.reply H.serde.floats) := by
  have parsed := derived.wireResponse readable ((Bodies.wireResponse near).reads said)
  have read : readResponse H (v.toVec H.serde.floats) =
      if body.status ≠ "ok" then .error (body.failure H.serde.floats) else .ok body.response := by
    rw [readResponse, parsed]
    rfl
  rw [replyOf, read, WireResponse.reply, ite_not]

end

/-- How a body settles a typed call: by an answer to what was asked, or as its failure. -/
inductive Settles (F : FloatFormat) {α : Type} (m : Stub α) (body : WireResponse) :
    Except Error α → Prop
  | answered {args : m.Args} {answer : m.Answer} (asked : m.args = .ok args)
    (ok : body.status = "ok")
    (said : m.operation.means args body.response.kind body.response.data answer) :
    Settles F m body (m.result answer)
  | refused (other : body.status ≠ "ok") : Settles F m body (.error (body.failure F))

theorem Settles.reply {F : FloatFormat} {α : Type} {m : Stub α} {body : WireResponse}
    {result : Except Error α} (h : Settles F m body result) :
    (body.reply F).bind m.decode = result := by
  cases h with
  | answered asked ok said =>
    rw [WireResponse.reply, if_pos ok]
    exact m.hears asked said
  | refused other =>
    rw [WireResponse.reply, if_neg other]
    rfl

/-- A typed call, and how it is settled. -/
structure Replied where
  {Result : Type}
  stub : Stub Result
  body : WireResponse
  result : Except Error Result

namespace Replied

structure Written (F : FloatFormat) (near : Finite → Option Finite) (r : Replied)
    (frame : Frame) : Prop where
  settles : Settles F r.stub r.body r.result
  frame : (Message.response r.body).Written F near frame

def taken {ω : Type} (H : Host ω) (r : Replied) (frame : Frame) : Option (Except Error r.Result) :=
  (replyOf H frame).map fun reply => reply.bind r.stub.decode

theorem taken_written {ω : Type} {H : Host ω} {near : Finite → Option Finite}
    (derived : H.serde.Derived near) {r : Replied} {frame : Frame}
    (written : r.Written H.serde.floats near frame) :
    r.taken H frame = some r.result := by
  obtain ⟨stub, body, result⟩ := r
  obtain ⟨settles, written⟩ := written
  cases written with
  | response readable said =>
    rw [taken, replyOf_response derived readable said, Option.map_some, settles.reply]

end Replied

/-- However a stream of answers is cut, each typed call returns what its operation was answered, or
the failure it was refused with. -/
theorem answers_readBack {σ ω : Type} {S : Source σ} {pending : σ → List UInt8}
    (delivers : S.Delivers pending) {H : Host ω} {near : Finite → Option Finite}
    (derived : H.serde.Derived near)
    {calls : List Replied} {frames : List Frame}
    (written : List.Forall₂ (Replied.Written H.serde.floats near) calls frames)
    (fit : AllFit frames) :
    ∃ bytes, encodeAll frames = .ok bytes ∧ ∀ s rest, pending s = bytes ++ rest →
      ∃ read s', readFrames S.reader calls.length s = (.ok read, s') ∧ pending s' = rest ∧
        List.Forall₂ (fun r frame => r.taken H frame = some r.result) calls read := by
  obtain ⟨bytes, encoded, reads⟩ := readFrames_encodeAll delivers fit
  refine ⟨bytes, encoded, fun s rest held => ?_⟩
  obtain ⟨s', read, left⟩ := reads s rest held
  rw [← written.length_eq] at read
  exact ⟨frames, s', read, left, written.imp fun r frame => Replied.taken_written derived⟩

/-! ## A deserializer -/

section

variable {F : FloatFormat} (near : Finite → Option Finite) (R : FloatReader F)

def parsed {α : Type} (t : Heard Value α) (bytes : List UInt8) : Except String α :=
  match (Value.ofBytes R bytes).bind fun v => if v.Readable near then t.read v else none with
  | some a => .ok a
  | none => .error "malformed"

def textSerde : Serde where
  floats := F
  mismatch type _ := "invalid type, expected " ++ type
  value bytes :=
    (Value.ofBytes R bytes).bind fun v => if v.Readable near then some (v.kept near) else none
  helloOk := parsed near R Bodies.helloOk
  authOk := parsed near R Bodies.authOk
  wireResponse := parsed near R (Bodies.wireResponse near)
  cancelOk := parsed near R Bodies.cancelOk

variable {near : Finite → Option Finite} {R}

theorem parsed_toVec {α : Type} {t : Heard Value α} {v : Value} {a : α} (readable : v.Readable near)
    (read : t.read v = some a) : parsed near R t (v.toVec F) = .ok a := by
  rw [parsed, Value.ofBytes_toVec, Option.bind_some, if_pos readable, read]

theorem parsed_unreadable {α : Type} {t : Heard Value α} {v : Value} (deep : ¬v.Readable near) :
    parsed near R t (v.toVec F) = .error "malformed" := by
  rw [parsed, Value.ofBytes_toVec, Option.bind_some, if_neg deep]

theorem textSerde_derived : (textSerde near R).Derived near where
  value v readable := by
    change (Value.ofBytes R (v.toVec F)).bind _ = _
    rw [Value.ofBytes_toVec, Option.bind_some, if_pos readable]
  helloOk := parsed_toVec
  authOk := parsed_toVec
  wireResponse := parsed_toVec
  cancelOk := parsed_toVec

end

def textHost : Host Desk := { deskHost with serde := textSerde some bitReader }

def deletedText : Value :=
  .object [("status", .string "ok"),
    ("data", .object [("Json", .object [("shard", .ofU64 3), ("deleted", .bool true)])]),
    ("request_id", .string "rs-1-1")]

def deletedBody : WireResponse :=
  ⟨"rs-1-1", "ok", .object [("Json", .object [("deleted", .bool true), ("shard", .ofU64 3)])], none⟩

def movedText : Value :=
  .object [("diagnostics", .object [("leader_hint", .string "db2:8427"), ("warnings", .array []),
      ("error_code", .string "not_leader")]),
    ("data", .object [("Message", .string "not the leader")]), ("status", .string "error"),
    ("request_id", .string "rs-1-2"), ("node", .null)]

def movedBody : WireResponse :=
  ⟨"rs-1-2", "error", .object [("Message", .string "not the leader")],
    some ⟨none, none, [], some "not_leader", some "db2:8427"⟩⟩

theorem deletedText_means : (Bodies.wireResponse some).means deletedText deletedBody := by
  refine ⟨⟨"rs-1-1", "ok", _, none⟩, Bodies.record_means (by decide) ⟨.inl ⟨_, rfl, rfl⟩,
    .inl ⟨_, rfl, rfl⟩, .inl ⟨_, rfl, rfl⟩, .inr ⟨rfl, rfl⟩⟩, ?_⟩
  rfl

theorem movedText_means : (Bodies.wireResponse some).means movedText movedBody := by
  refine ⟨⟨"rs-1-2", "error", _, some ⟨none, none, [], some "not_leader", some "db2:8427"⟩⟩,
    Bodies.record_means (by decide) ⟨.inl ⟨_, rfl, rfl⟩, .inl ⟨_, rfl, rfl⟩, .inl ⟨_, rfl, rfl⟩,
      .inl ⟨_, rfl, .inr ⟨rfl, _, rfl, ?_⟩⟩⟩, ?_⟩
  · exact ⟨⟨none, none, [], some "not_leader", some "db2:8427"⟩, Bodies.record_means (by decide)
      ⟨.inr ⟨rfl, rfl⟩, .inr ⟨rfl, rfl⟩, .inl ⟨_, rfl, _, rfl, .nil⟩,
        .inl ⟨_, rfl, .inr ⟨rfl, _, rfl, rfl⟩⟩, .inl ⟨_, rfl, .inr ⟨rfl, _, rfl, rfl⟩⟩⟩, rfl⟩
  · rfl

def repliedTwice : List Replied :=
  [⟨cacheDelete textHost "sessions" "k1", deletedBody, .ok true⟩,
    ⟨cacheDelete textHost "sessions" "k2", movedBody, .error (movedBody.failure bitFloats)⟩]

theorem answers_readBack_twice :
    ∃ bytes, encodeAll [⟨.response, deletedText.toVec bitFloats⟩,
        ⟨.response, movedText.toVec bitFloats⟩] = .ok bytes ∧
      ∀ s rest, List.flatten s = bytes ++ rest → ∃ read s',
        readFrames Source.chunked.reader repliedTwice.length s = (.ok read, s') ∧
          List.flatten s' = rest ∧
          List.Forall₂ (fun r frame => r.taken textHost frame = some r.result) repliedTwice
            read := by
  refine answers_readBack (H := textHost) Source.chunked_delivers
    (textSerde_derived (R := bitReader))
    (.cons ⟨?_, .response (by decide +kernel) deletedText_means⟩
      (.cons ⟨?_, .response (by decide +kernel) movedText_means⟩ .nil)) ?_
  · exact Settles.answered (m := cacheDelete textHost "sessions" "k1") rfl rfl
      ⟨rfl, _, rfl, .inl ⟨_, rfl, rfl⟩⟩
  · exact .refused (by decide)
  · intro frame among
    rcases List.mem_pair.mp among with rfl | rfl <;> decide +kernel

/-- A refusal to serve, as an `ERROR` frame carries it. -/
def expiredText : Value :=
  .object [("code", .string "session_expired"), ("message", .string ""),
    ("error", .string "the session expired")]

theorem expiredText_refuses :
    expiredText.Refuses "the session expired" (some "session_expired") where
  distinct := ⟨_, rfl, by decide⟩
  text := rfl
  code := rfl

theorem messages_readBack_twice :
    ∃ bytes, encodeAll [⟨.response, movedText.toVec bitFloats⟩, ⟨.pong, []⟩,
        ⟨.error, expiredText.toVec bitFloats⟩] = .ok bytes ∧
      ∀ s rest, List.flatten s = bytes ++ rest → ∃ read s',
        readFrames Source.chunked.reader 3 s = (.ok read, s') ∧ List.flatten s' = rest ∧
          read.map (Message.ofFrame (textSerde some bitReader)) =
            [some (.ok (.response movedBody)), some (.ok .pong),
              some (.ok (.error "the session expired" (some "session_expired")))] := by
  refine messages_readBack Source.chunked_delivers (textSerde_derived (R := bitReader))
    (.cons (.response (by decide +kernel) movedText_means) (.cons (.pong [])
      (.cons (.error (by decide +kernel) expiredText_refuses) .nil))) ?_
  intro frame among
  simp only [List.mem_cons, List.not_mem_nil, or_false] at among
  rcases among with rfl | rfl | rfl <;> decide +kernel

end TricoreSdk
