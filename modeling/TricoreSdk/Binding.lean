import TricoreSdk.AtMostOnce
import TricoreSdk.Scripted

/-! Bound parameters: what reaches the server of a parameter list goes through
two serializers, the list into a tree and the envelope into text. -/

namespace TricoreSdk
open Effects JsonText

/-! ## What a parameter is to look like -/

def lowerHexDigits : List Char :=
  ['0', '1', '2', '3', '4', '5', '6', '7', '8', '9', 'a', 'b', 'c', 'd', 'e', 'f']

def lowerHex (b : UInt8) : List Char :=
  [lowerHexDigits.getD (b.toNat / 16) '?', lowerHexDigits.getD (b.toNat % 16) '?']

namespace Param

/-- The JSON that carries exactly the value given. -/
def asJson (F : FloatFormat) : Param → Doc
  | null => .null
  | bool b => .bool b
  | int i => .num (intToken i.val)
  | uint u => .num (intToken u.val)
  | float f => if h : f.isFinite = true then .num (F.text ⟨f, h⟩) else .null
  | decimal d => .str d
  | bytes b => .str (String.ofList ('0' :: 'x' :: b.flatMap lowerHex))
  | text t => .str t

/-- The integers a tree can hold. -/
def Fits : Param → Prop
  | int i => -2 ^ 63 ≤ i.val ∧ i.val < 2 ^ 64
  | uint u => u.val < 2 ^ 64
  | _ => True

instance : DecidablePred Fits
  | int i => inferInstanceAs (Decidable (-2 ^ 63 ≤ i.val ∧ i.val < 2 ^ 64))
  | uint u => inferInstanceAs (Decidable (u.val < 2 ^ 64))
  | null | bool _ | float _ | decimal _ | bytes _ | text _ => .isTrue trivial

end Param

theorem hexDigit_eq {n : Nat} (h : n < 16) : hexDigit n = lowerHexDigits.getD n '?' := by
  have : ∀ m : Fin 16, hexDigit m = lowerHexDigits.getD m '?' := by decide
  exact this ⟨n, h⟩

theorem hex_eq (b : List UInt8) :
    hex b = String.ofList ('0' :: 'x' :: b.flatMap lowerHex) := by
  have digits (x : UInt8) :
      [hexDigit (x.toNat / 16), hexDigit (x.toNat % 16)] = lowerHex x := by
    have := x.toNat_lt
    rw [lowerHex, hexDigit_eq (by omega), hexDigit_eq (by omega)]
  simp only [hex, digits]

/-! ## The first serializer -/

theorem doc_serializeI64 (F : FloatFormat) (i : Int) (h : -2 ^ 63 ≤ i) (h' : i < 2 ^ 63) :
    (serializeI64 i h).doc F = .num (intToken i) := by
  unfold serializeI64
  split
  · rfl
  · have : (UInt64.ofNat i.toNat).toNat = i.toNat := by
      rw [UInt64.toNat_ofNat']
      omega
    have cast : ((UInt64.ofNat i.toNat).toNat : Int) = i := by omega
    rw [Value.doc, Number.token, cast]

theorem doc_serializeU64 (F : FloatFormat) {n : Nat} (h : n < 2 ^ 64) :
    (serializeU64 n).doc F = .num (intToken n) := by
  have : (UInt64.ofNat n).toNat = n := by
    rw [UInt64.toNat_ofNat']
    omega
  rw [serializeU64, Value.doc, Number.token, this]

theorem toValue_of_fits (F : FloatFormat) {p : Param} (h : p.Fits) :
    ∃ v, p.toValue = some v ∧ v.doc F = p.asJson F := by
  cases p with
  | null => exact ⟨_, rfl, by rw [Value.doc]; rfl⟩
  | bool b => exact ⟨_, rfl, by rw [Value.doc]; rfl⟩
  | decimal d => exact ⟨_, rfl, by rw [Value.doc]; rfl⟩
  | text t => exact ⟨_, rfl, by rw [Value.doc]; rfl⟩
  | bytes b => exact ⟨_, rfl, by rw [Value.doc, hex_eq]; rfl⟩
  | float f =>
    refine ⟨_, rfl, ?_⟩
    by_cases hf : f.isFinite = true
    · rw [serializeF64, dif_pos hf, Value.doc, Param.asJson, dif_pos hf]
      rfl
    · rw [serializeF64, dif_neg hf, Value.doc, Param.asJson, dif_neg hf]
  | uint u => exact ⟨serializeU64 u.val, if_pos h, doc_serializeU64 F h⟩
  | int i =>
    obtain ⟨low, high⟩ := h
    by_cases small : i.val < 2 ^ 63
    · exact ⟨serializeI64 i.val low, dif_pos ⟨low, small⟩, doc_serializeI64 F i.val low small⟩
    · refine ⟨serializeU64 i.val.toNat, ?_, ?_⟩
      · have : 0 ≤ i.val ∧ i.val < 2 ^ 64 := by omega
        rw [Param.toValue, dif_neg (by omega), serializeI128, if_pos this]
      · rw [doc_serializeU64 F (by omega), Int.toNat_of_nonneg (by omega)]
        rfl

theorem toValue_of_not_fits {p : Param} (h : ¬p.Fits) : p.toValue = none := by
  cases p with
  | uint u => exact (if_neg h).trans (if_neg h)
  | int i =>
    have wide : ¬(-2 ^ 63 ≤ i.val ∧ i.val < 2 ^ 63) := fun hc => h ⟨hc.1, by omega⟩
    have large : ¬(0 ≤ i.val ∧ i.val < 2 ^ 64) := fun hc => h ⟨by omega, hc.2⟩
    rw [Param.toValue, dif_neg wide, serializeI128, if_neg large, dif_neg wide]
  | _ => exact absurd trivial h

theorem paramsToValue_of_fits (F : FloatFormat) {params : List Param}
    (h : ∀ p ∈ params, p.Fits) :
    ∃ v, paramsToValue params = some v ∧ v.doc F = .arr (params.map (Param.asJson F)) := by
  have trees : ∃ vs, params.mapM Param.toValue = some vs ∧
      vs.map (Value.doc F) = params.map (Param.asJson F) := by
    induction params with
    | nil => exact ⟨[], rfl, rfl⟩
    | cons p params ih =>
      obtain ⟨v, hv, hd⟩ := toValue_of_fits F (h p List.mem_cons_self)
      obtain ⟨vs, hvs, hds⟩ := ih fun q hq => h q (.tail _ hq)
      exact ⟨v :: vs, by simp [List.mapM_cons, hv, hvs], by simp [hd, hds]⟩
  obtain ⟨vs, hvs, hds⟩ := trees
  exact ⟨.array vs, by simp [paramsToValue, hvs], by rw [Value.doc, Value.docs_eq_map, hds]⟩

theorem paramsToValue_of_not_fits {params : List Param} {p : Param} (hp : p ∈ params)
    (h : ¬p.Fits) : paramsToValue params = none := by
  have stuck : params.mapM Param.toValue = none := by
    induction params with
    | nil => cases hp
    | cons q params ih =>
      cases hq : q.toValue with
      | none => simp [List.mapM_cons, hq]
      | some v =>
        rcases List.mem_cons.mp hp with rfl | hp
        · rw [toValue_of_not_fits h] at hq
          cases hq
        · simp [List.mapM_cons, hq, ih hp]
  simp [paramsToValue, stuck]

/-! ## The second serializer -/

theorem get?_doc (F : FloatFormat) (v : Value) (key : String) :
    (v.doc F).get? key = (v.get key).map (Value.doc F) := by
  cases v with
  | object map =>
    rw [Value.doc, Doc.get?, Value.get, Value.fieldDocs_eq_map]
    induction map with
    | nil => rfl
    | cons m map ih =>
      rw [List.map_cons, List.find?_cons, lookup_cons_ite]
      by_cases h : key = m.1
      · simp [h]
      · have : (m.1 == key) = false := beq_eq_false_iff_ne.mpr (Ne.symm h)
        simp only [this, if_neg h]
        exact ih
  | _ => rw [Value.doc]; rfl

/-- What a peer finds under `params` in the text of a request, nothing standing
for an empty list. -/
def paramsIn (verb : String) (text : List Char) : List Doc :=
  match (readText text).bind (Doc.path? ["op", "Sql", verb, "params"]) with
  | some (.arr items) => items
  | _ => []

theorem paramsIn_envelope (F : FloatFormat) (requestId database verb : String) (body : Value)
    (options : List (String × Value)) :
    paramsIn verb ((envelopeOf requestId database (sqlOp verb body) options).toText F) =
      match (body.get "params").map (Value.doc F) with
      | some (.arr items) => items
      | _ => [] := by
  have op : (sqlOp verb body).get "Sql" = some (Value.ofFields [(verb, body)]) := by
    simp [sqlOp, Value.ofFields, Value.get, Map.lookup_insert]
  have inner : (Value.ofFields [(verb, body)]).get verb = some body := by
    simp [Value.ofFields, Value.get, Map.lookup_insert]
  simp only [paramsIn, readText_toText, Option.bind_some, Doc.path?, get?_doc, envelopeOf_op,
    Option.map_some, op, inner]
  cases body.get "params" <;> rfl

/-! ## The two together -/

theorem validateParams_of_valid {params : List Param} {index : Nat}
    (h : ∀ i (p : Param), params[i]? = some p → p.validate (index + i) = .ok ()) :
    validateParams index params = .ok () := by
  induction params generalizing index with
  | nil => rfl
  | cons p params ih =>
    have first : p.validate index = .ok () := h 0 p rfl
    rw [validateParams, first]
    refine ih fun i q hq => ?_
    rw [show index + 1 + i = index + (i + 1) by omega]
    exact h (i + 1) q hq

theorem valid_of_validateParams {params : List Param} {index : Nat}
    (h : validateParams index params = .ok ()) :
    ∀ i (p : Param), params[i]? = some p → p.validate (index + i) = .ok () := by
  induction params generalizing index with
  | nil =>
    intro i p hp
    rw [List.getElem?_nil] at hp
    cases hp
  | cons q params ih =>
    intro i p hp
    rw [validateParams] at h
    cases first : q.validate index with
    | error e =>
      rw [first] at h
      cases h
    | ok done =>
      rw [first] at h
      cases i with
      | zero =>
        cases hp
        exact first
      | succ i =>
        rw [show index + (i + 1) = index + 1 + i by omega]
        exact ih h i p hp

def Valid (params : List Param) : Prop :=
  ∀ i (p : Param), params[i]? = some p → p.validate i = .ok ()

theorem sqlBody_of_valid {c : Client} (granted : c.serverParamsGranted = true) (sql : String)
    {params : List Param} (valid : Valid params) :
    sqlBody c sql params =
      if params = [] then .returned (Value.ofFields [("sql", .string sql)])
      else
        match paramsToValue params with
        | none => .panicked
        | some list => .returned (Value.ofFields [("sql", .string sql), ("params", list)]) := by
  have checked : validateParams 0 params = .ok () :=
    validateParams_of_valid fun i p hp => by rw [Nat.zero_add]; exact valid i p hp
  simp only [sqlBody, granted, checked, List.isEmpty_iff]
  rfl

section

variable {ω : Type} (H : Host ω)

/-- The request in the copy carries the statement's parameters, each exactly. -/
def Carries (verb : String) (params : List Param) (x : Copy) : Prop :=
  ∃ text, H.body x.payload = text.flatMap String.utf8EncodeChar ∧
    paramsIn verb text = params.map (Param.asJson H.serde.floats)

/-- The parameter list is sent, exactly, by the calls that bind one. -/
structure SentExactly (c : Client) (sql : String) (params : List Param) : Prop where
  body : ∃ body, sqlBody c sql params = .returned body
  execute : ∀ p, ∀ x ∈ copies (executeParams H sql params (c, p)).events, Carries H "Exec" params x
  query : ∀ p, ∀ x ∈ copies (queryParams H sql params (c, p)).events, Carries H "Query" params x

variable {H}

theorem executeParams_apply {c : Client} {sql : String} {params : List Param} {body : Value}
    (h : sqlBody c sql params = .returned body) (p : Process ω) :
    executeParams H sql params (c, p) = send H (sqlOp "Exec" body) (c, p) := by
  simp [executeParams, h]

theorem queryParams_events {c : Client} {sql : String} {params : List Param} {body : Value}
    (h : sqlBody c sql params = .returned body) (p : Process ω) :
    (queryParams H sql params (c, p)).events = (send H (sqlOp "Query" body) (c, p)).events := by
  have run : queryParams H sql params (c, p) =
      (send H (sqlOp "Query" body) (c, p)).follow fun response =>
        Action.ofExcept (rowsOf H response "query") := by
    simp [queryParams, h]
  rw [run]
  generalize send H (sqlOp "Query" body) (c, p) = r
  rcases r with ⟨o, s, es⟩
  cases o with
  | returned response => cases hr : rowsOf H response "query" <;> simp [hr]
  | failed e => rfl
  | panicked => rfl

theorem carries_of_body {c : Client} {verb : String} {params : List Param} {body : Value}
    (h : (match (body.get "params").map (Value.doc H.serde.floats) with
      | some (.arr items) => items
      | _ => []) = params.map (Param.asJson H.serde.floats)) (p : Process ω) :
    ∀ x ∈ copies (send H (sqlOp verb body) (c, p)).events, Carries H verb params x := by
  intro x hx
  have same : ∀ x ∈ copies (send H (sqlOp verb body) (c, p)).events,
      x.payload = some (c.envelope (sqlOp verb body) c.requestTxn) :=
    (sendLoop_sends _ _ 0 _ c.numbered p).same
  refine ⟨(c.envelope (sqlOp verb body) c.requestTxn).toText H.serde.floats, ?_, ?_⟩
  · rw [same x hx]
    rfl
  · rw [Client.envelope, paramsIn_envelope]
    exact h

end

/-- A validated list is sent exactly when a tree can hold its integers: the test
suite's `wide_integers_are_exact_json_numbers` does not go through the tree. -/
theorem sentExactly_iff {ω : Type} (H : Host ω) {c : Client}
    (granted : c.serverParamsGranted = true) (sql : String) {params : List Param}
    (valid : Valid params) : SentExactly H c sql params ↔ ∀ p ∈ params, p.Fits := by
  have built := sqlBody_of_valid granted sql valid
  constructor
  · rintro ⟨⟨body, hb⟩, -, -⟩ p hp
    by_contra hf
    have ne : params ≠ [] := List.ne_nil_of_mem hp
    rw [built, if_neg ne, paramsToValue_of_not_fits hp hf] at hb
    cases hb
  · intro fits
    have body : ∃ body, sqlBody c sql params = .returned body ∧
        (match (body.get "params").map (Value.doc H.serde.floats) with
          | some (.arr items) => items
          | _ => []) = params.map (Param.asJson H.serde.floats) := by
      by_cases hn : params = []
      · refine ⟨_, built.trans (if_pos hn), ?_⟩
        simp [hn, Value.ofFields, Value.get, Map.lookup_insert]
      · obtain ⟨list, hl, hd⟩ := paramsToValue_of_fits H.serde.floats fits
        refine ⟨_, built.trans ((if_neg hn).trans (by rw [hl])), ?_⟩
        simp [Value.ofFields, Value.get, Map.lookup_insert, hd]
    obtain ⟨body, hb, hp⟩ := body
    refine ⟨⟨body, hb⟩, fun p => ?_, fun p => ?_⟩
    · rw [executeParams_apply hb]
      exact carries_of_body hp p
    · rw [queryParams_events hb]
      exact carries_of_body hp p

/-- One of each kind, with the least and the greatest integers a tree can hold. -/
def everyKind : List Param :=
  [.null, .bool true, .int ⟨-2 ^ 63, by decide⟩, .int ⟨2 ^ 64 - 1, by decide⟩,
    .uint ⟨2 ^ 64 - 1, by decide⟩, .float ⟨0x3fe0000000000000⟩, .decimal "-10.50", .bytes [0, 255],
    .text "it's"]

theorem everyKind_valid : Valid everyKind := by
  have checked : validateParams 0 everyKind = .ok () := by decide +kernel
  intro i p hp
  rw [← Nat.zero_add i]
  exact valid_of_validateParams checked i p hp

theorem sentExactly_everyKind :
    SentExactly scripted (sessionWith allFeatures) "INSERT INTO t VALUES (?, ?, ?, ?, ?, ?, ?, ?, ?)"
      everyKind :=
  (sentExactly_iff scripted (by decide) _ everyKind_valid).mpr (by decide)

/-- One past the largest `u64` is a valid parameter, and building the request panics. -/
theorem not_sentExactly_wide :
    ¬∀ (c : Client) (sql : String) (params : List Param), c.serverParamsGranted = true →
      Valid params → SentExactly scripted c sql params := by
  intro h
  obtain ⟨body, hb⟩ := (h (sessionWith allFeatures) "SELECT ?" [.uint ⟨2 ^ 64, by decide⟩]
    (by decide) fun i p hp => by
      rw [List.getElem?_singleton] at hp
      split at hp <;> cases hp
      rfl).body
  have : sqlBody (sessionWith allFeatures) "SELECT ?" [.uint ⟨2 ^ 64, by decide⟩] = .panicked := rfl
  rw [this] at hb
  cases hb

end TricoreSdk
