import Mathlib.Algebra.Group.Int.Defs
import Mathlib.Algebra.Group.Nat.Defs
import TricoreSdk.Lib.JsonText

/-! The JSON values requests are built from: `serde_json::Value` as the crate
uses it, without the `arbitrary_precision` and `preserve_order` features. -/

namespace TricoreSdk
open JsonText

/-- An `f64` by its IEEE 754 bits. -/
structure F64 where
  bits : BitVec 64
  deriving DecidableEq

def F64.isFinite (f : F64) : Bool := (f.bits >>> 52) &&& 0x7ff#64 != 0x7ff#64

def Finite := { f : F64 // f.isFinite = true }
  deriving DecidableEq

/-- `serde_json::Number`: nothing outside `i64::MIN..=u64::MAX` but finite floats. -/
inductive Number where
  | posInt (n : UInt64)
  | negInt (i : { i : Int // -2 ^ 63 ≤ i ∧ i < 0 })
  | float (f : Finite)
  deriving DecidableEq

inductive Value where
  | null
  | bool (b : Bool)
  | number (n : Number)
  | string (s : String)
  | array (items : List Value)
  | object (map : List (String × Value))

/-- How a finite float is spelled in a JSON text. -/
structure FloatFormat where
  text : Finite → List Char
  isToken : ∀ f, IsToken (text f)

def intToken (i : Int) : List Char :=
  if i < 0 then '-' :: Nat.toDigits 10 i.natAbs else Nat.toDigits 10 i.natAbs

namespace Number

def token (F : FloatFormat) : Number → List Char
  | posInt n => intToken n.toNat
  | negInt i => intToken i.val
  | float f => F.text f

end Number

/-- `Map::insert`: a `BTreeMap` keeps its keys sorted and distinct. -/
def Map.insert (key : String) (value : Value) : List (String × Value) → List (String × Value)
  | [] => [(key, value)]
  | (k, v) :: map =>
    if key < k then (key, value) :: (k, v) :: map
    else if key = k then (key, value) :: map
    else (k, v) :: Map.insert key value map

theorem lookup_cons_ite {α : Type} (key key' : String) (value : α) (map : List (String × α)) :
    ((key, value) :: map).lookup key' = if key' = key then some value else map.lookup key' := by
  rw [List.lookup_cons]
  by_cases h : key' = key
  · rw [if_pos h, beq_iff_eq.mpr h]
  · rw [if_neg h, beq_eq_false_iff_ne.mpr h]

theorem Map.lookup_insert (key key' : String) (value : Value) (map : List (String × Value)) :
    (Map.insert key value map).lookup key' =
      if key' = key then some value else map.lookup key' := by
  induction map with
  | nil => exact lookup_cons_ite key key' value []
  | cons m map ih =>
    obtain ⟨k, v⟩ := m
    unfold Map.insert
    split
    · exact lookup_cons_ite key key' value _
    · split
      · rename_i hk
        subst hk
        simp only [lookup_cons_ite]
        split <;> rfl
      · rename_i hk
        simp only [lookup_cons_ite, ih]
        by_cases h : key' = k
        · have : key' ≠ key := fun hc => hk (hc ▸ h)
          rw [if_pos h, if_pos h, if_neg this]
        · rw [if_neg h, if_neg h]

namespace Value

/-- An object literal of the `json!` macro. -/
def ofFields (fields : List (String × Value)) : Value :=
  object (fields.foldl (fun map field => Map.insert field.1 field.2 map) [])

def ofString (s : String) : Value := string s

def ofU64 (n : UInt64) : Value := number (.posInt n)

def get (key : String) : Value → Option Value
  | object map => map.lookup key
  | _ => none

def asStr : Value → Option String
  | string s => some s
  | _ => none

mutual

def doc (F : FloatFormat) : Value → Doc
  | null => .null
  | bool b => .bool b
  | number n => .num (n.token F)
  | string s => .str s
  | array items => .arr (docs F items)
  | object map => .obj (fieldDocs F map)

def docs (F : FloatFormat) : List Value → List Doc
  | [] => []
  | v :: vs => v.doc F :: docs F vs

def fieldDocs (F : FloatFormat) : List (String × Value) → List (String × Doc)
  | [] => []
  | (k, v) :: map => (k, v.doc F) :: fieldDocs F map

end

/-- `Value::to_string`. -/
def toText (F : FloatFormat) (v : Value) : List Char := (v.doc F).text

/-- `serde_json::to_vec`. -/
def toVec (F : FloatFormat) (v : Value) : List UInt8 :=
  (v.toText F).flatMap String.utf8EncodeChar

theorem docs_eq_map (F : FloatFormat) (vs : List Value) : docs F vs = vs.map (doc F) := by
  induction vs with
  | nil => rw [docs, List.map_nil]
  | cons v vs ih => rw [docs, List.map_cons, ih]

theorem fieldDocs_eq_map (F : FloatFormat) (map : List (String × Value)) :
    fieldDocs F map = map.map fun m => (m.1, m.2.doc F) := by
  induction map with
  | nil => rw [fieldDocs, List.map_nil]
  | cons m map ih => rw [fieldDocs, List.map_cons, ih]

end Value

theorem toDigits_isDigit (n : Nat) : ∀ c ∈ Nat.toDigits 10 n, c.isDigit = true := by
  intro c hc
  exact Nat.isDigit_of_mem_toDigits (by omega) (by omega) hc

theorem isToken_intToken (i : Int) : IsToken (intToken i) := by
  have digits := toDigits_isDigit i.natAbs
  have chars : ∀ c ∈ Nat.toDigits 10 i.natAbs, isNumberChar c = true := by
    intro c hc
    simp [isNumberChar, digits c hc]
  unfold intToken
  split
  · refine ⟨⟨'-', _, rfl, Or.inl rfl⟩, ?_⟩
    intro c hc
    rcases List.mem_cons.mp hc with rfl | hc
    · rfl
    · exact chars c hc
  · refine ⟨?_, chars⟩
    cases h : Nat.toDigits 10 i.natAbs with
    | nil => exact absurd h Nat.toDigits_ne_nil
    | cons c cs => exact ⟨c, cs, rfl, Or.inr (digits c (by simp [h]))⟩

theorem isToken_token (F : FloatFormat) (n : Number) : IsToken (n.token F) := by
  cases n with
  | posInt n => exact isToken_intToken _
  | negInt i => exact isToken_intToken _
  | float f => exact F.isToken f

theorem wellFormed_doc (F : FloatFormat) : ∀ v : Value, WellFormed (v.doc F)
  | .null => by rw [Value.doc]; exact .null
  | .bool b => by rw [Value.doc]; exact .bool b
  | .number n => by rw [Value.doc]; exact .num (isToken_token F n)
  | .string s => by rw [Value.doc]; exact .str s
  | .array items => by
    rw [Value.doc, Value.docs_eq_map]
    refine .arr fun x hx => ?_
    obtain ⟨v, hv, rfl⟩ := List.mem_map.mp hx
    exact wellFormed_doc F v
  | .object map => by
    rw [Value.doc, Value.fieldDocs_eq_map]
    refine .obj fun m hm => ?_
    obtain ⟨⟨k, v⟩, hv, rfl⟩ := List.mem_map.mp hm
    exact wellFormed_doc F v
decreasing_by
  · have := List.sizeOf_lt_of_mem hv
    simp only [Value.array.sizeOf_spec]
    omega
  · have := List.sizeOf_lt_of_mem hv
    simp only [Value.object.sizeOf_spec, Prod.mk.sizeOf_spec] at this ⊢
    omega

theorem readText_toText (F : FloatFormat) (v : Value) : readText (v.toText F) = some (v.doc F) :=
  readText_text (wellFormed_doc F v)

/-! ## Reading typed data out of a value

The `Deserialize` code `derive` generates for a struct whose fields all have
`#[serde(default)]`: an object is read by name, an array by position. -/

namespace Value

def structFields (names : List String) : Value → Option (List (Option Value))
  | object map => some (names.map fun name => map.lookup name)
  | array items =>
    if items.length ≤ names.length then
      some (items.map some ++ List.replicate (names.length - items.length) none)
    else none
  | _ => none

def asI64 : Value → Option Int
  | number (.posInt n) => if n.toNat < 2 ^ 63 then some n.toNat else none
  | number (.negInt i) => some i.val
  | _ => none

/-- An `Option<i64>`: `null` is `None`. -/
def asOptionI64 : Value → Option (Option Int)
  | null => some none
  | v => v.asI64.map some

/-- A field under `#[serde(default)]`. -/
def orDefault {α : Type} (default : α) (read : Value → Option α) : Option Value → Option α
  | none => some default
  | some v => read v

end Value

end TricoreSdk
