import TricoreSdk.Error
import TricoreSdk.Value

/-! SQL parameter values and their encoding (`params.rs`), into a JSON tree as
`serde_json::to_value` builds it. -/

namespace TricoreSdk
open JsonText

def I128 := { i : Int // -2 ^ 127 ≤ i ∧ i < 2 ^ 127 }
  deriving DecidableEq

def U128 := { n : Nat // n < 2 ^ 128 }
  deriving DecidableEq

inductive Param where
  | null
  | bool (b : Bool)
  | int (i : I128)
  | uint (u : U128)
  | float (f : F64)
  | decimal (text : String)
  | bytes (bytes : List UInt8)
  | text (t : String)
  deriving DecidableEq

/-- `str::split_once` at a character. -/
def splitOnce (c : Char) : List Char → Option (List Char × List Char)
  | [] => none
  | x :: xs => if x = c then some ([], xs) else (splitOnce c xs).map fun p => (x :: p.1, p.2)

theorem splitOnce_append {c : Char} {front : List Char} (h : c ∉ front) (back : List Char) :
    splitOnce c (front ++ c :: back) = some (front, back) := by
  induction front with
  | nil => rw [List.nil_append, splitOnce, if_pos rfl]
  | cons x front ih =>
    rw [List.mem_cons, not_or] at h
    obtain ⟨ne, h⟩ := h
    rw [List.cons_append, splitOnce, if_neg (Ne.symm ne), ih h]
    rfl

theorem splitOnce_eq_some {c : Char} {text front back : List Char}
    (h : splitOnce c text = some (front, back)) : text = front ++ c :: back ∧ c ∉ front := by
  induction text generalizing front with
  | nil => cases h
  | cons x text ih =>
    rw [splitOnce] at h
    split at h
    · rename_i here
      cases h
      exact ⟨by rw [here]; rfl, List.not_mem_nil⟩
    · rename_i ne
      obtain ⟨⟨front', back'⟩, found, parts⟩ := Option.map_eq_some_iff.mp h
      cases parts
      obtain ⟨rfl, clean⟩ := ih found
      refine ⟨rfl, ?_⟩
      rw [List.mem_cons, not_or]
      exact ⟨Ne.symm ne, clean⟩

theorem splitOnce_eq_none_iff {c : Char} {text : List Char} : splitOnce c text = none ↔ c ∉ text := by
  induction text with
  | nil => simp [splitOnce]
  | cons x text ih =>
    rw [splitOnce, List.mem_cons, not_or]
    by_cases here : x = c
    · simp [here]
    · rw [if_neg here, Option.map_eq_none_iff, ih, and_iff_right (Ne.symm here)]

/-- `strip_prefix(['-', '+'])`, or the text itself. -/
def stripSign : List Char → List Char
  | '-' :: rest => rest
  | '+' :: rest => rest
  | text => text

def validateDecimal (text : String) : Except Error Unit :=
  let body := stripSign text.toList
  let (int, frac) := match splitOnce '.' body with
    | some (i, f) => (i, some f)
    | none => (body, none)
  let digits := fun s : List Char => s.all Char.isDigit
  let ok := digits int && frac.all digits
    && (!int.isEmpty || frac.any fun f => !f.isEmpty)
    && !(int.isEmpty && frac.isNone)
  if ok then .ok ()
  else .error (Error.invalid ("`" ++ text ++ "` is not a plain decimal: use digits with an " ++
    "optional sign and fractional part, and no exponent"))

/-- The `Display` text of a float that is not finite. -/
def F64.nonFiniteText (f : F64) : String :=
  if f.bits &&& 0xfffffffffffff#64 != 0#64 then "NaN"
  else if f.bits.msb then "-inf" else "inf"

namespace Param

def ofDecimal (text : String) : Except Error Param := do
  validateDecimal text
  pure (.decimal text)

def validate (index : Nat) : Param → Except Error Unit
  | float f =>
    if f.isFinite then .ok ()
    else .error (Error.invalid ("parameter " ++ toString (index + 1) ++ " is " ++
      f.nonFiniteText ++ ", which has no SQL representation; only finite floats can be bound"))
  | decimal d => validateDecimal d
  | _ => .ok ()

end Param

/-- `0x` and two lowercase digits per byte. -/
def hex (bytes : List UInt8) : String :=
  String.ofList ('0' :: 'x' :: bytes.flatMap fun b =>
    [hexDigit (b.toNat / 16), hexDigit (b.toNat % 16)])

/-! ## The serializer behind `to_value` -/

def serializeI64 (i : Int) (h : -2 ^ 63 ≤ i) : Value :=
  if neg : i < 0 then .number (.negInt ⟨i, h, neg⟩) else .number (.posInt (UInt64.ofNat i.toNat))

def serializeU64 (n : Nat) : Value := .number (.posInt (UInt64.ofNat n))

/-- Without `arbitrary_precision` a tree holds nothing outside `i64::MIN..=u64::MAX`. -/
def serializeI128 (i : Int) : Option Value :=
  if 0 ≤ i ∧ i < 2 ^ 64 then some (serializeU64 i.toNat)
  else if h : -2 ^ 63 ≤ i ∧ i < 2 ^ 63 then some (serializeI64 i h.1)
  else none

def serializeU128 (n : Nat) : Option Value :=
  if n < 2 ^ 64 then some (serializeU64 n) else none

/-- A float outside the finite ones becomes `null`. -/
def serializeF64 (f : F64) : Value :=
  if h : f.isFinite = true then .number (.float ⟨f, h⟩) else .null

namespace Param

/-- `impl Serialize for Param`, run by the tree serializer. -/
def toValue : Param → Option Value
  | null => some .null
  | bool b => some (.bool b)
  | int i =>
    if h : -2 ^ 63 ≤ i.val ∧ i.val < 2 ^ 63 then some (serializeI64 i.val h.1)
    else serializeI128 i.val
  | uint u => if u.val < 2 ^ 64 then some (serializeU64 u.val) else serializeU128 u.val
  | float f => some (serializeF64 f)
  | decimal d => some (.string d)
  | bytes b => some (.string (hex b))
  | text t => some (.string t)

end Param

/-- `to_value(params)`: the first element that has no tree fails the whole list. -/
def paramsToValue (params : List Param) : Option Value :=
  (params.mapM Param.toValue).map Value.array

end TricoreSdk
