import TricoreSdk.ScriptBinding

/-! The decimals `Param::decimal` takes and `sql_body` lets through: plain digits, with a sign
and a fractional part or without. -/

namespace TricoreSdk
open Effects

def Digits (text : List Char) : Prop := ∀ c ∈ text, c.isDigit = true

/-- Digits with a point among them or after them or not, or a point and digits. -/
inductive UnsignedDecimal : List Char → Prop
  | whole (int : List Char) (filled : int ≠ []) (digits : Digits int) : UnsignedDecimal int
  | pointed (int frac : List Char) (filled : int ≠ []) (digits : Digits int) (fraction : Digits frac) :
    UnsignedDecimal (int ++ '.' :: frac)
  | fraction (frac : List Char) (filled : frac ≠ []) (fraction : Digits frac) :
    UnsignedDecimal ('.' :: frac)

/-- One sign at most, and an unsigned decimal. -/
def PlainDecimal (text : String) : Prop :=
  ∃ sign body, text.toList = sign ++ body ∧ (sign = [] ∨ sign = ['+'] ∨ sign = ['-']) ∧
    UnsignedDecimal body

theorem digits_iff {text : List Char} : text.all Char.isDigit = true ↔ Digits text := List.all_eq_true

theorem Digits.no_point {text : List Char} (h : Digits text) : '.' ∉ text :=
  fun point => by cases h '.' point

/-! ## The sign -/

theorem stripSign_split (text : List Char) :
    ∃ sign, text = sign ++ stripSign text ∧ (sign = [] ∨ sign = ['+'] ∨ sign = ['-']) := by
  unfold stripSign
  split
  · exact ⟨['-'], rfl, .inr (.inr rfl)⟩
  · exact ⟨['+'], rfl, .inr (.inl rfl)⟩
  · exact ⟨[], rfl, .inl rfl⟩

theorem UnsignedDecimal.stripSign_self {body : List Char} (h : UnsignedDecimal body) :
    stripSign body = body := by
  have unsigned (c : Char) (rest : List Char) (digit : c.isDigit = true) :
      stripSign (c :: rest) = c :: rest := by
    unfold stripSign
    split
    · rename_i minus
      cases minus
      cases digit
    · rename_i plus
      cases plus
      cases digit
    · rfl
  cases h with
  | whole int filled digits =>
    obtain ⟨c, rest, rfl⟩ := List.exists_cons_of_ne_nil filled
    exact unsigned c rest (digits c List.mem_cons_self)
  | pointed int frac filled digits fraction =>
    obtain ⟨c, rest, rfl⟩ := List.exists_cons_of_ne_nil filled
    exact unsigned c _ (digits c List.mem_cons_self)
  | fraction frac filled fraction => rfl

theorem stripSign_append {sign body : List Char} (h : sign = [] ∨ sign = ['+'] ∨ sign = ['-'])
    (unsigned : UnsignedDecimal body) : stripSign (sign ++ body) = body := by
  rcases h with rfl | rfl | rfl
  · exact unsigned.stripSign_self
  · rfl
  · rfl

/-! ## The check -/

theorem validateDecimal_of_unsigned {text : String} (h : UnsignedDecimal (stripSign text.toList)) :
    validateDecimal text = .ok () := by
  unfold validateDecimal
  generalize stripSign text.toList = body at h
  cases h with
  | whole int filled digits =>
    simp [splitOnce_eq_none_iff.mpr digits.no_point, digits_iff.mpr digits, filled]
  | pointed int frac filled digits fraction =>
    simp [splitOnce_append digits.no_point, digits_iff.mpr digits, digits_iff.mpr fraction, filled]
  | fraction frac filled fraction =>
    have split : splitOnce '.' ('.' :: frac) = some ([], frac) := splitOnce_append List.not_mem_nil frac
    simp [split, digits_iff.mpr fraction, filled]

theorem unsigned_of_validateDecimal {text : String} (h : validateDecimal text = .ok ()) :
    UnsignedDecimal (stripSign text.toList) := by
  unfold validateDecimal at h
  generalize stripSign text.toList = body at h ⊢
  cases split : splitOnce '.' body with
  | none =>
    have checks : Digits body ∧ body ≠ [] := by simpa [split, Digits] using h
    exact .whole body checks.2 checks.1
  | some parts =>
    obtain ⟨int, frac⟩ := parts
    have checks : Digits int ∧ Digits frac ∧ (int = [] → frac ≠ []) := by
      simpa [split, Digits] using h
    obtain ⟨digits, fraction, filled⟩ := checks
    rw [(splitOnce_eq_some split).1]
    by_cases empty : int = []
    · rw [empty, List.nil_append]
      exact .fraction frac (filled empty) fraction
    · exact .pointed int frac empty digits fraction

theorem validateDecimal_eq_ok_iff (text : String) : validateDecimal text = .ok () ↔ PlainDecimal text := by
  constructor
  · intro h
    obtain ⟨sign, split, signs⟩ := stripSign_split text.toList
    exact ⟨sign, _, split, signs, unsigned_of_validateDecimal h⟩
  · rintro ⟨sign, body, split, signs, unsigned⟩
    refine validateDecimal_of_unsigned ?_
    rw [split, stripSign_append signs unsigned]
    exact unsigned

theorem ofDecimal_eq_ok_iff (text : String) (p : Param) :
    Param.ofDecimal text = .ok p ↔ p = .decimal text ∧ PlainDecimal text := by
  rw [← validateDecimal_eq_ok_iff]
  unfold Param.ofDecimal
  cases h : validateDecimal text with
  | error e => exact iff_of_false nofun fun both => by cases both.2
  | ok u => exact ⟨fun kept => by cases kept; exact ⟨rfl, rfl⟩, fun both => by rw [both.1]; rfl⟩

/-! ## What is sent -/

theorem validate_of_validateParams {params : List Param} {index : Nat}
    (h : validateParams index params = .ok ()) {p : Param} (hp : p ∈ params) :
    ∃ i, p.validate i = .ok () := by
  induction params generalizing index with
  | nil => cases hp
  | cons q params ih =>
    rw [validateParams] at h
    split at h
    · cases h
    · rename_i first
      rcases List.mem_cons.mp hp with rfl | hp
      · exact ⟨index, first⟩
      · exact ih h hp

theorem plain_of_sqlBody {c : Client} {sql : String} {params : List Param} {body : Value}
    (h : sqlBody c sql params = .returned body) {text : String} (hp : .decimal text ∈ params) :
    PlainDecimal text := by
  have checked : validateParams 0 params = .ok () := by
    have filled : params.isEmpty = false := List.isEmpty_eq_false_iff.mpr (List.ne_nil_of_mem hp)
    unfold sqlBody at h
    rw [filled, if_neg Bool.false_ne_true] at h
    split at h
    · cases h
    · split at h
      · cases h
      · assumption
  obtain ⟨i, valid⟩ := validate_of_validateParams checked hp
  exact (validateDecimal_eq_ok_iff text).mp valid

def Call.params : Call → List Param
  | executeParams _ params | queryParams _ params => params
  | transaction statements => statements.flatMap Statement.params
  | _ => []

theorem plain_of_request {call : Call} {c : Client} {r : Value × Option String}
    (h : call.request? c = some r) {text : String} (hp : .decimal text ∈ call.params) : PlainDecimal text := by
  have sent {verb sql : String} {params : List Param} (h : sqlRequest c verb sql params = some r)
      (hp : .decimal text ∈ params) : PlainDecimal text := by
    obtain ⟨body, built, -⟩ := sqlRequest_some h
    exact plain_of_sqlBody built hp
  cases call with
  | executeParams sql params | queryParams sql params => exact sent h hp
  | transaction statements =>
    rw [Call.request?] at h
    cases built : buildTransactionScript statements with
    | error e =>
      rw [built] at h
      cases h
    | ok script =>
      rw [built] at h
      exact sent h ((build_accepts built).2.2 ▸ hp)
  | _ => cases hp

/-- What becomes of a text that is given as a decimal. -/
structure DecimalText (text : String) : Prop where
  accepted : ∀ p, Param.ofDecimal text = .ok p ↔ p = .decimal text ∧ PlainDecimal text
  sent : ∀ (c : Client) (sql : String) (params : List Param) (body : Value),
    sqlBody c sql params = .returned body → .decimal text ∈ params → PlainDecimal text
  unsent : ∀ {ω : Type} (H : Host ω) (call : Call) (s : Client × Process ω),
    .decimal text ∈ call.params → ¬PlainDecimal text → (call.run H s).events = []

theorem decimalText (text : String) : DecimalText text where
  accepted := ofDecimal_eq_ok_iff text
  sent _ _ _ _ built hp := plain_of_sqlBody built hp
  unsent H call s hp odd := by
    have unrequested : call.request? s.1 = none := by
      cases h : call.request? s.1 with
      | none => rfl
      | some r => exact absurd (plain_of_request h hp) odd
    have unframed : call.frame? s.1 = none := by
      cases call with
      | executeParams _ _ | queryParams _ _ | transaction _ => simp [Call.frame?, unrequested]
      | _ => cases hp
    have settings : ¬call.Configures := by
      cases call with
      | setReadTimeout _ | setRequestTimeout _ | setRequestTxn _ => cases hp
      | _ => exact id
    have refused := call_refused (H := H) unframed settings s.2
    change RefusedAtOnce s (call.run H s) at refused
    generalize call.run H s = r at refused
    cases refused <;> rfl

end TricoreSdk
