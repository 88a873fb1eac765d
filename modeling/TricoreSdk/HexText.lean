import TricoreSdk.Binding
import TricoreSdk.CacheTtl
import TricoreSdk.CollectionOptions

/-! Bytes as hexadecimal text: `hex`, which writes the parameters of a `BLOB` (`params.rs`), and
`decode_hex`, which reads the values of a cache that are not text (`cache.rs`). -/

namespace TricoreSdk
open Effects JsonText

/-! ## Reading -/

def dropBytes : Nat → List Char → Option (List Char)
  | 0, text => some text
  | _ + 1, [] => none
  | n + 1, c :: rest => if c.utf8Size ≤ n + 1 then dropBytes (n + 1 - c.utf8Size) rest else none

def takeBytes : Nat → List Char → Option (List Char)
  | 0, _ => some []
  | _ + 1, [] => none
  | n + 1, c :: rest =>
    if c.utf8Size ≤ n + 1 then (takeBytes (n + 1 - c.utf8Size) rest).map (c :: ·) else none

/-- `&text[i..j]`, a panic off the boundary of a character or out of range. -/
def byteSlice (text : List Char) (i j : Nat) : Option (List Char) :=
  if i ≤ j then (dropBytes i text).bind (takeBytes (j - i)) else none

/-- `u8::from_str_radix(text, 16)`: an optional plus sign and digits that fit. -/
def u8FromHex (text : List Char) : Option UInt8 :=
  let digits := match text with
    | '+' :: rest => rest
    | _ => text
  if digits.isEmpty then none
  else
    (digits.mapM hexValue).bind fun values =>
      let n := values.foldl (fun n d => n * 16 + d) 0
      if n < 256 then some (UInt8.ofNat n) else none

def malformedHex : Error := Error.protocol "malformed hex value in a cache reply"

/-- The bytes at these offsets, up to the first that is not one. -/
def decodeHexAt (text : List Char) : List Nat → Outcome Error (List UInt8)
  | [] => .returned []
  | i :: offsets =>
    match byteSlice text i (i + 2) with
    | none => .panicked
    | some digits =>
      match u8FromHex digits with
      | none => .failed malformedHex
      | some byte => (decodeHexAt text offsets).andThen fun bytes => .ok (byte :: bytes)

def decodeHex (text : String) : Outcome Error (List UInt8) :=
  let length := text.utf8ByteSize
  if length % 2 ≠ 0 || !text.toList.all fun c => c.toNat < 128 then .failed malformedHex
  -- `(0..len).step_by(2)`
  else decodeHexAt text.toList (List.range' 0 ((length + 1) / 2) 2)

example : decodeHex "fffe00" = .returned [0xff, 0xfe, 0x00] := by decide +kernel

/-! ## What hexadecimal text is -/

def IsHexDigit (c : Char) : Prop :=
  ('0' ≤ c ∧ c ≤ '9') ∨ ('a' ≤ c ∧ c ≤ 'f') ∨ ('A' ≤ c ∧ c ≤ 'F')

instance : DecidablePred IsHexDigit := fun c =>
  inferInstanceAs (Decidable (('0' ≤ c ∧ c ≤ '9') ∨ ('a' ≤ c ∧ c ≤ 'f') ∨ ('A' ≤ c ∧ c ≤ 'F')))

def HexText (text : String) : Prop :=
  text.toList.length % 2 = 0 ∧ ∀ c ∈ text.toList, IsHexDigit c

/-- The bytes that pairs of digits spell, the high digit first. -/
inductive Spells : List Char → List UInt8 → Prop
  | nil : Spells [] []
  | pair {high low : Char} {x y : Nat} {rest : List Char} {bytes : List UInt8}
      (highDigit : hexValue high = some x) (lowDigit : hexValue low = some y)
      (more : Spells rest bytes) : Spells (high :: low :: rest) (UInt8.ofNat (16 * x + y) :: bytes)

/-- Pairs of a digit behind a digit or a plus sign. -/
def PairsRead : List Char → Prop
  | [] => True
  | [_] => False
  | high :: low :: rest => (IsHexDigit high ∨ high = '+') ∧ IsHexDigit low ∧ PairsRead rest

theorem isHexDigit_iff (c : Char) : IsHexDigit c ↔ ∃ x, hexValue c = some x := by
  unfold IsHexDigit hexValue
  by_cases digit : '0' ≤ c ∧ c ≤ '9'
  · simp [digit]
  · by_cases lower : 'a' ≤ c ∧ c ≤ 'f'
    · simp [digit, lower]
    · by_cases upper : 'A' ≤ c ∧ c ≤ 'F'
      · simp [digit, lower, upper]
      · simp [digit, lower, upper]

theorem hexValue_lt {c : Char} {x : Nat} (h : hexValue c = some x) : x < 16 := by
  have bound {low high : Char} (between : low ≤ c ∧ c ≤ high) :
      low.toNat ≤ c.toNat ∧ c.toNat ≤ high.toNat := between
  unfold hexValue at h
  split at h
  · have := bound ‹_›
    cases h
    simp at this ⊢
    omega
  · split at h
    · have := bound ‹_›
      cases h
      simp at this ⊢
      omega
    · split at h
      · have := bound ‹_›
        cases h
        simp at this ⊢
        omega
      · cases h

theorem IsHexDigit.ascii {c : Char} (h : IsHexDigit c) : c.toNat < 128 := by
  have below {low high : Char} (between : low ≤ c ∧ c ≤ high) : c.toNat ≤ high.toNat := between.2
  rcases h with h | h | h
  all_goals
    have := below h
    simp at this
    omega

/-! ## Two characters at a time -/

theorem u8FromHex_pair {high low : Char} {x y : Nat} (hx : hexValue high = some x)
    (hy : hexValue low = some y) : u8FromHex [high, low] = some (UInt8.ofNat (16 * x + y)) := by
  have unsigned : high ≠ '+' := by
    rintro rfl
    cases hx
  have := hexValue_lt hx
  have := hexValue_lt hy
  have fits : 16 * x + y < 256 := by omega
  simp [u8FromHex, unsigned, hx, hy, Nat.mul_comm x, fits]

theorem u8FromHex_signed {low : Char} {y : Nat} (hy : hexValue low = some y) :
    u8FromHex ['+', low] = some (UInt8.ofNat y) := by
  have := hexValue_lt hy
  have fits : y < 256 := by omega
  simp [u8FromHex, hy, fits]

theorem u8FromHex_eq_none {high low : Char}
    (h : ¬((IsHexDigit high ∨ high = '+') ∧ IsHexDigit low)) : u8FromHex [high, low] = none := by
  have unread {c : Char} (h : ¬IsHexDigit c) : hexValue c = none := by
    rw [isHexDigit_iff, not_exists] at h
    exact Option.eq_none_iff_forall_ne_some.mpr h
  by_cases plus : high = '+'
  · have low := unread fun digit => h ⟨.inr plus, digit⟩
    simp [u8FromHex, plus, low]
  · by_cases digit : IsHexDigit high
    · obtain ⟨x, hx⟩ := (isHexDigit_iff high).mp digit
      have low := unread fun digit' => h ⟨.inl digit, digit'⟩
      simp [u8FromHex, plus, hx, low]
    · simp [u8FromHex, plus, unread digit]

/-- What the loop over offsets comes to in a text of one-byte characters. -/
def readPairs : List Char → Option (List UInt8)
  | high :: low :: rest => (u8FromHex [high, low]).bind fun byte => (readPairs rest).map (byte :: ·)
  | _ => some []

def Ascii (text : List Char) : Prop := ∀ c ∈ text, c.toNat < 128

theorem utf8Size_of_ascii {c : Char} (h : c.toNat < 128) : c.utf8Size = 1 := by
  rw [Char.utf8Size_eq_one_iff, UInt32.le_iff_toNat_le]
  exact Nat.le_of_lt_succ h

theorem utf8ByteSize_of_ascii {text : List Char} (h : Ascii text) :
    (String.ofList text).utf8ByteSize = text.length := by
  induction text with
  | nil => rfl
  | cons c text ih =>
    rw [String.ofList_cons, String.utf8ByteSize_append, String.utf8ByteSize_singleton,
      utf8Size_of_ascii (h c List.mem_cons_self), ih fun c hc => h c (List.mem_cons_of_mem _ hc),
      List.length_cons, Nat.add_comm]

theorem dropBytes_append {front : List Char} (h : Ascii front) (back : List Char) :
    dropBytes front.length (front ++ back) = some back := by
  induction front with
  | nil => rw [List.length_nil, dropBytes, List.nil_append]
  | cons c front ih =>
    have one := utf8Size_of_ascii (h c List.mem_cons_self)
    rw [List.length_cons, List.cons_append, dropBytes, one, if_pos (by omega), Nat.add_sub_cancel]
    exact ih fun c hc => h c (List.mem_cons_of_mem _ hc)

theorem takeBytes_append {front : List Char} (h : Ascii front) (back : List Char) :
    takeBytes front.length (front ++ back) = some front := by
  induction front with
  | nil => rw [List.length_nil, takeBytes]
  | cons c front ih =>
    have one := utf8Size_of_ascii (h c List.mem_cons_self)
    rw [List.length_cons, List.cons_append, takeBytes, one, if_pos (by omega), Nat.add_sub_cancel,
      ih fun c hc => h c (List.mem_cons_of_mem _ hc)]
    rfl

theorem byteSlice_append {front : List Char} (middle : List Char) (h : Ascii front)
    (h' : Ascii middle) (back : List Char) : byteSlice (front ++ (middle ++ back)) front.length
      (front.length + middle.length) = some middle := by
  rw [byteSlice, if_pos (Nat.le_add_right _ _), dropBytes_append h, Option.bind_some,
    Nat.add_sub_cancel_left, takeBytes_append h']

theorem decodeHexAt_append (k : Nat) (front rest : List Char) (h : Ascii (front ++ rest))
    (pairs : rest.length = 2 * k) :
    decodeHexAt (front ++ rest) (List.range' front.length k 2)
      = (readPairs rest).elim (.failed malformedHex) .returned := by
  induction k generalizing front rest with
  | zero =>
    obtain rfl := List.length_eq_zero_iff.mp pairs
    rfl
  | succ k ih =>
    match rest, pairs with
    | high :: low :: rest, pairs =>
      have slice : byteSlice (front ++ high :: low :: rest) front.length (front.length + 2)
          = some [high, low] :=
        byteSlice_append [high, low] (fun c hc => h c (List.mem_append_left _ hc))
          (fun c hc => h c (List.mem_append_right _ (List.mem_append_left rest hc))) rest
      have more : decodeHexAt (front ++ high :: low :: rest) (List.range' (front.length + 2) k 2)
          = (readPairs rest).elim (.failed malformedHex) .returned := by
        have := ih (front ++ [high, low]) rest (by simpa using h)
          (by simp at pairs; omega)
        rwa [List.append_assoc, List.length_append] at this
      rw [List.range'_succ, decodeHexAt, slice, readPairs]
      cases read : u8FromHex [high, low] with
      | none => simp only [read, Option.bind_none, Option.elim_none]
      | some byte =>
        simp only [read, more, Option.bind_some]
        cases readPairs rest <;> rfl

theorem decodeHex_eq {text : String} (h : Ascii text.toList) (even : text.toList.length % 2 = 0) :
    decodeHex text = (readPairs text.toList).elim (.failed malformedHex) .returned := by
  have size : text.utf8ByteSize = text.toList.length := by
    rw [← utf8ByteSize_of_ascii h, String.ofList_toList]
  have ascii : (text.toList.all fun c => decide (c.toNat < 128)) = true :=
    List.all_eq_true.mpr fun c hc => decide_eq_true (h c hc)
  have half : text.toList.length = 2 * ((text.toList.length + 1) / 2) := by omega
  have loop := decodeHexAt_append ((text.toList.length + 1) / 2) [] text.toList h half
  simp only [decodeHex, size, ascii, even]
  exact loop

theorem decodeHex_of_odd {text : String} (h : ¬(Ascii text.toList ∧ text.toList.length % 2 = 0)) :
    decodeHex text = .failed malformedHex := by
  unfold decodeHex
  refine if_pos ?_
  rw [Bool.or_eq_true]
  by_cases ascii : Ascii text.toList
  · left
    have size : text.utf8ByteSize = text.toList.length := by
      rw [← utf8ByteSize_of_ascii ascii, String.ofList_toList]
    rw [size]
    exact decide_eq_true fun even => h ⟨ascii, even⟩
  · right
    simp only [Bool.not_eq_true', List.all_eq_false, decide_eq_true_eq]
    simpa [Ascii] using ascii

/-! ## The pairs that are read -/

theorem PairsRead.ascii {text : List Char} (h : PairsRead text) : Ascii text := by
  fun_induction PairsRead text with
  | case1 => exact fun c hc => by cases hc
  | case2 => cases h
  | case3 high low rest ih =>
    obtain ⟨first, second, more⟩ := h
    intro c hc
    rcases List.mem_cons.mp hc with rfl | hc
    · rcases first with digit | rfl
      · exact digit.ascii
      · decide
    · rcases List.mem_cons.mp hc with rfl | hc
      · exact second.ascii
      · exact ih more c hc

theorem PairsRead.even {text : List Char} (h : PairsRead text) : text.length % 2 = 0 := by
  fun_induction PairsRead text with
  | case1 => rfl
  | case2 => cases h
  | case3 high low rest ih =>
    have := ih h.2.2
    rw [List.length_cons, List.length_cons]
    omega

theorem readPairs_of_pairsRead {text : List Char} (h : PairsRead text) :
    ∃ bytes, readPairs text = some bytes := by
  fun_induction PairsRead text with
  | case1 => exact ⟨[], rfl⟩
  | case2 => cases h
  | case3 high low rest ih =>
    obtain ⟨first, second, more⟩ := h
    obtain ⟨bytes, read⟩ := ih more
    obtain ⟨y, hy⟩ := (isHexDigit_iff low).mp second
    have byte : ∃ byte, u8FromHex [high, low] = some byte := by
      rcases first with digit | rfl
      · obtain ⟨x, hx⟩ := (isHexDigit_iff high).mp digit
        exact ⟨_, u8FromHex_pair hx hy⟩
      · exact ⟨_, u8FromHex_signed hy⟩
    obtain ⟨byte, hb⟩ := byte
    exact ⟨byte :: bytes, by rw [readPairs, hb, read]; rfl⟩

theorem readPairs_eq_none {text : List Char} (even : text.length % 2 = 0) (h : ¬PairsRead text) :
    readPairs text = none := by
  fun_induction PairsRead text with
  | case1 => exact absurd trivial h
  | case2 => cases even
  | case3 high low rest ih =>
    rw [readPairs]
    by_cases pair : (IsHexDigit high ∨ high = '+') ∧ IsHexDigit low
    · have even : rest.length % 2 = 0 := by
        rw [List.length_cons, List.length_cons] at even
        omega
      rw [ih even fun more => h ⟨pair.1, pair.2, more⟩]
      cases u8FromHex [high, low] <;> rfl
    · rw [u8FromHex_eq_none pair]
      rfl

theorem decodeHex_of_not_pairsRead {text : String} (h : ¬PairsRead text.toList) :
    decodeHex text = .failed malformedHex := by
  by_cases checks : Ascii text.toList ∧ text.toList.length % 2 = 0
  · rw [decodeHex_eq checks.1 checks.2, readPairs_eq_none checks.2 h]
    rfl
  · exact decodeHex_of_odd checks

theorem decodeHex_of_pairsRead {text : String} (h : PairsRead text.toList) :
    ∃ bytes, readPairs text.toList = some bytes ∧ decodeHex text = .returned bytes := by
  obtain ⟨bytes, read⟩ := readPairs_of_pairsRead h
  refine ⟨bytes, read, ?_⟩
  rw [decodeHex_eq h.ascii h.even, read]
  rfl

theorem pairsRead_of_digits {text : List Char} (even : text.length % 2 = 0)
    (digits : ∀ c ∈ text, IsHexDigit c) : PairsRead text := by
  fun_induction PairsRead text with
  | case1 => trivial
  | case2 => cases even
  | case3 high low rest ih =>
    rw [List.forall_mem_cons, List.forall_mem_cons] at digits
    obtain ⟨first, second, digits⟩ := digits
    refine ⟨.inl first, second, ih ?_ digits⟩
    rw [List.length_cons, List.length_cons] at even
    omega

theorem digits_of_pairsRead {text : List Char} (h : PairsRead text) (unsigned : '+' ∉ text) :
    ∀ c ∈ text, IsHexDigit c := by
  fun_induction PairsRead text with
  | case1 => exact fun c hc => by cases hc
  | case2 => cases h
  | case3 high low rest ih =>
    obtain ⟨first, second, more⟩ := h
    simp only [List.mem_cons, not_or] at unsigned
    obtain ⟨notPlus, -, unsigned⟩ := unsigned
    rw [List.forall_mem_cons, List.forall_mem_cons]
    exact ⟨first.resolve_right (Ne.symm notPlus), second, ih more unsigned⟩

theorem readPairs_iff_spells {text : List Char} (even : text.length % 2 = 0)
    (digits : ∀ c ∈ text, IsHexDigit c) (bytes : List UInt8) :
    readPairs text = some bytes ↔ Spells text bytes := by
  constructor
  · intro read
    fun_induction PairsRead text generalizing bytes with
    | case1 =>
      cases read
      exact .nil
    | case2 => cases even
    | case3 high low rest ih =>
      rw [List.forall_mem_cons, List.forall_mem_cons] at digits
      obtain ⟨first, second, digits⟩ := digits
      obtain ⟨x, hx⟩ := (isHexDigit_iff high).mp first
      obtain ⟨y, hy⟩ := (isHexDigit_iff low).mp second
      rw [readPairs, u8FromHex_pair hx hy, Option.bind_some, Option.map_eq_some_iff] at read
      obtain ⟨more, read, rfl⟩ := read
      refine .pair hx hy (ih ?_ digits more read)
      rw [List.length_cons, List.length_cons] at even
      omega
  · intro spelled
    clear even digits
    induction spelled with
    | nil => rfl
    | pair hx hy _ ih => rw [readPairs, u8FromHex_pair hx hy, Option.bind_some, ih, Option.map_some]

/-! ## What is accepted -/

/-- A text is taken if it is hexadecimal, for what it spells, and refused by the one error if it
is not. -/
structure ReadAsHex (text : String) : Prop where
  accepted : ∀ bytes, decodeHex text = .returned bytes ↔ HexText text ∧ Spells text.toList bytes
  refused : ¬HexText text → decodeHex text = .failed malformedHex
  unpanicked : decodeHex text ≠ .panicked

theorem decodeHex_ne_panicked (text : String) : decodeHex text ≠ .panicked := by
  by_cases read : PairsRead text.toList
  · obtain ⟨bytes, -, decoded⟩ := decodeHex_of_pairsRead read
    rw [decoded]
    exact fun h => by cases h
  · rw [decodeHex_of_not_pairsRead read]
    exact fun h => by cases h

theorem decodeHex_of_hexText {text : String} (h : HexText text) (bytes : List UInt8) :
    decodeHex text = .returned bytes ↔ Spells text.toList bytes := by
  obtain ⟨even, digits⟩ := h
  rw [← readPairs_iff_spells even digits]
  obtain ⟨bytes', read, decoded⟩ := decodeHex_of_pairsRead (pairsRead_of_digits even digits)
  rw [read, decoded]
  simp

theorem readAsHex_iff (text : String) :
    ReadAsHex text ↔ ('+' ∈ text.toList → ¬PairsRead text.toList) := by
  constructor
  · intro h plus read
    have odd : ¬HexText text := fun hex => absurd (hex.2 _ plus) (by decide)
    obtain ⟨bytes, -, decoded⟩ := decodeHex_of_pairsRead read
    have refused := h.refused odd
    rw [decoded] at refused
    cases refused
  · intro unsigned
    have refused (odd : ¬HexText text) : decodeHex text = .failed malformedHex := by
      refine decodeHex_of_not_pairsRead fun read => odd ⟨read.even, ?_⟩
      exact digits_of_pairsRead read fun plus => unsigned plus read
    refine ⟨fun bytes => ?_, refused, decodeHex_ne_panicked text⟩
    by_cases hex : HexText text
    · rw [decodeHex_of_hexText hex, and_iff_right hex]
    · rw [refused hex]
      exact iff_of_false (fun h => by cases h) fun both => hex both.1

/-- A sign in a pair passes for a digit. -/
theorem plus_read_as_hex : ¬ReadAsHex "+f" := by
  intro h
  have decoded : decodeHex "+f" = .returned [0x0f] := by decide +kernel
  exact absurd (((h.accepted [0x0f]).mp decoded).1.2 '+' (by decide)) (by decide)

/-! ## Writing and reading back -/

theorem lowerHex_mem {b : UInt8} {c : Char} (h : c ∈ lowerHex b) : c ∈ lowerHexDigits := by
  have digit {n : Nat} (h : n < 16) : lowerHexDigits.getD n '?' ∈ lowerHexDigits := by
    have := show ∀ n : Fin 16, lowerHexDigits.getD n '?' ∈ lowerHexDigits by decide
    exact this ⟨n, h⟩
  have := b.toNat_lt
  rw [lowerHex, List.mem_pair] at h
  rcases h with rfl | rfl
  · exact digit (by omega)
  · exact digit (by omega)

theorem isHexDigit_of_lower (c : Char) (h : c ∈ lowerHexDigits) : IsHexDigit c := by
  have all : lowerHexDigits.all (fun c => decide (IsHexDigit c)) = true := by decide
  exact of_decide_eq_true (List.all_eq_true.mp all c h)

theorem spells_lowerHex (bytes : List UInt8) : Spells (bytes.flatMap lowerHex) bytes := by
  induction bytes with
  | nil => exact .nil
  | cons b bytes ih =>
    have := b.toNat_lt
    have whole : UInt8.ofNat (16 * (b.toNat / 16) + b.toNat % 16) = b := by
      rw [Nat.div_add_mod, UInt8.ofNat_toNat]
    have high := hexValue_hexDigit (b.toNat / 16) (by omega)
    have low := hexValue_hexDigit (b.toNat % 16) (by omega)
    rw [hexDigit_eq (by omega)] at high low
    have pair := Spells.pair high low ih
    rw [whole] at pair
    exact pair

theorem length_lowerHex (bytes : List UInt8) : (bytes.flatMap lowerHex).length = 2 * bytes.length := by
  induction bytes with
  | nil => rfl
  | cons b bytes ih =>
    rw [List.flatMap_cons, List.length_append, ih, List.length_cons, lowerHex]
    simp
    omega

theorem hexText_lowerHex (bytes : List UInt8) :
    HexText (String.ofList (bytes.flatMap lowerHex)) := by
  unfold HexText
  rw [String.toList_ofList, length_lowerHex]
  refine ⟨Nat.mul_mod_right 2 _, fun c hc => ?_⟩
  obtain ⟨b, -, hc⟩ := List.mem_flatMap.mp hc
  exact isHexDigit_of_lower c (lowerHex_mem hc)

theorem decodeHex_lowerHex (bytes : List UInt8) :
    decodeHex (String.ofList (bytes.flatMap lowerHex)) = .returned bytes := by
  rw [decodeHex_of_hexText (hexText_lowerHex bytes), String.toList_ofList]
  exact spells_lowerHex bytes

theorem hex_injective {a b : List UInt8} (h : hex a = hex b) : a = b := by
  rw [hex_eq, hex_eq, String.ofList_inj] at h
  injection h with _ h
  injection h with _ h
  have := decodeHex_lowerHex a
  rw [h, decodeHex_lowerHex b] at this
  cases this
  rfl

/-- `0x`, two lowercase digits to a byte, and these decode to the bytes: what `hex` writes for
bytes it writes for no others, nor does the parameter that holds them. -/
theorem hex_decodeHex (bytes : List UInt8) :
    (∃ digits, hex bytes = "0x" ++ String.ofList digits ∧ digits.length = 2 * bytes.length ∧
      (∀ c ∈ digits, c ∈ lowerHexDigits) ∧ decodeHex (String.ofList digits) = .returned bytes) ∧
    ∀ others, others ≠ bytes →
      hex others ≠ hex bytes ∧ (Param.bytes others).toValue ≠ (Param.bytes bytes).toValue := by
  constructor
  · refine ⟨bytes.flatMap lowerHex, ?_, length_lowerHex bytes, fun c hc => ?_, decodeHex_lowerHex bytes⟩
    · rw [hex_eq, String.ofList_cons, String.ofList_cons, ← String.append_assoc]
      rfl
    · obtain ⟨b, -, hc⟩ := List.mem_flatMap.mp hc
      exact lowerHex_mem hc
  · intro others differ
    refine ⟨fun h => differ (hex_injective h), fun h => differ ?_⟩
    simp only [Param.toValue, Option.some.injEq, Value.string.injEq] at h
    exact hex_injective h

/-! ## A fresh read

`decode_hex` serves the reads with stale-while-revalidate. -/

inductive FreshState where
  | fresh
  | stale
  | missing
  | miss
  deriving DecidableEq

structure FreshRead where
  state : FreshState
  value : Option (List UInt8)
  refresh : Bool
  lease : Bool
  retryAfterMs : Option UInt64
  deriving DecidableEq

structure FreshWire where
  state : String
  value : Option String
  valueHex : Option String
  refresh : Bool
  lease : Bool
  retryAfterMs : Option UInt64

def FreshWire.fromValue (v : Value) : Option FreshWire := do
  match ← v.structFields ["state", "value", "valueHex", "refresh", "lease", "retryAfterMs"] with
  | [state, value, valueHex, refresh, lease, retryAfterMs] =>
    some
      { state := ← Value.orDefault "" Value.asStr state
        value := ← Value.orDefault none Value.asOptionStr value
        valueHex := ← Value.orDefault none Value.asOptionStr valueHex
        refresh := ← Value.orDefault false Value.asBool refresh
        lease := ← Value.orDefault false Value.asBool lease
        retryAfterMs := ← Value.orDefault none (Value.asOption Value.asU64) retryAfterMs }
  | _ => none

def FreshState.ofName (text : String) : Except Error FreshState :=
  if text = "fresh" then .ok fresh
  else if text = "stale" then .ok stale
  else if text = "missing" then .ok missing
  else if text = "miss" then .ok miss
  else .error (Error.protocol ("GetFresh answered with the unknown state `" ++ text ++ "`"))

/-- The result of a computation that does not panic. -/
def unpanicked {α : Type} : (o : Outcome Error α) → o ≠ .panicked → Except Error α
  | .returned a, _ => .ok a
  | .failed e, _ => .error e
  | .panicked, h => absurd rfl h

theorem ofExcept_unpanicked {α : Type} (o : Outcome Error α) (h : o ≠ .panicked) :
    Outcome.ofExcept (unpanicked o h) = o := by
  cases o with
  | returned _ | failed _ => rfl
  | panicked => exact absurd rfl h

/-- A value that is UTF-8 arrives as text, any other as hex. -/
def FreshWire.bytes (wire : FreshWire) : Except Error (Option (List UInt8)) :=
  match wire.value, wire.valueHex with
  | some text, _ => .ok (some (text.toList.flatMap String.utf8EncodeChar))
  | none, some hex => (unpanicked (decodeHex hex) (decodeHex_ne_panicked hex)).map some
  | none, none => .ok none

def FreshWire.read (wire : FreshWire) : Except Error FreshRead := do
  let state ← FreshState.ofName wire.state
  let value ← wire.bytes
  pure ⟨state, value, wire.refresh, wire.lease, wire.retryAfterMs⟩

theorem decodeHex_failed {text : String} {e : Error} (h : decodeHex text = .failed e) :
    e = malformedHex := by
  by_cases read : PairsRead text.toList
  · obtain ⟨bytes, -, decoded⟩ := decodeHex_of_pairsRead read
    rw [decoded] at h
    cases h
  · rw [decodeHex_of_not_pairsRead read] at h
    cases h
    rfl

theorem FreshState.ofName_error {text : String} {e : Error} (h : ofName text = .error e) :
    ∃ message, e = Error.protocol message := by
  unfold ofName at h
  split_ifs at h
  cases h
  exact ⟨_, rfl⟩

theorem FreshWire.bytes_error {wire : FreshWire} {e : Error} (h : wire.bytes = .error e) :
    ∃ message, e = Error.protocol message := by
  unfold FreshWire.bytes at h
  split at h
  · cases h
  · rename_i hex _ _
    have decoded := ofExcept_unpanicked (decodeHex hex) (decodeHex_ne_panicked hex)
    cases result : unpanicked (decodeHex hex) (decodeHex_ne_panicked hex) with
    | ok bytes =>
      rw [result] at h
      cases h
    | error e' =>
      rw [result] at h decoded
      cases h
      exact ⟨_, decodeHex_failed decoded.symm⟩
  · cases h

theorem FreshWire.read_error {wire : FreshWire} {e : Error} (h : wire.read = .error e) :
    ∃ message, e = Error.protocol message := by
  unfold FreshWire.read at h
  cases named : FreshState.ofName wire.state with
  | error e' =>
    rw [named] at h
    cases h
    exact FreshState.ofName_error named
  | ok state =>
    rw [named] at h
    cases held : wire.bytes with
    | error e' =>
      rw [held] at h
      cases h
      exact FreshWire.bytes_error held
    | ok value =>
      rw [held] at h
      cases h

section

variable {ω : Type} (H : Host ω)

def cacheGetFresh (space key owner : String) (lease : Duration) : TypedMethod FreshRead where
  op := .ok (cacheOp "GetFresh" (nsKey space key ++
    [("owner", .string owner), ("lease_ms", .ofI64 (Cache.millis lease))]))
  decode r := (r.decode (H.serde.mismatch "cache_get_fresh::Wire") FreshWire.fromValue "GetFresh").bind
    FreshWire.read
  refused := TypedMethod.unrefused _
  misread r e h := by
    cases decoded : r.decode (H.serde.mismatch "cache_get_fresh::Wire") FreshWire.fromValue "GetFresh" with
    | error e' =>
      rw [decoded] at h
      cases h
      exact Response.decode_misread decoded
    | ok wire =>
      rw [decoded] at h
      exact FreshWire.read_error h

end

theorem FreshWire.bytes_hex {wire : FreshWire} (untold : wire.value = none) {bytes : List UInt8}
    (told : wire.valueHex = some (String.ofList (bytes.flatMap lowerHex))) :
    wire.bytes = .ok (some bytes) := by
  simp only [FreshWire.bytes, untold, told, decodeHex_lowerHex bytes]
  rfl

end TricoreSdk
