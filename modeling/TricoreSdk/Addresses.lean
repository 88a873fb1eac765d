import TricoreSdk.Client
import TricoreSdk.Lib.Numerals
import TricoreSdk.PlainDecimal

/-! The addresses of servers as text (`split_address` and `join_address` of `client.rs`), and
which of them have one spelling. -/

namespace TricoreSdk

/-! ## Ports -/

structure PortDigits (text : List Char) : Prop where
  digits : Digits text
  filled : text ≠ []
  leading : text.head? ≠ some '0'

theorem digit_bounds {c : Char} (h : c.isDigit = true) : 48 ≤ c.toNat ∧ c.toNat ≤ 57 := by
  simp only [Char.isDigit, Bool.and_eq_true, decide_eq_true_eq, ge_iff_le, UInt32.le_iff_toNat_le] at h
  exact h

theorem digitChar_digit {c : Char} (h : c.isDigit = true) : Nat.digitChar (c.toNat - 48) = c := by
  have := digit_bounds h
  apply Char.toNat_inj.mp
  rw [Nat.toNat_digitChar_of_lt_ten (by omega)]
  omega

theorem digitsValue_eq (digits : List Char) : digitsValue digits = Nat.ofDigitChars 10 digits 0 := by
  simp only [digitsValue, Nat.ofDigitChars, Nat.mul_comm]

theorem toDigits_ofDigitChars {digits : List Char} (h : Digits digits) {n : Nat} (hn : 0 < n) :
    Nat.toDigits 10 (Nat.ofDigitChars 10 digits n) = Nat.toDigits 10 n ++ digits := by
  induction digits generalizing n with
  | nil => rw [Nat.ofDigitChars_nil, List.append_nil]
  | cons c digits ih =>
    have digit := h c List.mem_cons_self
    have bounds := digit_bounds digit
    have value : c.toNat - 48 < 10 := by omega
    rw [Nat.ofDigitChars_cons]
    change Nat.toDigits 10 (Nat.ofDigitChars 10 digits (10 * n + (c.toNat - 48))) = _
    rw [ih (fun c hc => h c (List.mem_cons_of_mem _ hc)) (by omega),
      ← Nat.toDigits_append_toDigits (by decide) hn value, Nat.toDigits_of_lt_base value,
      digitChar_digit digit, List.append_assoc, List.singleton_append]

theorem toDigits_digitsValue {digits : List Char} (h : PortDigits digits) :
    Nat.toDigits 10 (digitsValue digits) = digits := by
  obtain ⟨all, filled, leading⟩ := h
  obtain ⟨c, rest, rfl⟩ := List.exists_cons_of_ne_nil filled
  have digit := all c List.mem_cons_self
  have bounds := digit_bounds digit
  have value : c.toNat - 48 < 10 := by omega
  have positive : 0 < c.toNat - 48 := by
    by_contra zero
    have : c = '0' := Char.toNat_inj.mp (by simp; omega)
    exact leading (by rw [this]; rfl)
  rw [digitsValue_eq, Nat.ofDigitChars_cons]
  change Nat.toDigits 10 (Nat.ofDigitChars 10 rest (10 * 0 + (c.toNat - 48))) = _
  rw [Nat.mul_zero, Nat.zero_add, toDigits_ofDigitChars
      (fun c hc => all c (List.mem_cons_of_mem _ hc)) positive,
    Nat.toDigits_of_lt_base value, digitChar_digit digit, List.singleton_append]

theorem portDigits_toDigits {n : Nat} (h : n ≠ 0) : PortDigits (Nat.toDigits 10 n) := by
  refine ⟨toDigits_isDigit n, Nat.toDigits_ne_nil, ?_⟩
  induction n using Nat.base_induction 10 (by decide) with
  | single d hd =>
    have digit : ∀ d : Fin 10, d.val ≠ 0 → d.val.digitChar ≠ '0' := by decide
    rw [Nat.toDigits_of_lt_base hd, List.head?_cons]
    exact fun zero => digit ⟨d, hd⟩ h (Option.some.inj zero)
  | digit n d hd hn ih =>
    rw [Numerals.toDigits_digit (by decide) hn hd, List.head?_append_of_ne_nil _ Nat.toDigits_ne_nil]
    exact ih (Nat.ne_of_gt hn)

theorem toList_port (port : UInt16) : (toString port).toList = Nat.toDigits 10 port.toNat :=
  String.toList_ofList

theorem parseU16_toDigits (port : UInt16) : parseU16 (Nat.toDigits 10 port.toNat) = some port := by
  have all := toDigits_isDigit port.toNat
  have filled : Nat.toDigits 10 port.toNat ≠ [] := Nat.toDigits_ne_nil
  have unsigned : '+' ∉ Nat.toDigits 10 port.toNat := fun plus => by cases all '+' plus
  have value : digitsValue (Nat.toDigits 10 port.toNat) = port.toNat := by
    rw [digitsValue_eq, Nat.ofDigitChars_ten_toDigits]
  have fits := port.toNat_lt
  generalize Nat.toDigits 10 port.toNat = text at *
  unfold parseU16
  split
  · exact absurd List.mem_cons_self unsigned
  · simp [filled, List.all_eq_true.mpr all, value, fits]

theorem parseU16_eq_some {text : List Char} {port : UInt16} (h : parseU16 text = some port) :
    ∃ digits, (text = digits ∨ text = '+' :: digits) ∧ Digits digits ∧ digits ≠ [] ∧
      digitsValue digits = port.toNat := by
  have read {digits : List Char}
      (h : (if digits.isEmpty || !digits.all Char.isDigit then none
        else if digitsValue digits < 65536 then some (UInt16.ofNat (digitsValue digits))
        else none) = some port) :
      Digits digits ∧ digits ≠ [] ∧ digitsValue digits = port.toNat := by
    split_ifs at h with odd fits
    cases h
    simp only [Bool.or_eq_true, Bool.not_eq_true', not_or, Bool.not_eq_false, List.isEmpty_iff] at odd
    exact ⟨digits_iff.mp odd.2, odd.1, (UInt16.toNat_ofNat_of_lt' fits).symm⟩
  unfold parseU16 at h
  split at h
  · rename_i rest
    exact ⟨rest, .inr rfl, read h⟩
  · exact ⟨text, .inl rfl, read h⟩

/-! ## Hosts -/

theorem rsplitOnce_append {c : Char} (front : List Char) {back : List Char} (h : c ∉ back) :
    rsplitOnce c (front ++ c :: back) = some (front, back) := by
  have reversed : (front ++ c :: back).reverse = back.reverse ++ c :: front.reverse := by simp
  rw [rsplitOnce, reversed, splitOnce_append (by simpa using h)]
  simp

theorem rsplitOnce_eq_some {c : Char} {text front back : List Char}
    (h : rsplitOnce c text = some (front, back)) : text = front ++ c :: back ∧ c ∉ back := by
  obtain ⟨⟨last, first⟩, split, parts⟩ := Option.map_eq_some_iff.mp h
  cases parts
  obtain ⟨reversed, clean⟩ := splitOnce_eq_some split
  refine ⟨?_, by simpa using clean⟩
  rw [← List.reverse_reverse text, reversed]
  simp

theorem last_inj {c : Char} {front front' back back' : List Char} (h : c ∉ back) (h' : c ∉ back')
    (same : front ++ c :: back = front' ++ c :: back') : front = front' ∧ back = back' := by
  have split := rsplitOnce_append front h
  rw [same, rsplitOnce_append front' h'] at split
  cases split
  exact ⟨rfl, rfl⟩

theorem splitBracket_append {front : List Char} (h : ']' ∉ front) (back : List Char) :
    splitBracket (front ++ ']' :: ':' :: back) = some (front, back) := by
  induction front with
  | nil => rfl
  | cons c front ih =>
    rw [List.mem_cons, not_or] at h
    obtain ⟨ne, h⟩ := h
    rw [List.cons_append, splitBracket, ih h]
    · rfl
    · exact fun rest here _ => ne here.symm

theorem splitBracket_eq_some {text front back : List Char} (h : splitBracket text = some (front, back)) :
    text = front ++ ']' :: ':' :: back := by
  fun_induction splitBracket text generalizing front with
  | case1 => cases h
  | case2 rest =>
    cases h
    rfl
  | case3 c rest _ ih =>
    obtain ⟨⟨front', back'⟩, split, parts⟩ := Option.map_eq_some_iff.mp h
    cases parts
    rw [ih split]
    rfl

/-! ## Addresses -/

/-- An address as far as it is split before its port is read. -/
def hostAndPort : List Char → Option (List Char × List Char)
  | '[' :: rest => splitBracket rest
  | text => rsplitOnce ':' text

theorem hostAndPort_eq {text : List Char} (h : text.head? ≠ some '[') :
    hostAndPort text = rsplitOnce ':' text := by
  unfold hostAndPort
  split
  · exact absurd rfl h
  · rfl

theorem splitAddress_eq_some_iff {a host : String} {port : UInt16} :
    splitAddress a = some (host, port) ↔ ∃ front back, hostAndPort a.toList = some (front, back) ∧
      parseU16 back = some port ∧ front ≠ [] ∧ port ≠ 0 ∧ host = String.ofList front := by
  have run : splitAddress a = (hostAndPort a.toList).bind fun parts =>
      (parseU16 parts.2).bind fun port =>
        if !parts.1.isEmpty && port != 0 then some (String.ofList parts.1, port) else none := by
    unfold splitAddress
    split
    · rename_i rest held
      rw [held]
      rfl
    · rename_i unbracketed
      rw [hostAndPort_eq fun bracket => ?_]
      · rfl
      · obtain ⟨rest, held⟩ := List.head?_eq_some_iff.mp bracket
        exact unbracketed rest held
  rw [run]
  simp only [Option.bind_eq_some_iff, Prod.exists]
  constructor
  · rintro ⟨front, back, split, port', read, proper⟩
    split_ifs at proper with filled
    cases proper
    simp only [Bool.and_eq_true, Bool.not_eq_true', List.isEmpty_eq_false_iff, bne_iff_ne] at filled
    exact ⟨front, back, split, read, filled.1, filled.2, rfl⟩
  · rintro ⟨front, back, split, read, named, port_ne, rfl⟩
    exact ⟨front, back, split, port, read, by simp [named, port_ne]⟩

structure AddressParts (a host : String) (port : UInt16) where
  portText : List Char
  digits : List Char
  shape : a.toList = '[' :: (host.toList ++ ']' :: ':' :: portText) ∨
    (a.toList = host.toList ++ ':' :: portText ∧ host.toList.head? ≠ some '[')
  signed : portText = digits ∨ portText = '+' :: digits
  decimal : Digits digits
  filled : digits ≠ []
  value : digitsValue digits = port.toNat
  port_ne : port ≠ 0

theorem AddressParts.no_colon {a host : String} {port : UInt16} (h : AddressParts a host port) :
    ':' ∉ h.portText := by
  have unpointed : ':' ∉ h.digits := fun colon => by cases h.decimal ':' colon
  rcases h.signed with same | same
  · exact same ▸ unpointed
  · rw [same, List.mem_cons, not_or]
    exact ⟨by decide, unpointed⟩

theorem addressParts {a host : String} {port : UInt16} (h : splitAddress a = some (host, port)) :
    Nonempty (AddressParts a host port) := by
  obtain ⟨front, back, split, read, named, port_ne, rfl⟩ := splitAddress_eq_some_iff.mp h
  obtain ⟨digits, signed, decimal, filled, value⟩ := parseU16_eq_some read
  refine ⟨back, digits, ?_, signed, decimal, filled, value, port_ne⟩
  rw [String.toList_ofList]
  by_cases bracket : a.toList.head? = some '['
  · obtain ⟨rest, held⟩ := List.head?_eq_some_iff.mp bracket
    rw [held] at split ⊢
    exact .inl (by rw [splitBracket_eq_some split])
  · rw [hostAndPort_eq bracket] at split
    obtain ⟨whole, -⟩ := rsplitOnce_eq_some split
    rw [whole, List.head?_append_of_ne_nil _ named] at bracket
    exact .inr ⟨whole, bracket⟩

/-! ## Joining and splitting -/

theorem toList_joinAddress (host : String) (port : UInt16) :
    (joinAddress host port).toList =
      if ':' ∈ host.toList then '[' :: (host.toList ++ ']' :: ':' :: Nat.toDigits 10 port.toNat)
      else host.toList ++ ':' :: Nat.toDigits 10 port.toNat := by
  unfold joinAddress
  split <;> simp [toList_port]

/-- A host that is no name in brackets: it is not empty and has no bracket. -/
structure PlainHost (host : String) : Prop where
  named : host ≠ ""
  opened : '[' ∉ host.toList
  closed : ']' ∉ host.toList

theorem splitAddress_joinAddress {host : String} {port : UInt16} (plain : PlainHost host)
    (port_ne : port ≠ 0) : splitAddress (joinAddress host port) = some (host, port) := by
  have named : host.toList ≠ [] := by simpa using plain.named
  have unpointed : ':' ∉ Nat.toDigits 10 port.toNat :=
    fun colon => by cases toDigits_isDigit _ ':' colon
  refine splitAddress_eq_some_iff.mpr
    ⟨host.toList, _, ?_, parseU16_toDigits port, named, port_ne, by rw [String.ofList_toList]⟩
  rw [toList_joinAddress]
  split
  · exact splitBracket_append plain.closed _
  · rw [hostAndPort_eq, rsplitOnce_append _ unpointed]
    rw [List.head?_append_of_ne_nil _ named]
    exact fun bracket => plain.opened (List.mem_of_mem_head? bracket)

/-! ## One spelling -/

/-- An address with a host in brackets exactly if there is a colon in it, and a port of digits
alone, the first not a zero. -/
inductive PlainAddress : List Char → Prop
  | named (host digits : List Char) (unpointed : ':' ∉ host) (unbracketed : host.head? ≠ some '[')
    (port : PortDigits digits) : PlainAddress (host ++ ':' :: digits)
  | bracketed (host digits : List Char) (pointed : ':' ∈ host) (port : PortDigits digits) :
    PlainAddress ('[' :: (host ++ ']' :: ':' :: digits))

theorem plainAddress_joinAddress {host : String} {port : UInt16} (port_ne : port ≠ 0)
    (unbracketed : ':' ∉ host.toList → host.toList.head? ≠ some '[') :
    PlainAddress (joinAddress host port).toList := by
  have digits := portDigits_toDigits fun zero : port.toNat = 0 => port_ne (UInt16.toNat_inj.mp zero)
  rw [toList_joinAddress]
  split
  · exact .bracketed _ _ ‹_› digits
  · exact .named _ _ ‹_› (unbracketed ‹_›) digits

theorem PortDigits.no_colon {digits : List Char} (h : PortDigits digits) : ':' ∉ digits :=
  fun colon => by cases h.digits ':' colon

theorem bracket_end (host rest : List Char) :
    '[' :: (host ++ ']' :: ':' :: rest) = ('[' :: (host ++ [']'])) ++ ':' :: rest := by simp

theorem AddressParts.port_eq {a host : String} {port : UInt16} (h : AddressParts a host port)
    (plain : PortDigits h.portText) : Nat.toDigits 10 port.toNat = h.portText := by
  rcases h.signed with same | same
  · rw [← h.value, ← same, toDigits_digitsValue plain]
  · have plus := plain.digits '+' (same ▸ List.mem_cons_self)
    cases plus

/-- Of the texts that are read as an address, those in its one spelling are what is written. -/
theorem joinAddress_eq_iff {a host : String} {port : UInt16} (h : splitAddress a = some (host, port)) :
    joinAddress host port = a ↔ PlainAddress a.toList := by
  obtain ⟨parts⟩ := addressParts h
  constructor
  · intro same
    rw [← same]
    refine plainAddress_joinAddress parts.port_ne fun unpointed => ?_
    rcases parts.shape with bracketed | ⟨-, unbracketed⟩
    · have whole := congrArg String.toList same
      rw [toList_joinAddress, if_neg unpointed, bracketed, bracket_end] at whole
      have digits : ':' ∉ Nat.toDigits 10 port.toNat :=
        fun colon => by cases toDigits_isDigit _ ':' colon
      have longer := congrArg List.length (last_inj digits parts.no_colon whole).1
      simp only [List.length_cons, List.length_append, List.length_nil] at longer
      omega
    · exact unbracketed
  · intro plain
    rw [← String.toList_inj, toList_joinAddress]
    have shape := parts.shape
    generalize a.toList = text at plain shape
    cases plain with
    | named front digits unpointed unbracketed port =>
      rcases shape with bracketed | ⟨whole, -⟩
      · rw [bracket_end] at bracketed
        rw [(last_inj port.no_colon parts.no_colon bracketed).1] at unbracketed
        exact absurd rfl unbracketed
      · obtain ⟨rfl, same⟩ := last_inj port.no_colon parts.no_colon whole
        rw [if_neg unpointed, parts.port_eq (same ▸ port), same]
    | bracketed inside digits pointed port =>
      rcases shape with bracketed | ⟨whole, unbracketed⟩
      · rw [bracket_end, bracket_end] at bracketed
        obtain ⟨front, same⟩ := last_inj port.no_colon parts.no_colon bracketed
        obtain rfl : inside = host.toList := by simpa using front
        rw [if_pos pointed, parts.port_eq (same ▸ port), same]
      · rw [bracket_end] at whole
        rw [← (last_inj port.no_colon parts.no_colon whole).1] at unbracketed
        exact absurd rfl unbracketed

end TricoreSdk
