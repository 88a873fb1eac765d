import Mathlib.Data.List.Basic
import Mathlib.Tactic.Common

/-! JSON texts: a document tree whose numbers keep their spelling, the compact
text of a document, and a reader of such texts. `readText_text` says that the
text determines the document: what a peer reads is what was written. -/

namespace JsonText

inductive Doc where
  | null
  | bool (b : Bool)
  | num (token : List Char)
  | str (s : String)
  | arr (items : List Doc)
  | obj (members : List (String × Doc))

/-! ## Writing -/

def hexDigit (n : Nat) : Char :=
  if n < 10 then Char.ofNat ('0'.toNat + n) else Char.ofNat ('a'.toNat + (n - 10))

/-- The shortest escape, `\u00XX` for the other control characters, and every
remaining character as itself. -/
def escapeChar (c : Char) : List Char :=
  if c = '\x22' then ['\x5c', '\x22']
  else if c = '\x5c' then ['\x5c', '\x5c']
  else if c = '\x08' then ['\x5c', 'b']
  else if c = '\x0c' then ['\x5c', 'f']
  else if c = '\x0a' then ['\x5c', 'n']
  else if c = '\x0d' then ['\x5c', 'r']
  else if c = '\x09' then ['\x5c', 't']
  else if c.toNat < 32 then
    ['\x5c', 'u', '0', '0', hexDigit (c.toNat / 16), hexDigit (c.toNat % 16)]
  else [c]

def quote (s : String) : List Char := '\x22' :: (s.toList.flatMap escapeChar ++ ['\x22'])

/-- The elements after the first, each behind a comma, and the closing bracket. -/
def tailText {α : Type} (close : Char) (item : α → List Char) : List α → List Char
  | [] => [close]
  | x :: xs => ',' :: (item x ++ tailText close item xs)

def listText {α : Type} (close : Char) (item : α → List Char) : List α → List Char
  | [] => [close]
  | x :: xs => item x ++ tailText close item xs

mutual

def Doc.text : Doc → List Char
  | .null => ['n', 'u', 'l', 'l']
  | .bool true => ['t', 'r', 'u', 'e']
  | .bool false => ['f', 'a', 'l', 's', 'e']
  | .num token => token
  | .str s => quote s
  | .arr [] => ['\x5b', '\x5d']
  | .arr (x :: xs) => '\x5b' :: (x.text ++ itemsText xs)
  | .obj [] => ['\x7b', '\x7d']
  | .obj ((k, v) :: ms) => '\x7b' :: ((quote k ++ ':' :: v.text) ++ membersText ms)

def itemsText : List Doc → List Char
  | [] => ['\x5d']
  | x :: xs => ',' :: (x.text ++ itemsText xs)

def membersText : List (String × Doc) → List Char
  | [] => ['\x7d']
  | (k, v) :: ms => ',' :: ((quote k ++ ':' :: v.text) ++ membersText ms)

end

def memberText (m : String × Doc) : List Char := quote m.1 ++ ':' :: m.2.text

theorem itemsText_eq (xs : List Doc) : itemsText xs = tailText '\x5d' Doc.text xs := by
  induction xs with
  | nil => rw [itemsText, tailText]
  | cons x xs ih => rw [itemsText, tailText, ih]

theorem membersText_eq (ms : List (String × Doc)) :
    membersText ms = tailText '\x7d' memberText ms := by
  induction ms with
  | nil => rw [membersText, tailText]
  | cons m ms ih => rw [membersText, tailText, ih, memberText]

theorem text_arr (xs : List Doc) :
    (Doc.arr xs).text = '\x5b' :: listText '\x5d' Doc.text xs := by
  cases xs with
  | nil => rw [Doc.text, listText]
  | cons x xs => rw [Doc.text, listText, itemsText_eq]

theorem text_obj (ms : List (String × Doc)) :
    (Doc.obj ms).text = '\x7b' :: listText '\x7d' memberText ms := by
  cases ms with
  | nil => rw [Doc.text, listText]
  | cons m ms => rw [Doc.text, listText, membersText_eq, memberText]

/-! ## Reading -/

def hexValue (c : Char) : Option Nat :=
  if '0' ≤ c ∧ c ≤ '9' then some (c.toNat - '0'.toNat)
  else if 'a' ≤ c ∧ c ≤ 'f' then some (c.toNat - 'a'.toNat + 10)
  else if 'A' ≤ c ∧ c ≤ 'F' then some (c.toNat - 'A'.toNat + 10)
  else none

/-- The character of a `\uXXXX` escape outside the surrogate range. -/
def unicodeEscape (a b c d : Char) : Option Char := do
  let n := (← hexValue a) * 4096 + (← hexValue b) * 256 + (← hexValue c) * 16 + (← hexValue d)
  if n < 0xd800 ∨ 0xdfff < n then some (Char.ofNat n) else none

/-- The rest of a string after its opening quote. -/
def readString : List Char → Option (List Char × List Char)
  | [] => none
  | '\x22' :: rest => some ([], rest)
  | '\x5c' :: 'u' :: a :: b :: c :: d :: rest =>
    match unicodeEscape a b c d with
    | some x => (readString rest).map fun p => (x :: p.1, p.2)
    | none => none
  | '\x5c' :: '\x22' :: rest => (readString rest).map fun p => ('\x22' :: p.1, p.2)
  | '\x5c' :: '\x5c' :: rest => (readString rest).map fun p => ('\x5c' :: p.1, p.2)
  | '\x5c' :: '/' :: rest => (readString rest).map fun p => ('/' :: p.1, p.2)
  | '\x5c' :: 'b' :: rest => (readString rest).map fun p => ('\x08' :: p.1, p.2)
  | '\x5c' :: 'f' :: rest => (readString rest).map fun p => ('\x0c' :: p.1, p.2)
  | '\x5c' :: 'n' :: rest => (readString rest).map fun p => ('\x0a' :: p.1, p.2)
  | '\x5c' :: 'r' :: rest => (readString rest).map fun p => ('\x0d' :: p.1, p.2)
  | '\x5c' :: 't' :: rest => (readString rest).map fun p => ('\x09' :: p.1, p.2)
  | '\x5c' :: _ => none
  | c :: rest => if c.toNat < 32 then none else (readString rest).map fun p => (c :: p.1, p.2)

def isNumberChar (c : Char) : Bool :=
  c.isDigit || c == '-' || c == '+' || c == '.' || c == 'e' || c == 'E'

def readTail {α : Type} (item : List Char → Option (α × List Char)) (close : Char) :
    Nat → List Char → Option (List α × List Char)
  | n + 1, c :: cs =>
    if c = close then some ([], cs)
    else if c = ',' then
      match item cs with
      | some (x, cs) => (readTail item close n cs).map fun p => (x :: p.1, p.2)
      | none => none
    else none
  | _, _ => none

def readList {α : Type} (item : List Char → Option (α × List Char)) (close : Char) (n : Nat)
    (cs : List Char) : Option (List α × List Char) :=
  if cs.head? = some close then some ([], cs.tail)
  else
    match item cs with
    | some (x, cs) => (readTail item close n cs).map fun p => (x :: p.1, p.2)
    | none => none

def readMember (value : List Char → Option (Doc × List Char)) :
    List Char → Option ((String × Doc) × List Char)
  | '\x22' :: cs =>
    match readString cs with
    | some (k, ':' :: cs) => (value cs).map fun p => ((String.ofList k, p.1), p.2)
    | _ => none
  | _ => none

def read : Nat → List Char → Option (Doc × List Char)
  | 0, _ => none
  | _ + 1, 'n' :: 'u' :: 'l' :: 'l' :: cs => some (.null, cs)
  | _ + 1, 't' :: 'r' :: 'u' :: 'e' :: cs => some (.bool true, cs)
  | _ + 1, 'f' :: 'a' :: 'l' :: 's' :: 'e' :: cs => some (.bool false, cs)
  | _ + 1, '\x22' :: cs => (readString cs).map fun p => (.str (String.ofList p.1), p.2)
  | n + 1, '\x5b' :: cs => (readList (read n) '\x5d' n cs).map fun p => (.arr p.1, p.2)
  | n + 1, '\x7b' :: cs =>
    (readList (readMember (read n)) '\x7d' n cs).map fun p => (.obj p.1, p.2)
  | _ + 1, c :: cs =>
    if c = '-' ∨ c.isDigit then
      some (.num ((c :: cs).takeWhile isNumberChar), (c :: cs).dropWhile isNumberChar)
    else none
  | _ + 1, [] => none

def readText (cs : List Char) : Option Doc :=
  match read cs.length cs with
  | some (d, []) => some d
  | _ => none

/-! ## Reading inverts writing -/

/-- A spelling of a number: number characters behind a sign or a digit. -/
structure IsToken (t : List Char) : Prop where
  head : ∃ c cs, t = c :: cs ∧ (c = '-' ∨ c.isDigit = true)
  chars : ∀ c ∈ t, isNumberChar c = true

/-- Every number in the document is spelled by a token. -/
inductive WellFormed : Doc → Prop
  | null : WellFormed .null
  | bool (b : Bool) : WellFormed (.bool b)
  | num {token : List Char} : IsToken token → WellFormed (.num token)
  | str (s : String) : WellFormed (.str s)
  | arr {items : List Doc} : (∀ x ∈ items, WellFormed x) → WellFormed (.arr items)
  | obj {members : List (String × Doc)} :
      (∀ m ∈ members, WellFormed m.2) → WellFormed (.obj members)

/-- A continuation that cannot prolong a number. -/
def Ends (rest : List Char) : Prop := ∀ c ∈ rest.head?, isNumberChar c = false

theorem ends_nil : Ends [] := by simp [Ends]

theorem ends_tailText {α : Type} {close : Char} (hclose : isNumberChar close = false)
    (item : α → List Char) (xs : List α) (rest : List Char) :
    Ends (tailText close item xs ++ rest) := by
  cases xs with
  | nil => simpa [Ends, tailText] using hclose
  | cons x xs => simp [Ends, tailText, isNumberChar, Char.isDigit]

theorem hexValue_hexDigit : ∀ n, n < 16 → hexValue (hexDigit n) = some n := by decide

theorem unicodeEscape_control {c : Char} (h : c.toNat < 32) :
    unicodeEscape '0' '0' (hexDigit (c.toNat / 16)) (hexDigit (c.toNat % 16)) = some c := by
  have high := hexValue_hexDigit (c.toNat / 16) (by omega)
  have low := hexValue_hexDigit (c.toNat % 16) (by omega)
  have zero : hexValue '0' = some 0 := by decide
  have value : c.toNat / 16 * 16 + c.toNat % 16 = c.toNat := by omega
  simp only [unicodeEscape, zero, high, low, Option.bind_eq_bind, Option.bind_some, Nat.zero_mul,
    Nat.zero_add, value]
  rw [if_pos (by omega), Char.ofNat_toNat]

theorem readString_escapeChar (c : Char) (cs : List Char) :
    readString (escapeChar c ++ cs) = (readString cs).map fun p => (c :: p.1, p.2) := by
  unfold escapeChar
  split_ifs with h1 h2 h3 h4 h5 h6 h7 h8
  · subst h1; rfl
  · subst h2; rfl
  · subst h3; rfl
  · subst h4; rfl
  · subst h5; rfl
  · subst h6; rfl
  · subst h7; rfl
  · simp only [List.cons_append, List.nil_append, readString, unicodeEscape_control h8]
  · simp only [List.cons_append, List.nil_append]
    rw [readString.eq_def]
    split
    case h_13 heq =>
      obtain ⟨rfl, rfl⟩ := List.cons.inj heq
      rw [if_neg h8]
    all_goals simp_all

theorem readString_quoted (cs rest : List Char) :
    readString (cs.flatMap escapeChar ++ '\x22' :: rest) = some (cs, rest) := by
  induction cs with
  | nil => rfl
  | cons c cs ih =>
    rw [List.flatMap_cons, List.append_assoc, readString_escapeChar, ih]
    rfl

theorem takeWhile_token {t rest : List Char} (h : IsToken t) (hrest : Ends rest) :
    (t ++ rest).takeWhile isNumberChar = t ∧ (t ++ rest).dropWhile isNumberChar = rest := by
  have stop : rest.takeWhile isNumberChar = [] ∧ rest.dropWhile isNumberChar = rest := by
    cases rest with
    | nil => simp
    | cons c cs =>
      have hc := hrest c (by simp)
      simp [hc]
  rw [List.takeWhile_append_of_pos h.chars, List.dropWhile_append_of_pos h.chars, stop.1, stop.2]
  simp

theorem readTail_tailText {α : Type} {item : List Char → Option (α × List Char)}
    {write : α → List Char} {close : Char} (hclose : isNumberChar close = false)
    (hcomma : close ≠ ',') {xs : List α} {n : Nat} {rest : List Char}
    (inverts : ∀ x ∈ xs, ∀ r, Ends r → item (write x ++ r) = some (x, r))
    (fuel : xs.length < n) :
    readTail item close n (tailText close write xs ++ rest) = some (xs, rest) := by
  induction xs generalizing n with
  | nil =>
    obtain ⟨n, rfl⟩ : ∃ k, n = k + 1 := ⟨n - 1, by simp at fuel; omega⟩
    simp [tailText, readTail]
  | cons x xs ih =>
    simp only [List.length_cons] at fuel
    obtain ⟨n, rfl⟩ : ∃ k, n = k + 1 := ⟨n - 1, by omega⟩
    have first := inverts x (by simp) (tailText close write xs ++ rest)
      (ends_tailText hclose write xs rest)
    have others := ih (n := n) (fun y hy => inverts y (by simp [hy])) (by omega)
    simp only [tailText, List.cons_append, List.append_assoc, readTail, first, others,
      if_neg hcomma.symm, if_true, Option.map_some]

theorem readList_listText {α : Type} {item : List Char → Option (α × List Char)}
    {write : α → List Char} {close : Char} (hclose : isNumberChar close = false)
    (hcomma : close ≠ ',') {xs : List α} {n : Nat} {rest : List Char}
    (inverts : ∀ x ∈ xs, ∀ r, Ends r → item (write x ++ r) = some (x, r))
    (opens : ∀ x ∈ xs, ∀ r, (write x ++ r).head? ≠ some close)
    (fuel : xs.length ≤ n) :
    readList item close n (listText close write xs ++ rest) = some (xs, rest) := by
  cases xs with
  | nil => simp [listText, readList]
  | cons x xs =>
    simp only [List.length_cons] at fuel
    have first := inverts x (by simp) (tailText close write xs ++ rest)
      (ends_tailText hclose write xs rest)
    have others : readTail item close n (tailText close write xs ++ rest) = some (xs, rest) :=
      readTail_tailText hclose hcomma (fun y hy => inverts y (by simp [hy])) (by omega)
    simp only [listText, List.append_assoc, readList, if_neg (opens x (by simp) _), first, others,
      Option.map_some]

theorem length_tailText {α : Type} (close : Char) (write : α → List Char) (xs : List α) :
    xs.length < (tailText close write xs).length ∧
      ∀ x ∈ xs, (write x).length < (tailText close write xs).length := by
  induction xs with
  | nil => simp [tailText]
  | cons x xs ih =>
    simp only [tailText, List.length_cons, List.length_append, List.mem_cons]
    refine ⟨by omega, ?_⟩
    rintro y (rfl | hy)
    · omega
    · have := ih.2 y hy
      omega

theorem length_listText {α : Type} (close : Char) (write : α → List Char) (xs : List α) :
    xs.length ≤ (listText close write xs).length ∧
      ∀ x ∈ xs, (write x).length ≤ (listText close write xs).length := by
  cases xs with
  | nil => simp [listText]
  | cons x xs =>
    obtain ⟨count, bound⟩ := length_tailText close write xs
    simp only [listText, List.length_cons, List.length_append, List.mem_cons]
    refine ⟨by omega, ?_⟩
    rintro y (rfl | hy)
    · omega
    · have := bound y hy
      omega

theorem head_ne_close {d : Doc} (h : WellFormed d) (r : List Char) :
    (d.text ++ r).head? ≠ some '\x5d' := by
  cases h with
  | null => simp [Doc.text]
  | bool b => cases b <;> simp [Doc.text]
  | num ht =>
    obtain ⟨c, cs, rfl, hc⟩ := ht.head
    rcases hc with rfl | hc
    · simp [Doc.text]
    · rw [Doc.text]
      rintro h
      simp only [List.cons_append, List.head?_cons, Option.some.injEq] at h
      subst h
      exact absurd hc (by decide)
  | str s => simp [Doc.text, quote]
  | arr _ => simp [text_arr]
  | obj _ => simp [text_obj]

theorem digit_cases {c : Char} (h : c = '-' ∨ c.isDigit = true) :
    c ≠ 'n' ∧ c ≠ 't' ∧ c ≠ 'f' ∧ c ≠ '\x22' ∧ c ≠ '\x5b' ∧ c ≠ '\x7b' := by
  rcases h with rfl | h
  · decide
  · refine ⟨?_, ?_, ?_, ?_, ?_, ?_⟩ <;> (rintro rfl; exact absurd h (by decide))

theorem read_text (n : Nat) (d : Doc) (rest : List Char) (hd : WellFormed d)
    (hrest : Ends rest) (fuel : d.text.length ≤ n) :
    read n (d.text ++ rest) = some (d, rest) := by
  induction n generalizing d rest with
  | zero =>
    exfalso
    cases hd with
    | null => simp [Doc.text] at fuel
    | bool b => cases b <;> simp [Doc.text] at fuel
    | num ht =>
      obtain ⟨c, cs, rfl, -⟩ := ht.head
      simp [Doc.text] at fuel
    | str s => simp [Doc.text, quote] at fuel
    | arr _ => simp [text_arr] at fuel
    | obj _ => simp [text_obj] at fuel
  | succ n ih =>
    cases hd with
    | null => rfl
    | bool b => cases b <;> rfl
    | num ht =>
      obtain ⟨whole, remains⟩ := takeWhile_token ht hrest
      obtain ⟨c, cs, rfl, hc⟩ := ht.head
      obtain ⟨h1, h2, h3, h4, h5, h6⟩ := digit_cases hc
      rw [Doc.text]
      simp only [List.cons_append] at whole remains ⊢
      rw [read.eq_def]
      split <;> simp_all
      exact hc.resolve_left
    | str s =>
      have body := readString_quoted s.toList rest
      rw [Doc.text, quote, List.cons_append, List.append_assoc, List.cons_append,
        List.nil_append, read, body]
      simp
    | @arr xs hxs =>
      rw [text_arr] at fuel ⊢
      simp only [List.length_cons] at fuel
      obtain ⟨count, bound⟩ := length_listText '\x5d' Doc.text xs
      have items : readList (read n) '\x5d' n (listText '\x5d' Doc.text xs ++ rest) =
          some (xs, rest) := by
        refine readList_listText (by decide) (by decide) ?_ ?_ (by omega)
        · intro x hx r hr
          have := bound x hx
          exact ih x r (hxs x hx) hr (by omega)
        · exact fun x hx r => head_ne_close (hxs x hx) r
      rw [List.cons_append, read, items]
      rfl
    | @obj ms hms =>
      rw [text_obj] at fuel ⊢
      simp only [List.length_cons] at fuel
      obtain ⟨count, bound⟩ := length_listText '\x7d' memberText ms
      have members : readList (readMember (read n)) '\x7d' n
          (listText '\x7d' memberText ms ++ rest) = some (ms, rest) := by
        refine readList_listText (by decide) (by decide) ?_ ?_ (by omega)
        · intro m hm r hr
          have hlen := bound m hm
          simp only [memberText, List.length_append, List.length_cons] at hlen
          have value := ih m.2 r (hms m hm) hr (by omega)
          have key := readString_quoted m.1.toList (':' :: (m.2.text ++ r))
          simp only [memberText, quote, List.cons_append, List.append_assoc, List.nil_append,
            readMember, key, value, Option.map_some, String.ofList_toList]
        · intro m _ r
          simp [memberText, quote]
      rw [List.cons_append, read, members]
      rfl

theorem readText_text {d : Doc} (hd : WellFormed d) : readText d.text = some d := by
  have h := read_text d.text.length d [] hd ends_nil (Nat.le_refl _)
  rw [List.append_nil] at h
  rw [readText, h]

/-! ## Navigation -/

def Doc.get? (key : String) : Doc → Option Doc
  | .obj members => (members.find? fun m => m.1 == key).map Prod.snd
  | _ => none

def Doc.path? : List String → Doc → Option Doc
  | [], d => some d
  | key :: keys, d => (d.get? key).bind (Doc.path? keys)

end JsonText
