import Mathlib.Data.List.Induction
import TricoreSdk.PublicCall

/-! Transaction scripts as a server reads them: what the semicolons of the
script separate, against what the caller passed in. -/

namespace TricoreSdk

/-- The statements of a text: what its semicolons separate, trimmed. -/
def statementsOf (text : List Char) : List (List Char) := (text.splitOn '\x3b').map trim

/-- The first word is a transaction-control keyword, in any letter case. -/
def IsControl (part : List Char) : Prop :=
  String.ofList (firstWord part) ∈ ["BEGIN", "START", "COMMIT", "ROLLBACK"]

instance (part : List Char) : Decidable (IsControl part) :=
  inferInstanceAs (Decidable (_ ∈ _))

/-- What `build_transaction_script` keeps of a text. -/
def stripped (text : List Char) : List Char := trim (trimEnd (· == '\x3b') (trim text))

/-! ## Trimming -/

theorem not_isWhitespace_semicolon : isWhitespace '\x3b' = false := by decide

theorem ne_semicolon {c : Char} (h : isWhitespace c = true) : (c == '\x3b') = false := by
  by_contra hc
  rw [Bool.not_eq_false, beq_iff_eq] at hc
  rw [hc, not_isWhitespace_semicolon] at h
  cases h

@[simp] theorem trimEnd_nil (drop : Char → Bool) : trimEnd drop [] = [] := rfl

theorem trimEnd_concat (drop : Char → Bool) (text : List Char) (c : Char) :
    trimEnd drop (text ++ [c]) = if drop c then trimEnd drop text else text ++ [c] := by
  unfold trimEnd
  rw [List.reverse_append, List.reverse_singleton, List.singleton_append, List.dropWhile_cons]
  split
  · rfl
  · simp

theorem trim_cons {c : Char} (h : isWhitespace c = true) (text : List Char) :
    trim (c :: text) = trim text := by
  rw [trim, List.dropWhile_cons_of_pos h]
  rfl

theorem trim_concat {c : Char} (h : isWhitespace c = true) (text : List Char) :
    trim (text ++ [c]) = trim text := by
  unfold trim
  rw [List.dropWhile_append]
  split
  · rename_i empty
    rw [List.isEmpty_iff.mp empty, List.dropWhile_cons_of_pos h]
    rfl
  · rw [trimEnd_concat, if_pos h]

theorem trim_eq_nil {text : List Char} (h : ∀ c ∈ text, isWhitespace c = true) : trim text = [] := by
  induction text with
  | nil => rfl
  | cons c text ih =>
    rw [trim_cons (h c List.mem_cons_self)]
    exact ih fun d hd => h d (List.mem_cons_of_mem _ hd)

/-! ## Splitting -/

theorem statementsOf_append (a b : List Char) :
    statementsOf (a ++ '\x3b' :: b) = statementsOf a ++ statementsOf b := by
  rw [statementsOf, List.splitOn_append_cons_self, List.map_append]
  rfl

theorem statementsOf_cons {c : Char} (h : isWhitespace c = true) (text : List Char) :
    statementsOf (c :: text) = statementsOf text := by
  unfold statementsOf
  rw [List.splitOn_cons_eq_if_modifyHead, if_neg (by simp [ne_semicolon h])]
  obtain ⟨first, rest, hs⟩ := List.exists_cons_of_ne_nil (List.splitOn_ne_nil '\x3b' text)
  rw [hs, List.modifyHead_cons, List.map_cons, List.map_cons, trim_cons h]

theorem splitOn_concat {c : Char} (h : (c == '\x3b') = false) (text : List Char) :
    ∃ front last, text.splitOn '\x3b' = front ++ [last] ∧
      (text ++ [c]).splitOn '\x3b' = front ++ [last ++ [c]] := by
  induction text with
  | nil => exact ⟨[], [], rfl, by simp [List.splitOn_cons_eq_if_modifyHead, h, List.splitOn_nil]⟩
  | cons d text ih =>
    obtain ⟨front, last, hs, hc⟩ := ih
    rw [List.cons_append, List.splitOn_cons_eq_if_modifyHead, List.splitOn_cons_eq_if_modifyHead,
      hs, hc]
    split
    · exact ⟨[] :: front, last, rfl, rfl⟩
    · cases front with
      | nil => exact ⟨[], d :: last, rfl, rfl⟩
      | cons first front => exact ⟨(d :: first) :: front, last, rfl, rfl⟩

theorem statementsOf_concat {c : Char} (h : isWhitespace c = true) (text : List Char) :
    statementsOf (text ++ [c]) = statementsOf text := by
  obtain ⟨front, last, hs, hc⟩ := splitOn_concat (ne_semicolon h) text
  unfold statementsOf
  rw [hs, hc, List.map_append, List.map_append, List.map_singleton, List.map_singleton,
    trim_concat h]

theorem statementsOf_dropWhile (text : List Char) :
    statementsOf (text.dropWhile isWhitespace) = statementsOf text := by
  induction text with
  | nil => rfl
  | cons c text ih =>
    rw [List.dropWhile_cons]
    split
    · rename_i h
      rw [ih, statementsOf_cons h]
    · rfl

theorem statementsOf_trimEnd (text : List Char) :
    statementsOf (trimEnd isWhitespace text) = statementsOf text := by
  induction text using List.reverseRecOn with
  | nil => rfl
  | append_singleton text c ih =>
    rw [trimEnd_concat]
    split
    · rename_i h
      rw [ih, statementsOf_concat h]
    · rfl

@[simp] theorem statementsOf_trim (text : List Char) : statementsOf (trim text) = statementsOf text := by
  rw [trim, statementsOf_trimEnd, statementsOf_dropWhile]

theorem mem_statementsOf_trimEnd {text part : List Char} (hp : part ≠ []) :
    part ∈ statementsOf (trimEnd (· == '\x3b') text) ↔ part ∈ statementsOf text := by
  induction text using List.reverseRecOn with
  | nil => rfl
  | append_singleton text c ih =>
    rw [trimEnd_concat]
    split
    · rename_i h
      rw [ih, beq_iff_eq.mp h, show text ++ ['\x3b'] = text ++ '\x3b' :: [] from rfl,
        statementsOf_append, List.mem_append, or_iff_left]
      intro last
      exact hp (List.mem_singleton.mp last)
    · rfl

theorem mem_statementsOf_stripped {text part : List Char} (hp : part ≠ []) :
    part ∈ statementsOf (stripped text) ↔ part ∈ statementsOf text := by
  rw [stripped, statementsOf_trim, mem_statementsOf_trimEnd hp, statementsOf_trim]

theorem statementsOf_ne_nil (text : List Char) : statementsOf text ≠ [] := by
  simp [statementsOf]

theorem splitOn_idle {text : List Char} (h : ∀ c ∈ text, c = '\x3b' ∨ isWhitespace c = true) :
    ∀ part ∈ statementsOf text, part = [] := by
  have blank : ∀ part ∈ text.splitOn '\x3b', ∀ c ∈ part, isWhitespace c = true := by
    induction text with
    | nil =>
      intro part hp c hc
      rw [List.splitOn_nil, List.mem_singleton] at hp
      rw [hp] at hc
      cases hc
    | cons d text ih =>
      have rest := ih fun c hc => h c (List.mem_cons_of_mem _ hc)
      rw [List.splitOn_cons_eq_if_modifyHead]
      split
      · intro part hp c hc
        rcases List.mem_cons.mp hp with rfl | hp
        · cases hc
        · exact rest part hp c hc
      · rename_i hd
        have hd : isWhitespace d = true := (h d List.mem_cons_self).resolve_left (by simpa using hd)
        obtain ⟨first, others, hs⟩ := List.exists_cons_of_ne_nil (List.splitOn_ne_nil '\x3b' text)
        rw [hs] at rest ⊢
        intro part hp c hc
        rcases List.mem_cons.mp hp with rfl | hp
        · rcases List.mem_cons.mp hc with rfl | hc
          · exact hd
          · exact rest first List.mem_cons_self c hc
        · exact rest part (List.mem_cons_of_mem _ hp) c hc
  intro part hp
  obtain ⟨raw, hr, rfl⟩ := List.mem_map.mp hp
  exact trim_eq_nil (blank raw hr)

theorem mem_of_mem_trimEnd {drop : Char → Bool} {text : List Char} {c : Char}
    (h : c ∈ trimEnd drop text) : c ∈ text := by
  unfold trimEnd at h
  exact List.mem_reverse.mp ((List.dropWhile_suffix drop).subset (List.mem_reverse.mp h))

theorem mem_of_mem_trim {text : List Char} {c : Char} (h : c ∈ trim text) : c ∈ text :=
  (List.dropWhile_suffix _).subset (mem_of_mem_trimEnd h)

/-! ## Scripts -/

theorem statementsOf_intercalate {parts : List (List Char)} (h : parts ≠ []) :
    statementsOf (List.intercalate ['\x3b', ' '] parts) = parts.flatMap statementsOf := by
  induction parts with
  | nil => exact absurd rfl h
  | cons part parts ih =>
    cases parts with
    | nil => simp [List.intercalate]
    | cons next parts =>
      have joined : List.intercalate ['\x3b', ' '] (part :: next :: parts) =
          part ++ '\x3b' :: ' ' :: List.intercalate ['\x3b', ' '] (next :: parts) := by
        simp [List.intercalate]
      rw [joined, statementsOf_append, statementsOf_cons (by decide), ih (by simp)]
      rfl

theorem script_toList (body : List Char) :
    ("BEGIN; " ++ String.ofList body ++ "; COMMIT").toList =
      "BEGIN".toList ++ '\x3b' :: ' ' :: (body ++ '\x3b' :: ' ' :: "COMMIT".toList) := by
  rw [String.toList_append, String.toList_append, String.toList_ofList]
  simp

theorem statementsOf_script {parts : List (List Char)} (h : parts ≠ []) :
    statementsOf ("BEGIN; " ++ String.ofList (List.intercalate ['\x3b', ' '] parts) ++
      "; COMMIT").toList =
      "BEGIN".toList :: (parts.flatMap statementsOf ++ ["COMMIT".toList]) := by
  rw [script_toList, statementsOf_append, statementsOf_cons (by decide), statementsOf_append,
    statementsOf_cons (by decide), statementsOf_intercalate h]
  have begins : statementsOf "BEGIN".toList = ["BEGIN".toList] := by decide
  have commits : statementsOf "COMMIT".toList = ["COMMIT".toList] := by decide
  rw [begins, commits]
  rfl

def Refused (text : List Char) : Prop := stripped text = [] ∨ IsControl (stripped text)

theorem scriptPart_ok_iff {s : Statement} {part : List Char} :
    scriptPart s = .ok part ↔ ¬Refused s.sql.toList ∧ part = stripped s.sql.toList := by
  unfold scriptPart Refused IsControl stripped
  dsimp only
  split
  · rename_i h
    simp [List.isEmpty_iff.mp h]
  · rename_i h
    split
    · rename_i hc
      simp only [reduceCtorEq, false_iff, not_and]
      exact fun hr => absurd (.inr hc) hr
    · rename_i hc
      have hn : trim (trimEnd (· == '\x3b') (trim s.sql.toList)) ≠ [] := by simpa using h
      simp only [Except.ok.injEq, not_or]
      exact ⟨fun hp => ⟨⟨hn, hc⟩, hp.symm⟩, fun hp => hp.2.symm⟩

theorem mapM_scriptPart {statements : List Statement}
    (h : ∀ s ∈ statements, ¬Refused s.sql.toList) :
    statements.mapM scriptPart = .ok (statements.map fun s => stripped s.sql.toList) := by
  induction statements with
  | nil => rfl
  | cons s statements ih =>
    rw [List.mapM_cons, scriptPart_ok_iff.mpr ⟨h s List.mem_cons_self, rfl⟩,
      ih fun t ht => h t (List.mem_cons_of_mem _ ht)]
    rfl

theorem build_ok {statements : List Statement} (some : statements ≠ [])
    (h : ∀ s ∈ statements, ¬Refused s.sql.toList) :
    buildTransactionScript statements =
      .ok ("BEGIN; " ++ String.ofList (List.intercalate ['\x3b', ' ']
        (statements.map fun s => stripped s.sql.toList)) ++ "; COMMIT",
        statements.flatMap Statement.params) := by
  have filled : statements.isEmpty = false := by
    cases statements with
    | nil => exact absurd rfl some
    | cons _ _ => rfl
  unfold buildTransactionScript
  rw [filled, mapM_scriptPart h]
  rfl

theorem build_refused {statements : List Statement} (h : ∃ s ∈ statements, Refused s.sql.toList) :
    ∃ message, buildTransactionScript statements = .error (Error.invalid message) := by
  cases hb : buildTransactionScript statements with
  | error e =>
    obtain ⟨message, rfl⟩ := buildTransactionScript_error hb
    exact ⟨message, rfl⟩
  | ok script =>
    obtain ⟨s, hs, refused⟩ := h
    have accepted : ∃ parts, statements.mapM scriptPart = .ok parts := by
      cases hm : statements.mapM scriptPart with
      | ok parts => exact ⟨parts, rfl⟩
      | error e =>
        unfold buildTransactionScript at hb
        rw [hm] at hb
        cases he : statements.isEmpty <;> rw [he] at hb <;> cases hb
    obtain ⟨parts, hm⟩ := accepted
    obtain ⟨part, hp⟩ := Codec.mapM_ok hm s hs
    exact absurd refused (scriptPart_ok_iff.mp hp).1

/-! ## One bracket -/

/-- The script is one transaction: `BEGIN`, statements that control nothing, `COMMIT`. -/
def OneBracket (script : List Char) : Prop :=
  ∃ inner, statementsOf script = "BEGIN".toList :: (inner ++ ["COMMIT".toList]) ∧ inner ≠ [] ∧
    ∀ part ∈ inner, part ≠ [] ∧ ¬IsControl part

/-- The text holds semicolons and whitespace only. -/
def Idle (text : List Char) : Prop := ∀ c ∈ text, c = '\x3b' ∨ isWhitespace c = true

/-- A list of statements makes one bracket, or is refused where it must be. -/
structure Bracketed (statements : List Statement) : Prop where
  accepted : ∀ script params, buildTransactionScript statements = .ok (script, params) →
    OneBracket script.toList
  refused : (∃ s ∈ statements, Idle s.sql.toList ∨ ∃ part ∈ statementsOf s.sql.toList, IsControl part) →
    ∃ message, buildTransactionScript statements = .error (Error.invalid message)

/-- What is left of the text after stripping is statements that control nothing,
with none of them empty. -/
def Clean (text : List Char) : Prop :=
  ∀ part ∈ statementsOf (stripped text), part ≠ [] ∧ ¬IsControl part

theorem not_isControl_nil : ¬IsControl [] := by decide

theorem Clean.harmless {text : List Char} (h : Clean text) :
    ¬(Idle text ∨ ∃ part ∈ statementsOf text, IsControl part) := by
  rintro (idle | ⟨part, hp, control⟩)
  · have blank : ∀ part ∈ statementsOf (stripped text), part = [] :=
      splitOn_idle fun c hc => idle c (mem_of_mem_trim (mem_of_mem_trimEnd (mem_of_mem_trim hc)))
    obtain ⟨part, rest, hs⟩ := List.exists_cons_of_ne_nil (statementsOf_ne_nil (stripped text))
    have first : part ∈ statementsOf (stripped text) := hs ▸ List.mem_cons_self
    exact (h part first).1 (blank part first)
  · have some : part ≠ [] := fun empty => not_isControl_nil (empty ▸ control)
    exact (h part ((mem_statementsOf_stripped some).mpr hp)).2 control

/-- A list makes one bracket exactly when a text of it is refused, or each text
is clean once stripped. -/
theorem bracketed_iff {statements : List Statement} (some : statements ≠ []) :
    Bracketed statements ↔
      (∃ s ∈ statements, Refused s.sql.toList) ∨ ∀ s ∈ statements, Clean s.sql.toList := by
  by_cases h : ∃ s ∈ statements, Refused s.sql.toList
  · obtain ⟨message, hb⟩ := build_refused h
    refine iff_of_true ⟨fun script params ok => ?_, fun _ => ⟨message, hb⟩⟩ (.inl h)
    rw [hb] at ok
    cases ok
  · rw [or_iff_right h]
    have accepts : ∀ s ∈ statements, ¬Refused s.sql.toList := fun s hs hr => h ⟨s, hs, hr⟩
    have parts : statements.map (fun s => stripped s.sql.toList) ≠ [] := by simpa using some
    have script := statementsOf_script parts
    have build := build_ok some accepts
    constructor
    · intro bracketed s hs
      obtain ⟨inner, split, -, clean⟩ := bracketed.accepted _ _ build
      rw [script] at split
      have same := List.append_cancel_right (List.cons.inj split).2
      intro part hp
      refine clean part ?_
      rw [← same]
      exact List.mem_flatMap.mpr ⟨_, List.mem_map.mpr ⟨s, hs, rfl⟩, hp⟩
    · intro clean
      refine ⟨fun text params ok => ?_, fun ⟨s, hs, bad⟩ => ((clean s hs).harmless bad).elim⟩
      rw [build] at ok
      cases ok
      refine ⟨_, script, ?_, ?_⟩
      · obtain ⟨s, rest, rfl⟩ := List.exists_cons_of_ne_nil some
        obtain ⟨part, more, hp⟩ := List.exists_cons_of_ne_nil (statementsOf_ne_nil (stripped s.sql.toList))
        simp [hp]
      · intro part hp
        obtain ⟨raw, hr, hp⟩ := List.mem_flatMap.mp hp
        obtain ⟨s, hs, rfl⟩ := List.mem_map.mp hr
        exact clean s hs part hp

/-- No quote and no comment marker. -/
def isPlain (text : List Char) : Bool :=
  text.all (fun c => c != '\'' && c != '"' && c != '\x60') &&
    (text.zip text.tail).all fun pair => pair != ('-', '-') && pair != ('/', '*')

def halfWay : List Statement := [⟨"SELECT 1; COMMIT", []⟩]

theorem bracketed_iff_halfWay :
    Bracketed halfWay ↔
      (∃ s ∈ halfWay, Refused s.sql.toList) ∨ ∀ s ∈ halfWay, Clean s.sql.toList :=
  bracketed_iff (List.cons_ne_nil _ _)

/-- The list is accepted, and its script commits half-way. -/
theorem not_bracketed_halfWay :
    ¬∀ statements : List Statement, statements ≠ [] →
      (∀ s ∈ statements, isPlain s.sql.toList = true) → Bracketed statements := by
  intro h
  have plain : ∀ s ∈ halfWay, isPlain s.sql.toList = true := by
    intro s hs
    rw [List.mem_singleton.mp hs]
    decide +kernel
  have refused := (h halfWay (List.cons_ne_nil _ _) plain).refused
    ⟨_, List.mem_singleton_self _, .inr ⟨"COMMIT".toList, by decide +kernel, by decide +kernel⟩⟩
  obtain ⟨message, hb⟩ := refused
  have accepted : (buildTransactionScript halfWay).toBool = true := by decide +kernel
  rw [hb] at accepted
  cases accepted

end TricoreSdk
