import TricoreSdk.Script

/-! How a server binds the parameters of a script: it walks the text and takes
one parameter for each placeholder, whichever statement the placeholder is in. -/

namespace TricoreSdk

/-- How many placeholders a text without quotes and comments has. -/
def placeholders (text : List Char) : Nat := text.count '?'

/-- The text with its placeholders bound, left to right, when there are as many as
parameters. -/
def bindText {α : Type} : List Char → List α → Option (List (Char ⊕ α))
  | [], params => if params.isEmpty then some [] else none
  | c :: text, params =>
    if c = '?' then
      match params with
      | [] => none
      | p :: params => (bindText text params).map (.inr p :: ·)
    else (bindText text params).map (.inl c :: ·)

section

variable {α : Type}

theorem bindText_other {c : Char} (h : c ≠ '?') (text : List Char) (params : List α) :
    bindText (c :: text) params = (bindText text params).map (.inl c :: ·) := by
  rw [bindText.eq_def]
  simp [h]

theorem bindText_placeholder (text : List Char) (p : α) (params : List α) :
    bindText ('?' :: text) (p :: params) = (bindText text params).map (.inr p :: ·) := by
  rw [bindText.eq_def]
  simp

theorem bindText_short (text : List Char) : bindText ('?' :: text) ([] : List α) = none := by
  rw [bindText.eq_def]
  simp

theorem bindText_isSome_iff {text : List Char} {params : List α} :
    (bindText text params).isSome = true ↔ placeholders text = params.length := by
  unfold placeholders
  induction text generalizing params with
  | nil => cases params <;> simp [bindText]
  | cons c text ih =>
    rw [List.count_cons]
    by_cases hc : c = '?'
    · subst hc
      cases params with
      | nil => simp [bindText_short]
      | cons p params => simp [bindText_placeholder, ih]
    · simp [bindText_other hc, hc, ih]

theorem bindText_append {a : List Char} {xs : List α} (h : placeholders a = xs.length)
    (b : List Char) (ys : List α) :
    bindText (a ++ b) (xs ++ ys) =
      (bindText a xs).bind fun bound => (bindText b ys).map (bound ++ ·) := by
  unfold placeholders at h
  induction a generalizing xs with
  | nil =>
    cases xs with
    | nil => simp [bindText]
    | cons x xs => simp at h
  | cons c a ih =>
    rw [List.count_cons] at h
    by_cases hc : c = '?'
    · subst hc
      cases xs with
      | nil => simp at h
      | cons x xs =>
        rw [List.cons_append, List.cons_append, bindText_placeholder, bindText_placeholder,
          ih (by simpa using h)]
        cases bindText a xs <;> simp [Function.comp_def]
    · rw [List.cons_append, bindText_other hc, bindText_other hc, ih (by simpa [hc] using h)]
      cases bindText a xs <;> simp [Function.comp_def]

theorem bindText_literal {text : List Char} (h : placeholders text = 0) :
    bindText text ([] : List α) = some (text.map .inl) := by
  unfold placeholders at h
  induction text with
  | nil => rfl
  | cons c text ih =>
    rw [List.count_cons] at h
    have hc : c ≠ '?' := fun hc => by simp [hc] at h
    rw [bindText_other hc, ih (by omega)]
    rfl

theorem bindText_between {before after text : List Char} {params : List α}
    {out : List (Char ⊕ α)} (hb : placeholders before = 0) (ha : placeholders after = 0)
    (h : bindText text params = some out) :
    bindText (before ++ (text ++ after)) params =
      some (before.map .inl ++ out ++ after.map .inl) := by
  have total : placeholders text = params.length := by
    rw [← bindText_isSome_iff, h]
    rfl
  have closes := bindText_append total after []
  have opens := bindText_append (show placeholders before = ([] : List α).length from hb)
    (text ++ after) params
  rw [List.append_nil, h, bindText_literal ha] at closes
  rw [List.nil_append, bindText_literal hb, closes] at opens
  rw [opens]
  simp

end

/-! ## Scripts -/

def Statement.text (s : Statement) : List Char := stripped s.sql.toList

/-- A script bound statement by statement, each to its own parameters. -/
def boundApart (bound : List (List (Char ⊕ Param))) : List (Char ⊕ Param) :=
  "BEGIN; ".toList.map .inl ++ List.intercalate (['\x3b', ' '].map .inl) bound ++
    "; COMMIT".toList.map .inl

structure BindsApart (statements : List Statement) (script : String) (params : List Param) : Prop where
  accepts : (bindText script.toList params).isSome = true →
    ∀ s ∈ statements, (bindText s.text s.params).isSome = true
  binds : ∀ out, bindText script.toList params = some out →
    ∃ bound, List.Forall₂ (fun s b => bindText s.text s.params = some b) statements bound ∧
      out = boundApart bound

theorem placeholders_append (a b : List Char) :
    placeholders (a ++ b) = placeholders a + placeholders b := List.count_append

theorem placeholders_trimEnd {drop : Char → Bool} (h : drop '?' = false) (text : List Char) :
    placeholders (trimEnd drop text) = placeholders text := by
  induction text using List.reverseRecOn with
  | nil => rfl
  | append_singleton text c ih =>
    rw [trimEnd_concat]
    split
    · rename_i hc
      have other : c ≠ '?' := fun e => by simp [e, h] at hc
      rw [ih, placeholders_append]
      simp [placeholders, other]
    · rfl

theorem placeholders_trim (text : List Char) : placeholders (trim text) = placeholders text := by
  rw [trim, placeholders_trimEnd (by decide)]
  induction text with
  | nil => rfl
  | cons c text ih =>
    rw [List.dropWhile_cons]
    split
    · rename_i hc
      have other : c ≠ '?' := fun e => by
        rw [e] at hc
        revert hc
        decide
      rw [ih]
      simp [placeholders, other]
    · rfl

theorem placeholders_text (s : Statement) : placeholders s.text = placeholders s.sql.toList := by
  rw [Statement.text, stripped, placeholders_trim, placeholders_trimEnd (by decide),
    placeholders_trim]

def Statement.Matches (s : Statement) : Prop := placeholders s.sql.toList = s.params.length

theorem Statement.Matches.bound {s : Statement} (h : s.Matches) :
    ∃ b, bindText s.text s.params = some b := by
  apply Option.isSome_iff_exists.mp
  rw [bindText_isSome_iff, placeholders_text]
  exact h

theorem bindText_intercalate {statements : List Statement} (filled : statements ≠ [])
    (h : ∀ s ∈ statements, s.Matches) :
    ∃ bound, List.Forall₂ (fun s b => bindText s.text s.params = some b) statements bound ∧
      bindText (List.intercalate ['\x3b', ' '] (statements.map Statement.text))
        (statements.flatMap Statement.params) =
          some (List.intercalate (['\x3b', ' '].map .inl) bound) := by
  induction statements with
  | nil => exact absurd rfl filled
  | cons s statements ih =>
    have first : s.Matches := h s List.mem_cons_self
    obtain ⟨b, hb⟩ := first.bound
    cases statements with
    | nil => exact ⟨[b], .cons hb .nil, by simpa [List.intercalate] using hb⟩
    | cons t statements =>
      obtain ⟨bound, each, joined⟩ := ih (List.cons_ne_nil _ _) fun u hu =>
        h u (List.mem_cons_of_mem _ hu)
      refine ⟨b :: bound, .cons hb each, ?_⟩
      have text : List.intercalate ['\x3b', ' '] ((s :: t :: statements).map Statement.text) =
          s.text ++ (['\x3b', ' '] ++
            List.intercalate ['\x3b', ' '] ((t :: statements).map Statement.text)) := by
        simp [List.intercalate]
      have fits : placeholders s.text = s.params.length := by
        rw [placeholders_text]
        exact first
      have separator : bindText ['\x3b', ' '] ([] : List Param) = some (['\x3b', ' '].map .inl) :=
        bindText_literal rfl
      have rest := bindText_append
        (show placeholders ['\x3b', ' '] = ([] : List Param).length from rfl)
        (List.intercalate ['\x3b', ' '] ((t :: statements).map Statement.text))
        ((t :: statements).flatMap Statement.params)
      rw [List.nil_append, separator, joined] at rest
      rw [text, List.flatMap_cons, bindText_append fits, hb, rest]
      cases each with
      | cons _ _ => simp [List.intercalate]

theorem script_split (body : List Char) :
    ("BEGIN; " ++ String.ofList body ++ "; COMMIT").toList =
      "BEGIN; ".toList ++ (body ++ "; COMMIT".toList) := by
  simp only [String.toList_append, String.toList_ofList, List.append_assoc]

theorem placeholders_opens : placeholders "BEGIN; ".toList = 0 := by decide +kernel

theorem placeholders_closes : placeholders "; COMMIT".toList = 0 := by decide +kernel

theorem bindText_script {statements : List Statement} (filled : statements ≠ [])
    (h : ∀ s ∈ statements, s.Matches) :
    ∃ bound, List.Forall₂ (fun s b => bindText s.text s.params = some b) statements bound ∧
      bindText ("BEGIN; " ++ String.ofList (List.intercalate ['\x3b', ' ']
        (statements.map Statement.text)) ++ "; COMMIT").toList
        (statements.flatMap Statement.params) = some (boundApart bound) := by
  obtain ⟨bound, each, joined⟩ := bindText_intercalate filled h
  refine ⟨bound, each, ?_⟩
  rw [script_split]
  exact bindText_between placeholders_opens placeholders_closes joined

theorem build_accepts {statements : List Statement} {script : String} {params : List Param}
    (h : buildTransactionScript statements = .ok (script, params)) :
    statements ≠ [] ∧
      script = "BEGIN; " ++ String.ofList (List.intercalate ['\x3b', ' ']
        (statements.map Statement.text)) ++ "; COMMIT" ∧
      params = statements.flatMap Statement.params := by
  have filled : statements ≠ [] := by
    rintro rfl
    cases h
  have accepted : ∀ s ∈ statements, ¬Refused s.sql.toList := by
    intro s hs refused
    obtain ⟨message, hb⟩ := build_refused ⟨s, hs, refused⟩
    rw [hb] at h
    cases h
  have build := build_ok filled accepted
  rw [h] at build
  cases build
  exact ⟨filled, rfl, rfl⟩

theorem placeholders_intercalate (statements : List Statement) :
    placeholders (List.intercalate ['\x3b', ' '] (statements.map Statement.text)) =
      placeholders (statements.flatMap fun s => s.sql.toList) := by
  induction statements with
  | nil => rfl
  | cons s statements ih =>
    cases statements with
    | nil => simp [List.intercalate, placeholders_text]
    | cons t statements =>
      have text : List.intercalate ['\x3b', ' '] ((s :: t :: statements).map Statement.text) =
          s.text ++ (['\x3b', ' '] ++
            List.intercalate ['\x3b', ' '] ((t :: statements).map Statement.text)) := by
        simp [List.intercalate]
      rw [text, placeholders_append, placeholders_append, ih, placeholders_text,
        show placeholders ['\x3b', ' '] = 0 from rfl, Nat.zero_add, ← placeholders_append]
      rfl

theorem placeholders_script (body : List Char) :
    placeholders ("BEGIN; " ++ String.ofList body ++ "; COMMIT").toList = placeholders body := by
  rw [script_split, placeholders_append, placeholders_append, placeholders_opens,
    placeholders_closes, Nat.zero_add, Nat.add_zero]

/-- All placeholders and all parameters differ in number: the server refuses the script. -/
def TotalsDiffer (statements : List Statement) : Prop :=
  placeholders (statements.flatMap fun s => s.sql.toList) ≠
    (statements.flatMap Statement.params).length

/-- An accepted list is bound as its statements would be alone exactly when the
server refuses the script by its totals, or every statement has its own number
of parameters. -/
theorem bindsApart_iff {statements : List Statement} {script : String} {params : List Param}
    (h : buildTransactionScript statements = .ok (script, params)) :
    BindsApart statements script params ↔
      TotalsDiffer statements ∨ ∀ s ∈ statements, s.Matches := by
  obtain ⟨filled, rfl, rfl⟩ := build_accepts h
  have served : (bindText ("BEGIN; " ++ String.ofList (List.intercalate ['\x3b', ' ']
      (statements.map Statement.text)) ++ "; COMMIT").toList
      (statements.flatMap Statement.params)).isSome = true ↔ ¬TotalsDiffer statements := by
    rw [bindText_isSome_iff, placeholders_script, placeholders_intercalate, TotalsDiffer, not_not]
  by_cases totals : TotalsDiffer statements
  · have refused : bindText ("BEGIN; " ++ String.ofList (List.intercalate ['\x3b', ' ']
        (statements.map Statement.text)) ++ "; COMMIT").toList
        (statements.flatMap Statement.params) = none :=
      Option.not_isSome_iff_eq_none.mp fun accepted => served.mp accepted totals
    refine iff_of_true ⟨fun accepted => absurd totals (served.mp accepted), fun out hout => ?_⟩
      (.inl totals)
    rw [refused] at hout
    cases hout
  · rw [or_iff_right totals]
    constructor
    · intro apart s hs
      have accepted := apart.accepts (served.mpr totals) s hs
      rwa [bindText_isSome_iff, placeholders_text] at accepted
    · intro all
      obtain ⟨bound, each, whole⟩ := bindText_script filled all
      refine ⟨fun _ s hs => ?_, fun out hout => ⟨bound, each, ?_⟩⟩
      · rw [bindText_isSome_iff, placeholders_text]
        exact all s hs
      · rw [whole] at hout
        exact (Option.some.inj hout).symm

/-- The first statement is one parameter short, the second has one to spare. -/
def shifted : List Statement :=
  [⟨"INSERT INTO t VALUES (?, ?)", [.text "a"]⟩, ⟨"DELETE FROM u", [.text "b"]⟩]

theorem build_shifted :
    buildTransactionScript shifted =
      .ok ("BEGIN; INSERT INTO t VALUES (?, ?); DELETE FROM u; COMMIT", [.text "a", .text "b"]) := by
  decide +kernel

theorem bindsApart_iff_shifted :
    BindsApart shifted "BEGIN; INSERT INTO t VALUES (?, ?); DELETE FROM u; COMMIT"
        [.text "a", .text "b"] ↔
      TotalsDiffer shifted ∨ ∀ s ∈ shifted, s.Matches :=
  bindsApart_iff build_shifted

/-- The script is accepted, and the first statement takes the second one's parameter. -/
theorem not_bindsApart_shifted :
    ¬∀ (statements : List Statement) (script : String) (params : List Param),
      (∀ s ∈ statements, isPlain s.sql.toList = true) →
      buildTransactionScript statements = .ok (script, params) →
        BindsApart statements script params := by
  intro h
  have plain : ∀ s ∈ shifted, isPlain s.sql.toList = true := by
    intro s hs
    rcases List.mem_pair.mp hs with rfl | rfl <;> decide +kernel
  have alone := (h _ _ _ plain build_shifted).accepts (by decide +kernel) _ List.mem_cons_self
  revert alone
  decide +kernel

end TricoreSdk
