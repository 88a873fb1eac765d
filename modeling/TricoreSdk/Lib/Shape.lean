import Mathlib.Data.List.Nodup
import TricoreSdk.Lib.Codec

/-! Shapes of data in a self-describing format. What one side writes and the other reads back is
`Coded`; what one side may write in several ways, all read alike, is `Heard`. Records are put
together of their fields, on either side. -/

namespace Shape

variable {V α β : Type}

/-- A format with a null, lists, and records whose absent fields are left out. `columns` are the
fields of a record in the order of their names. -/
structure Format (V : Type) where
  null : V
  isNull : V → Bool
  list : List V → V
  items : V → Option (List V)
  record : List (String × Option V) → V
  fields : V → Option (String → Option V)
  columns : List String → V → Option (List (Option V))
  isNull_null : isNull null = true
  items_list : ∀ vs, items (list vs) = some vs
  found : ∀ ms, (ms.map Prod.fst).Nodup →
    ∃ look, fields (record ms) = some look ∧ ∀ m ∈ ms, look m.1 = m.2
  columns_eq : ∀ {v look}, fields v = some look → ∀ names, columns names v = some (names.map look)

/-- Values written so that they can be read back. -/
structure Coded (V α : Type) where
  write : α → V
  read : V → Option α
  back : ∀ a, read (write a) = some a

/-- Values that may be written in several ways and read in one. -/
structure Heard (V α : Type) where
  means : V → α → Prop
  read : V → Option α
  reads : ∀ {v a}, means v a → read v = some a

namespace Coded

theorem injective (c : Coded V α) : Function.Injective c.write := by
  intro a b same
  have read := c.back b
  rw [← same, c.back] at read
  exact Option.some.inj read

def through (c : Coded V α) (pack : α → β) (unpack : β → α) (inverse : ∀ b, pack (unpack b) = b) :
    Coded V β where
  write b := c.write (unpack b)
  read v := (c.read v).map pack
  back b := by rw [c.back, Option.map_some, inverse]

def list (F : Format V) (c : Coded V α) : Coded V (List α) where
  write as := F.list (as.map c.write)
  read v := (F.items v).bind fun vs => vs.mapM c.read
  back as := by
    rw [F.items_list, Option.bind_some]
    exact Codec.mapM_map_some fun a _ => c.back a

def option (F : Format V) (c : Coded V α) (apart : ∀ a, F.isNull (c.write a) = false) :
    Coded V (Option α) where
  write o := o.elim F.null c.write
  read v := if F.isNull v then some none else (c.read v).map some
  back o := by
    cases o with
    | none => exact if_pos F.isNull_null
    | some a => simp [apart, c.back]

def named (text : Coded V String) (name : α → String) (all : List α) (complete : ∀ a, a ∈ all)
    (apart : (all.map name).Nodup) : Coded V α where
  write a := text.write (name a)
  read v := (text.read v).bind fun n => all.find? fun a => name a == n
  back a := by
    rw [text.back, Option.bind_some]
    cases h : all.find? fun b => name b == name a with
    | none => exact absurd (beq_self_eq_true (name a)) (List.find?_eq_none.mp h a (complete a))
    | some b =>
      have same : (name b == name a) = true := List.find?_some (p := fun b => name b == name a) h
      exact congrArg some
        (List.inj_on_of_nodup_map apart (complete b) (complete a) (beq_iff_eq.mp same))

/-- What is written in one way is heard in one way. -/
def heard (c : Coded V α) : Heard V α where
  means v a := v = c.write a
  read := c.read
  reads h := h ▸ c.back _

end Coded

/-! ## Records, as they are written -/

/-- The fields of a record, `none` where one is left out. -/
structure Fields (V α : Type) where
  names : List String
  write : α → List (String × Option V)
  read : (String → Option V) → Option α
  named : ∀ a, (write a).map Prod.fst = names
  back : ∀ a look, (∀ m ∈ write a, look m.1 = m.2) → read look = some a

namespace Fields

def one (name : String) (c : Coded V α) : Fields V α where
  names := [name]
  write a := [(name, some (c.write a))]
  read look := (look name).bind c.read
  named _ := rfl
  back a look found := by
    rw [found _ (List.mem_singleton.mpr rfl), Option.bind_some, c.back]

/-- A field that is left out when there is nothing to say. -/
def optional (name : String) (c : Coded V α) : Fields V (Option α) where
  names := [name]
  write o := [(name, o.map c.write)]
  read look := (look name).elim (some none) fun v => (c.read v).map some
  named _ := rfl
  back o look found := by
    rw [found _ (List.mem_singleton.mpr rfl)]
    cases o with
    | none => rfl
    | some a => simp [c.back]

/-- A field that is left out when it means what is assumed without it. -/
def skipping (name : String) (c : Coded V α) (skip : α → Bool) (absent : α)
    (only : ∀ a, skip a = true → a = absent) : Fields V α where
  names := [name]
  write a := [(name, if skip a then none else some (c.write a))]
  read look := (look name).elim (some absent) c.read
  named _ := rfl
  back a look found := by
    rw [found _ (List.mem_singleton.mpr rfl)]
    cases h : skip a with
    | true => exact congrArg some (only a h).symm
    | false => exact c.back a

protected def and (f : Fields V α) (g : Fields V β) : Fields V (α × β) where
  names := f.names ++ g.names
  write ab := f.write ab.1 ++ g.write ab.2
  read look := (f.read look).bind fun a => (g.read look).map fun b => (a, b)
  named ab := by rw [List.map_append, f.named, g.named]
  back ab look found := by
    rw [f.back ab.1 look fun m hm => found m (List.mem_append_left _ hm),
      g.back ab.2 look fun m hm => found m (List.mem_append_right _ hm)]
    rfl

def through (f : Fields V α) (pack : α → β) (unpack : β → α) (inverse : ∀ b, pack (unpack b) = b) :
    Fields V β where
  names := f.names
  write b := f.write (unpack b)
  read look := (f.read look).map pack
  named b := f.named (unpack b)
  back b look found := by rw [f.back (unpack b) look found, Option.map_some, inverse]

def coded (f : Fields V α) (F : Format V) (distinct : f.names.Nodup) : Coded V α where
  write a := F.record (f.write a)
  read v := (F.fields v).bind f.read
  back a := by
    obtain ⟨look, fields, found⟩ := F.found (f.write a) ((f.named a).symm ▸ distinct)
    rw [fields, Option.bind_some, f.back a look found]

end Fields

/-! ## What is heard -/

namespace Heard

def image (t : Heard V α) (f : α → β) : Heard V β where
  means v b := ∃ a, t.means v a ∧ f a = b
  read v := (t.read v).map f
  reads := by
    rintro v b ⟨a, said, rfl⟩
    rw [t.reads said, Option.map_some]

theorem mapM_reads (t : Heard V α) {vs : List V} {as : List α} (said : List.Forall₂ t.means vs as) :
    vs.mapM t.read = some as := by
  induction said with
  | nil => rfl
  | cons first _ ih => rw [List.mapM_cons, t.reads first, ih]; rfl

def list (F : Format V) (t : Heard V α) : Heard V (List α) where
  means v as := ∃ vs, F.items v = some vs ∧ List.Forall₂ t.means vs as
  read v := (F.items v).bind fun vs => vs.mapM t.read
  reads := by
    rintro v as ⟨vs, items, said⟩
    rw [items, Option.bind_some, t.mapM_reads said]

def option (F : Format V) (t : Heard V α) : Heard V (Option α) where
  means v o := (F.isNull v = true ∧ o = none) ∨ F.isNull v = false ∧ ∃ a, o = some a ∧ t.means v a
  read v := if F.isNull v then some none else (t.read v).map some
  reads := by
    rintro v o (⟨null, rfl⟩ | ⟨value, a, rfl, said⟩)
    · exact if_pos null
    · simp [value, t.reads said]

def orDefault (F : Format V) (absent : α) (t : Heard V α) : Heard V α where
  means v a := (F.isNull v = true ∧ a = absent) ∨ F.isNull v = false ∧ t.means v a
  read v := if F.isNull v then some absent else t.read v
  reads := by
    rintro v a (⟨null, rfl⟩ | ⟨value, said⟩)
    · exact if_pos null
    · simp [value, t.reads said]

end Heard

/-- The fields of a record that is read by their names, in order. -/
structure Parts (V α : Type) where
  names : List String
  means : (String → Option V) → α → Prop
  read : List (Option V) → Option α
  reads : ∀ {look a}, means look a → read (names.map look) = some a

namespace Parts

/-- A field; `absent` is what a record without it means. -/
def one (name : String) (t : Heard V α) (absent : Option α) : Parts V α where
  names := [name]
  means look a := (∃ v, look name = some v ∧ t.means v a) ∨ look name = none ∧ absent = some a
  read
    | [none] => absent
    | [some v] => t.read v
    | _ => none
  reads := by
    rintro look a (⟨v, there, said⟩ | ⟨missing, rfl⟩)
    · rw [List.map_singleton, there]
      exact t.reads said
    · rw [List.map_singleton, missing]

protected def and (p : Parts V α) (q : Parts V β) : Parts V (α × β) where
  names := p.names ++ q.names
  means look ab := p.means look ab.1 ∧ q.means look ab.2
  read vs := (p.read (vs.take p.names.length)).bind fun a =>
    (q.read (vs.drop p.names.length)).map fun b => (a, b)
  reads := by
    rintro look ⟨a, b⟩ ⟨first, second⟩
    have width : p.names.length = (p.names.map look).length := (List.length_map _).symm
    rw [List.map_append, List.take_left' width.symm, List.drop_left' width.symm, p.reads first,
      q.reads second]
    rfl

def image (p : Parts V α) (f : α → β) : Parts V β where
  names := p.names
  means look b := ∃ a, p.means look a ∧ f a = b
  read vs := (p.read vs).map f
  reads := by
    rintro look b ⟨a, said, rfl⟩
    rw [p.reads said, Option.map_some]

def heard (p : Parts V α) (F : Format V) : Heard V α where
  means v a := ∃ look, F.fields v = some look ∧ p.means look a
  read v := (F.columns p.names v).bind p.read
  reads := by
    rintro v a ⟨look, fields, said⟩
    rw [F.columns_eq fields, Option.bind_some, p.reads said]

end Parts

end Shape
