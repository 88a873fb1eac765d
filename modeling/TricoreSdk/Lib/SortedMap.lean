import Mathlib.Tactic.Common

/-! Maps as lists of entries in the order of their keys, each key once. -/

structure SortedMap (κ α : Type) [LT κ] where
  entries : List (κ × α)
  sorted : entries.Pairwise fun m n => m.1 < n.1

namespace SortedMap

variable {κ α β : Type} [LT κ]

def empty : SortedMap κ α := ⟨[], .nil⟩

def isEmpty (m : SortedMap κ α) : Bool := m.entries.isEmpty

theorem eq_empty {m : SortedMap κ α} (h : m.isEmpty = true) : m = empty := by
  obtain ⟨entries, sorted⟩ := m
  cases List.isEmpty_iff.mp h
  rfl

def mapValues (f : α → β) (m : SortedMap κ α) : SortedMap κ β :=
  ⟨m.entries.map fun e => (e.1, f e.2), List.pairwise_map.mpr m.sorted⟩

variable [DecidableLT κ] [DecidableEq κ]

/-- An entry put in its place, over the one that was there. -/
def insertEntry (key : κ) (value : α) : List (κ × α) → List (κ × α)
  | [] => [(key, value)]
  | (k, v) :: map =>
    if key < k then (key, value) :: (k, v) :: map
    else if key = k then (key, value) :: map
    else (k, v) :: insertEntry key value map

theorem mem_insertEntry {key : κ} {value : α} {l : List (κ × α)} {m : κ × α}
    (h : m ∈ insertEntry key value l) : m = (key, value) ∨ m ∈ l := by
  induction l with
  | nil => exact .inl (List.mem_singleton.mp h)
  | cons n l ih =>
    unfold insertEntry at h
    split at h
    · exact (List.mem_cons.mp h).imp_right id
    · split at h
      · exact (List.mem_cons.mp h).imp_right (.tail _)
      · rcases List.mem_cons.mp h with rfl | h
        · exact .inr List.mem_cons_self
        · exact (ih h).imp_right (.tail _)

theorem mem_foldl_insertEntry {fields map : List (κ × α)} {m : κ × α}
    (h : m ∈ fields.foldl (fun map m => insertEntry m.1 m.2 map) map) : m ∈ fields ∨ m ∈ map := by
  induction fields generalizing map with
  | nil => exact .inr h
  | cons f fields ih =>
    rcases ih h with among | among
    · exact .inl (.tail _ among)
    · rcases mem_insertEntry among with rfl | among
      · exact .inl List.mem_cons_self
      · exact .inr among

theorem insertEntry_map (f : α → β) (key : κ) (value : α) (l : List (κ × α)) :
    insertEntry key (f value) (l.map fun m => (m.1, f m.2)) =
      (insertEntry key value l).map fun m => (m.1, f m.2) := by
  induction l with
  | nil => rfl
  | cons n l ih =>
    rw [List.map_cons, insertEntry, insertEntry, ih]
    split
    · rfl
    · split <;> rfl

theorem foldl_insertEntry_map (f : α → β) (fields map : List (κ × α)) :
    (fields.map fun m => (m.1, f m.2)).foldl (fun map m => insertEntry m.1 m.2 map)
        (map.map fun m => (m.1, f m.2)) =
      (fields.foldl (fun map m => insertEntry m.1 m.2 map) map).map fun m => (m.1, f m.2) := by
  induction fields generalizing map with
  | nil => rfl
  | cons m fields ih => simp only [List.map_cons, List.foldl_cons, insertEntry_map, ih]

variable [LE κ] [Std.IsLinearOrder κ] [Std.LawfulOrderLT κ]

theorem insertEntry_sorted (key : κ) (value : α) {l : List (κ × α)}
    (h : l.Pairwise fun m n => m.1 < n.1) :
    (insertEntry key value l).Pairwise fun m n => m.1 < n.1 := by
  induction l with
  | nil => exact List.pairwise_singleton _ _
  | cons n l ih =>
    obtain ⟨above, rest⟩ := List.pairwise_cons.mp h
    unfold insertEntry
    split
    · rename_i low
      refine List.pairwise_cons.mpr ⟨fun m hm => ?_, h⟩
      rcases List.mem_cons.mp hm with rfl | hm
      · exact low
      · exact Std.lt_trans low (above m hm)
    · rename_i high
      split
      · rename_i same
        exact List.pairwise_cons.mpr ⟨fun m hm => same ▸ above m hm, rest⟩
      · rename_i other
        refine List.pairwise_cons.mpr ⟨fun m hm => ?_, ih rest⟩
        rcases mem_insertEntry hm with rfl | hm
        · exact Std.lt_of_le_of_ne (Std.not_lt.mp high) (Ne.symm other)
        · exact above m hm

theorem insertEntry_last {key : κ} (value : α) {l : List (κ × α)} (above : ∀ m ∈ l, m.1 < key) :
    insertEntry key value l = l ++ [(key, value)] := by
  induction l with
  | nil => rfl
  | cons n l ih =>
    have low := above n List.mem_cons_self
    have high : ¬key < n.1 := fun h => Std.lt_irrefl (Std.lt_trans h low)
    have other : key ≠ n.1 := fun same => Std.lt_irrefl (same ▸ low)
    rw [insertEntry, if_neg high, if_neg other, ih fun m hm => above m (.tail _ hm)]
    rfl

theorem foldl_insertEntry_sorted (fields map : List (κ × α))
    (h : map.Pairwise fun m n => m.1 < n.1) :
    (fields.foldl (fun map m => insertEntry m.1 m.2 map) map).Pairwise
      fun m n => m.1 < n.1 := by
  induction fields generalizing map with
  | nil => exact h
  | cons m fields ih => exact ih _ (insertEntry_sorted m.1 m.2 h)

theorem foldl_insertEntry (fields map : List (κ × α))
    (h : (map ++ fields).Pairwise fun m n => m.1 < n.1) :
    fields.foldl (fun map m => insertEntry m.1 m.2 map) map = map ++ fields := by
  induction fields generalizing map with
  | nil => exact (List.append_nil map).symm
  | cons m fields ih =>
    have above : ∀ n ∈ map, n.1 < m.1 := fun n hn =>
      (List.pairwise_append.mp h).2.2 n hn m List.mem_cons_self
    rw [List.foldl_cons, insertEntry_last m.2 above]
    have last : (map ++ [m]) ++ fields = map ++ m :: fields := by simp
    rw [← last] at h ⊢
    exact ih _ h

/-- The map of a list of entries, the last one for a key counting. -/
def ofEntries (fields : List (κ × α)) : SortedMap κ α :=
  ⟨fields.foldl (fun map m => insertEntry m.1 m.2 map) [], foldl_insertEntry_sorted _ _ .nil⟩

theorem mem_ofEntries {fields : List (κ × α)} {m : κ × α} (h : m ∈ (ofEntries fields).entries) :
    m ∈ fields := (mem_foldl_insertEntry h).resolve_right List.not_mem_nil

theorem ofEntries_map (f : α → β) (fields : List (κ × α)) :
    ofEntries (fields.map fun m => (m.1, f m.2)) = (ofEntries fields).mapValues f := by
  unfold ofEntries mapValues
  congr 1
  exact foldl_insertEntry_map f fields []

theorem ofEntries_entries (m : SortedMap κ α) : ofEntries m.entries = m := by
  obtain ⟨entries, sorted⟩ := m
  unfold ofEntries
  congr 1
  exact foldl_insertEntry entries [] sorted

end SortedMap
