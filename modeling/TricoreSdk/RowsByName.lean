import Mathlib.Data.List.Nodup
import TricoreSdk.Sql

/-! Reading a result set by column name (`Rows::get` and `Rows::maps` of `sql.rs`): what the two
ways make of a name that several columns bear, and of a row that is not as long as the columns. -/

namespace TricoreSdk

def Rows.len (rows : Rows) : Nat := rows.rows.length

def Rows.get (rows : Rows) (row : Nat) (column : String) : Option String := do
  let index ← rows.columns.findIdx? fun c => c == column
  let cells ← rows.rows[row]?
  cells[index]?

def Rows.maps (rows : Rows) : List (Std.HashMap String String) :=
  rows.rows.map fun row => Std.HashMap.ofList (rows.columns.zip row)

/-- The cells of a row under the columns of a name, from left to right. -/
def cellsUnder (columns row : List String) (column : String) : List String :=
  ((columns.zip row).filter fun cell => cell.1 == column).map Prod.snd

def Rows.cells (rows : Rows) (row : Nat) (column : String) : List String :=
  match rows.rows[row]? with
  | none => []
  | some cells => cellsUnder rows.columns cells column

theorem head?_cellsUnder (columns row : List String) (column : String) :
    (cellsUnder columns row column).head? =
      (columns.findIdx? fun c => c == column).bind fun index => row[index]? := by
  induction columns generalizing row with
  | nil => rfl
  | cons c columns ih =>
    cases row with
    | nil => cases (c :: columns).findIdx? fun c => c == column <;> rfl
    | cons cell row =>
      by_cases named : (c == column) = true
      · simp [cellsUnder, List.findIdx?_cons, named]
      · have rest := ih row
        simp only [cellsUnder] at rest
        simp only [cellsUnder, List.zip_cons_cons, List.filter_cons, List.findIdx?_cons, named,
          Bool.false_eq_true, if_false, rest]
        cases columns.findIdx? fun c => c == column <;> rfl

theorem length_cellsUnder_le (columns row : List String) (column : String) :
    (cellsUnder columns row column).length ≤ columns.count column := by
  induction columns generalizing row with
  | nil => exact Nat.le_refl 0
  | cons c columns ih =>
    cases row with
    | nil => exact Nat.zero_le _
    | cons cell row =>
      have rest := ih row
      simp only [cellsUnder, List.length_map] at rest
      simp only [cellsUnder, List.zip_cons_cons, List.filter_cons, List.length_map,
        List.count_cons]
      by_cases named : (c == column) = true
      · simpa [named] using rest
      · simpa [named] using rest

theorem ofList_getElem? (pairs : List (String × String)) (key : String) :
    (Std.HashMap.ofList pairs)[key]? =
      ((pairs.filter fun pair => pair.1 == key).map Prod.snd).getLast? := by
  have valued : (pairs.filter fun pair => pair.1 == key).map Prod.snd =
      pairs.filterMap fun pair => if pair.1 == key then some pair.2 else none := by
    rw [← List.filterMap_eq_filter, List.map_filterMap]
    refine List.filterMap_congr fun pair _ => ?_
    by_cases named : (pair.1 == key) = true
    · simp [Option.guard, named]
    · simp [Option.guard, named]
  rw [valued, List.getLast?_filterMap, Std.HashMap.ofList_eq_insertMany_empty,
    Std.HashMap.getElem?_insertMany_list, List.findSomeRev?_eq_findSome?_reverse,
    Std.HashMap.getElem?_empty, Option.or_none]

namespace Rows

theorem len_maps (rows : Rows) : rows.maps.length = rows.len := by
  rw [maps, List.length_map, len]

theorem get_eq_head? (rows : Rows) (row : Nat) (column : String) :
    rows.get row column = (rows.cells row column).head? := by
  unfold get cells
  cases found : rows.rows[row]? with
  | none => cases rows.columns.findIdx? fun c => c == column <;> rfl
  | some cells => exact (head?_cellsUnder rows.columns cells column).symm

theorem maps_getElem? (rows : Rows) (row : Nat) (h : row < rows.len) :
    ∃ map, rows.maps[row]? = some map ∧
      ∀ column, map[column]? = (rows.cells row column).getLast? := by
  have found : rows.rows[row]? = some rows.rows[row] := List.getElem?_eq_getElem h
  refine ⟨Std.HashMap.ofList (rows.columns.zip rows.rows[row]), ?_, fun column => ?_⟩
  · rw [maps, List.getElem?_map, found, Option.map_some]
  · rw [ofList_getElem?, cells, found]
    rfl

/-- What the two ways to read a cell say of a name agrees. -/
def Agree (rows : Rows) (row : Nat) (column : String) : Prop :=
  ∃ map, rows.maps[row]? = some map ∧ rows.get row column = map[column]? ∧
    (rows.get row column = none ↔ column ∉ map)

theorem Agree.ends {rows : Rows} {row : Nat} {column : String} (h : row < rows.len)
    (agree : rows.Agree row column) :
    (rows.cells row column).head? = (rows.cells row column).getLast? := by
  obtain ⟨map, at_row, held⟩ := rows.maps_getElem? row h
  obtain ⟨map', at_row', same, -⟩ := agree
  obtain rfl : map = map' := Option.some.inj (at_row.symm.trans at_row')
  rw [← rows.get_eq_head?, same, held]

theorem agree_of_ends {rows : Rows} {row : Nat} {column : String} (h : row < rows.len)
    (ends : (rows.cells row column).head? = (rows.cells row column).getLast?) :
    rows.Agree row column := by
  obtain ⟨map, at_row, held⟩ := rows.maps_getElem? row h
  have same : rows.get row column = map[column]? := by rw [rows.get_eq_head?, ends, held]
  refine ⟨map, at_row, same, ?_⟩
  rw [same, getElem?_eq_none_iff]

/-- The two ways agree on a name exactly when the first and the last cell under it hold the
same text. -/
theorem agree_iff (rows : Rows) (row : Nat) (column : String) (h : row < rows.len) :
    rows.Agree row column ↔
      (rows.cells row column).head? = (rows.cells row column).getLast? :=
  ⟨Agree.ends h, agree_of_ends h⟩

/-- A join of two tables that both have a column `id`. -/
def joined : Rows where
  columns := ["id", "name", "id"]
  rows := [["1", "ada", "2"], ["3", "eve", "3"], ["4"]]

theorem joined_agree : joined.Agree 1 "id" :=
  (agree_iff joined 1 "id" (by decide)).mpr (by decide)

theorem joined_not_agree :
    ¬ ∀ (rows : Rows) (row : Nat) (column : String), row < rows.len → rows.Agree row column := by
  intro h
  have inRange : 0 < joined.len := by decide
  exact absurd ((h joined 0 "id" inRange).ends inRange) (by decide)

theorem agree_of_nodup (rows : Rows) (row : Nat) (column : String) (h : row < rows.len)
    (distinct : rows.columns.Nodup) : rows.Agree row column := by
  refine agree_of_ends h ?_
  have single : (rows.cells row column).length ≤ 1 := by
    unfold cells
    split
    · exact Nat.zero_le 1
    · exact (length_cellsUnder_le _ _ column).trans
        (List.nodup_iff_count_le_one.mp distinct column)
  match rows.cells row column, single with
  | [], _ => rfl
  | [cell], _ => rfl

end Rows

end TricoreSdk
