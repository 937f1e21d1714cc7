import Mathlib.Data.Multiset.Bind
import Tabular.Proofs.Table.KeyEquality
import Tabular.Proofs.Table.WellFormed

/-! Joins: the pairs of rows whose keys match, side by side, as many of them from either side. -/
namespace Tabular

def cellsOff (off : Nat → Bool) (row : List String) : List String :=
  (row.zipIdx.filter fun cell => !off cell.2).map Prod.fst

section Cells
variable {off : Nat → Bool} {row : List String}

theorem cellsOff_eq_cellsAt (off : Nat → Bool) (row : List String) :
    cellsOff off row = Table.cellsAt row ((List.range row.length).filter (!off ·)) := by
  have hplaces : row.zipIdx = (List.range row.length).map fun i => (row[i]?.getD "", i) := by
    refine List.ext_getElem (by simp) fun i hi _ => ?_
    have hlt : i < row.length := by simpa using hi
    simp [List.getElem?_eq_getElem hlt]
  rw [cellsOff, hplaces, List.filter_map, List.map_map]
  rfl

theorem cellsAt_indexesWithout {t : Table} (hw : row.length = t.header.length) :
    Table.cellsAt row (t.indexesWithout off) = cellsOff off row := by
  rw [cellsOff_eq_cellsAt, Table.indexesWithout, hw]

theorem length_cellsOff {row' : List String} (hw : row.length = row'.length) :
    (cellsOff off row).length = (cellsOff off row').length := by
  rw [cellsOff_eq_cellsAt, cellsOff_eq_cellsAt, length_cellsAt, length_cellsAt, hw]

theorem cellsAt_zero (hne : row ≠ []) : Table.cellsAt row [0] = [row.headD ""] := by
  cases row with
  | nil => exact absurd rfl hne
  | cons first rest => rfl

end Cells

section Pairs
variable {α β : Type} (p : α × β → Bool) (xs : List α) (ys : List β)

/-- The pairs that are kept are those of each left item with the right items that it is kept
with. -/
theorem map_filter_product {γ : Type} (f : α × β → γ) : ((xs ×ˢ ys).filter p).map f =
    xs.flatMap fun x => (ys.filter fun y => p (x, y)).map fun y => f (x, y) := by
  change ((xs.flatMap fun x => ys.map (Prod.mk x)).filter p).map f = _
  simp only [List.filter_flatMap, List.map_flatMap, List.filter_map, List.map_map,
    Function.comp_def]

/-- Pairs are counted alike with their items swapped. -/
theorem countP_product_swap : (ys ×ˢ xs).countP (p ∘ Prod.swap) = (xs ×ˢ ys).countP p := by
  have hswap := Multiset.map_swap_product (ys : Multiset β) (xs : Multiset α)
  rw [Multiset.coe_product, Multiset.coe_product, Multiset.map_coe, Multiset.coe_eq_coe] at hswap
  rw [← hswap.countP_eq, List.countP_map]

end Pairs

def rowsMatch (i j : Nat) (pair : List String × List String) : Bool :=
  keysMatch (pair.1[i]?.getD "") (pair.2[j]?.getD "")

theorem rowsMatch_swap (i j : Nat) : rowsMatch j i = rowsMatch i j ∘ Prod.swap := by
  funext pair
  rw [Function.comp_apply, rowsMatch, rowsMatch, keysMatch_symm, Prod.fst_swap, Prod.snd_swap]

/-- The first cell of the left row, its other cells but the key, and the cells of the right row but
the key. -/
def joinedRow (i j : Nat) (pair : List String × List String) : List String :=
  pair.1.headD "" :: (cellsOff (fun k => k == 0 || k == i) pair.1 ++ cellsOff (· == j) pair.2)

def joinedColumns (l r : Table) (left right : String) (i j : Nat) : List String :=
  l.header.headD "" ::
    ((cellsOff (fun k => k == 0 || k == i) l.header).map (left ++ "." ++ ·) ++
      (cellsOff (· == j) r.header).map (right ++ "." ++ ·))

namespace Table
variable {l r : Table} {i j : Nat}

/-- The pairs of rows whose keys match, in the order of the left rows and then of the right ones. -/
def matchedRows (l r : Table) (i j : Nat) : List (List String × List String) :=
  (l.rows ×ˢ r.rows).filter (rowsMatch i j)

theorem mem_of_mem_matchedRows {pair : List String × List String}
    (h : pair ∈ l.matchedRows r i j) : pair.1 ∈ l.rows ∧ pair.2 ∈ r.rows :=
  List.mem_product.1 (List.mem_of_mem_filter h)

theorem length_matchedRows_swap (l r : Table) (i j : Nat) :
    (r.matchedRows l j i).length = (l.matchedRows r i j).length := by
  rw [matchedRows, matchedRows, ← List.countP_eq_length_filter, ← List.countP_eq_length_filter,
    rowsMatch_swap, countP_product_swap]

/-- Tables are joined row by row. -/
theorem WellFormed.join_eq (hl : l.WellFormed) (hr : r.WellFormed) (left right : String) :
    l.join r left right i j =
      .scan (joinedColumns l r left right i j) ((l.matchedRows r i j).map (joinedRow i j)) := by
  rw [join]
  refine congrArg₂ Answer.scan ?_ ?_
  · rw [cellsAt_zero hl.header_ne_nil, cellsAt_indexesWithout rfl, cellsAt_indexesWithout rfl]
    rfl
  · rw [matchedRows, map_filter_product]
    refine List.flatMap_congr fun row hrow => List.map_congr_left fun row' hrow' => ?_
    rw [cellsAt_zero (hl.row_ne_nil hrow), cellsAt_indexesWithout (hl.width row hrow),
      cellsAt_indexesWithout (hr.width row' (List.mem_of_mem_filter hrow'))]
    rfl

theorem WellFormed.length_joinedRow (hl : l.WellFormed) (hr : r.WellFormed) (left right : String)
    {pair : List String × List String} (h : pair ∈ l.matchedRows r i j) :
    (joinedRow i j pair).length = (joinedColumns l r left right i j).length := by
  obtain ⟨hleft, hright⟩ := mem_of_mem_matchedRows h
  rw [joinedRow, joinedColumns, List.length_cons, List.length_cons, List.length_append,
    List.length_append, List.length_map, List.length_map, length_cellsOff (hl.width _ hleft),
    length_cellsOff (hr.width _ hright)]

end Table

end Tabular
