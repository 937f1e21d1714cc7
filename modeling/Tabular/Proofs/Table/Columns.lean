import Tabular.Proofs.Table.Assignments

/-! Columns that are added at the end and dropped anywhere: what is shown and compared of the other
columns stays the same, and nothing finds a column that is dropped. -/
namespace Tabular

section Places
variable {α : Type} {l : List α} {k i : Nat}

/-- The place of what stands at a place, once what stands at another one is taken out. -/
def placeWithout (k i : Nat) : Nat := if i ≤ k then i else i - 1

theorem getElem?_eraseIdx_placeWithout (l : List α) (h : i ≠ k) :
    (l.eraseIdx k)[placeWithout k i]? = l[i]? := by
  rw [List.getElem?_eraseIdx, placeWithout]
  split
  · next hle => rw [if_pos (Nat.lt_of_le_of_ne hle h)]
  · next hgt =>
    rw [if_neg (by omega)]
    congr 1
    omega

theorem findIdx?_eraseIdx {p : α → Bool} (h : ∀ a, l[k]? = some a → p a = false) :
    (l.eraseIdx k).findIdx? p = (l.findIdx? p).map (placeWithout k) := by
  induction l generalizing k with
  | nil => rfl
  | cons a rest ih =>
    rw [List.findIdx?_cons]
    cases k with
    | zero =>
      have ha : ¬p a = true := by simp [h a rfl]
      rw [List.eraseIdx_cons_zero, if_neg ha, Option.map_map]
      exact Option.map_id'.symm
    | succ k =>
      rw [List.eraseIdx_cons_succ, List.findIdx?_cons, ih h]
      split
      · rfl
      · rw [Option.map_map, Option.map_map]
        congr 1
        funext i
        change placeWithout k i + 1 = placeWithout (k + 1) (i + 1)
        unfold placeWithout
        split <;> split <;> omega

end Places

def Condition.Mentions (name : String) : Condition → Prop
  | comparison column _ _ => Text.eqCaseless column name = true
  | and left right | or left right => left.Mentions name ∨ right.Mentions name

/-- No comparison of a column that there is not holds. -/
theorem Condition.not_holds_of_missing {header : List String} {column : String}
    (h : findColumn? header column = none) (op : Comparison) (value : String) (row : List String) :
    (comparison column op value).holds header row = false := by
  rw [holds, h]

theorem findColumn?_eraseIdx_self {header : List String} {k : Nat} {x : String}
    (hd : header.Pairwise fun a b => Text.eqCaseless a b = false)
    (hk : findColumn? header x = some k) : findColumn? (header.eraseIdx k) x = none := by
  refine findColumn?_eq_none.2 fun name hname => ?_
  obtain ⟨j, hne, hj⟩ := List.mem_eraseIdx_iff_getElem?.1 hname
  exact Bool.eq_false_iff.2 fun he => hne ((eq_index_iff hd hk hj).2 he)

theorem findColumn?_concat {header : List String} {x : String}
    (hnew : findColumn? header x = none) :
    findColumn? (header ++ [x]) x = some header.length := by
  rw [findColumn?] at hnew
  rw [findColumn?, List.findIdx?_append, hnew, List.findIdx?_singleton,
    if_pos (Text.eqCaseless_refl x)]
  exact congrArg some (Nat.zero_add _)

section Erased
variable {header : List String} {k : Nat} {x : String}
  (hx : ∀ name, header[k]? = some name → Text.eqCaseless name x = true)
include hx

theorem findColumn?_eraseIdx {column : String} (hc : Text.eqCaseless column x = false) :
    findColumn? (header.eraseIdx k) column =
      (findColumn? header column).map (placeWithout k) := by
  refine findIdx?_eraseIdx fun name hname => ?_
  rw [Bool.eq_false_iff] at hc ⊢
  exact fun he => hc (Text.eqCaseless_trans (Text.eqCaseless_symm he) (hx name hname))

theorem ne_of_findColumn? {column : String} (hc : Text.eqCaseless column x = false) {i : Nat}
    (hi : findColumn? header column = some i) : i ≠ k := by
  rintro rfl
  have hname := List.getElem?_eq_getElem (lt_length_of_findColumn? hi)
  have hfound := eqCaseless_of_findColumn? hi hname
  rw [Bool.eq_false_iff] at hc
  exact hc (Text.eqCaseless_trans (Text.eqCaseless_symm hfound) (hx _ hname))

/-- A condition that does not mention a column holds with and without it. -/
theorem Condition.holds_eraseIdx {c : Condition} (hc : ¬c.Mentions x) (row : List String) :
    c.holds (header.eraseIdx k) (row.eraseIdx k) = c.holds header row := by
  induction c with
  | comparison column op value =>
    have hcolumn : Text.eqCaseless column x = false := Bool.eq_false_iff.2 hc
    rw [holds, holds, findColumn?_eraseIdx hx hcolumn]
    cases hi : findColumn? header column with
    | none => rfl
    | some i =>
      rw [Option.map_some]
      dsimp only
      rw [getElem?_eraseIdx_placeWithout row (ne_of_findColumn? hx hcolumn hi)]
  | and left right hleft hright =>
    rw [holds, holds, hleft fun h => hc (.inl h), hright fun h => hc (.inr h)]
  | or left right hleft hright =>
    rw [holds, holds, hleft fun h => hc (.inl h), hright fun h => hc (.inr h)]

end Erased

namespace Table
variable {t : Table} {name x : String} {k : Nat}

def without (t : Table) (k : Nat) : Table := ⟨t.header.eraseIdx k, t.rows.map (·.eraseIdx k)⟩

def selected (t : Table) (name : String) (shown : Projection) (condition : Option Condition) :
    Except Error Answer :=
  (t.projected name shown).map (t.scan · condition)

theorem cellsAt_eraseIdx (row : List String) {indexes : List Nat} (h : k ∉ indexes) :
    cellsAt (row.eraseIdx k) (indexes.map (placeWithout k)) = cellsAt row indexes := by
  rw [cellsAt, cellsAt, List.map_map]
  refine List.map_congr_left fun i hi => ?_
  rw [Function.comp_apply, getElem?_eraseIdx_placeWithout row (ne_of_mem_of_not_mem hi h)]

section Without
variable (hx : ∀ name, t.header[k]? = some name → Text.eqCaseless name x = true)
include hx

theorem columnIndex_without {column : String} (hc : Text.eqCaseless column x = false) :
    (t.without k).columnIndex name column = (t.columnIndex name column).map (placeWithout k) := by
  rw [columnIndex, columnIndex, without, findColumn?_eraseIdx hx hc]
  cases findColumn? t.header column <;> rfl

theorem projected_without {names : List String}
    (hn : ∀ column ∈ names, Text.eqCaseless column x = false) :
    (t.without k).projected name (.columns names) =
      (t.projected name (.columns names)).map (List.map (placeWithout k)) :=
  mapM_eq_map_mapM fun column hm => columnIndex_without hx (hn column hm)

theorem not_mem_of_projected {names : List String} {indexes : List Nat}
    (hn : ∀ column ∈ names, Text.eqCaseless column x = false)
    (hi : t.projected name (.columns names) = .ok indexes) : k ∉ indexes := by
  intro hk
  obtain ⟨column, hm, hfound⟩ := exists_of_mem_mapM hi hk
  exact ne_of_findColumn? hx (hn column hm) (findColumn?_of_columnIndex hfound) rfl

/-- Rows that a condition holds of, without a column that it does not mention. -/
theorem filter_rowHolds_without {condition : Option Condition}
    (hc : ∀ c ∈ condition, ¬c.Mentions x) :
    (t.without k).rows.filter ((t.without k).rowHolds condition) =
      (t.rows.filter (t.rowHolds condition)).map (·.eraseIdx k) := by
  rw [without, List.filter_map]
  congr 1
  refine List.filter_congr fun row _ => ?_
  cases condition with
  | none => rfl
  | some c => exact Condition.holds_eraseIdx hx (hc c rfl) row

/-- Nothing but a column is missing without it: what is answered to a selection that does not
mention it is the same. -/
theorem selected_without {names : List String} {condition : Option Condition}
    (hn : ∀ column ∈ names, Text.eqCaseless column x = false)
    (hc : ∀ c ∈ condition, ¬c.Mentions x) :
    (t.without k).selected name (.columns names) condition =
      t.selected name (.columns names) condition := by
  rw [selected, selected, projected_without hx hn]
  cases hi : t.projected name (.columns names) with
  | error e => rfl
  | ok indexes =>
    have hk := not_mem_of_projected hx hn hi
    have hscan : (t.without k).scan (indexes.map (placeWithout k)) condition =
        t.scan indexes condition := by
      rw [scan, scan, filter_rowHolds_without hx hc, List.map_map]
      congr 1
      · exact cellsAt_eraseIdx t.header hk
      · exact List.map_congr_left fun row _ => cellsAt_eraseIdx row hk
    exact congrArg Except.ok hscan

end Without

section Changes

theorem fit_eq_self (h : ∀ row ∈ t.rows, row.length = t.header.length) : t.fit = t := by
  have hrow : ∀ row ∈ t.rows, fitRow t.header.length row = row := fun row hr => by
    rw [fitRow, List.take_of_length_le (Nat.le_of_eq (h row hr)),
      padRow_of_le (Nat.le_of_eq (h row hr).symm)]
  rw [fit, (List.map_congr_left hrow).trans (List.map_id' _)]

theorem fitRow_succ {row : List String} {width : Nat} (h : row.length = width) :
    fitRow (width + 1) row = row ++ [nullCell] := by
  subst h
  rw [fitRow, List.take_of_length_le (Nat.le_succ _), padRow, List.rightpad, Nat.add_sub_cancel_left]
  rfl

/-- A new column stands at the end, with null cells. -/
theorem WellFormed.addColumn_eq (h : t.WellFormed) (x : String) :
    t.addColumn x = ⟨t.header ++ [x], t.rows.map (· ++ [nullCell])⟩ := by
  rw [addColumn, List.isEmpty_eq_false_iff.2 h.header_ne_nil]
  refine congrArg (Table.mk _) (List.map_congr_left fun row hr => ?_)
  change fitRow (t.header ++ [x]).length row = _
  rw [List.length_append]
  exact fitRow_succ (h.width row hr)

/-- A column is taken out of the header and of all rows. -/
theorem WellFormed.dropColumn_eq (h : t.WellFormed) (hk : k < t.header.length) :
    t.dropColumn k = t.without k := by
  refine fit_eq_self (t := t.without k) (List.forall_mem_map.2 fun row hr => ?_)
  have hw := h.width row hr
  rw [List.length_eraseIdx_of_lt (hw.symm ▸ hk), hw]
  exact (List.length_eraseIdx_of_lt hk).symm

theorem WellFormed.without_addColumn (h : t.WellFormed) (x : String) :
    (t.addColumn x).without t.header.length = t := by
  have herase {row : List String} (hw : row.length = t.header.length) (cell : String) :
      (row ++ [cell]).eraseIdx t.header.length = row := by
    rw [← hw, List.eraseIdx_append_of_length_le (Nat.le_refl _), Nat.sub_self]
    exact List.append_nil row
  rw [h.addColumn_eq, without, herase rfl, List.map_map]
  refine congrArg (Table.mk _) ((List.map_congr_left fun row hr => ?_).trans (List.map_id _))
  exact herase (h.width row hr) nullCell

/-- A new column is shown beside the ids with null cells. -/
theorem WellFormed.selected_addColumn (h : t.WellFormed) {id column : String}
    (hid : isIdColumn id = true) (hnew : findColumn? t.header x = none)
    (hc : Text.eqCaseless x column = true) :
    (t.addColumn x).selected name (.columns [id, column]) none =
      .ok (.scan [idColumn, x] (t.rows.map fun row => [row.headD "", nullCell])) := by
  obtain ⟨columns, hcolumns⟩ := h.header.eq_cons
  have hfirst : findColumn? (t.header ++ [x]) id = some 0 :=
    findColumn?_id (by rw [hcolumns]; rfl) hid
  have hlast := (findColumn?_congr hc _).symm.trans (findColumn?_concat hnew)
  have hindexes : (t.addColumn x).projected name (.columns [id, column]) =
      .ok [0, t.header.length] := by
    rw [h.addColumn_eq, projected, List.mapM_cons, columnIndex_of_findColumn? hfirst,
      List.mapM_cons, columnIndex_of_findColumn? hlast]
    rfl
  have hcells (row : List String) (hw : row.length = t.header.length) (cell : String) :
      cellsAt (row ++ [cell]) [0, t.header.length] = [row.headD "", cell] := by
    cases row with
    | nil =>
      rw [hcolumns] at hw
      cases hw
    | cons first rest =>
      rw [cellsAt, ← hw, List.map_cons, List.map_cons, List.getElem?_concat_length]
      rfl
  have hheader : cellsAt (t.header ++ [x]) [0, t.header.length] = [idColumn, x] := by
    rw [hcells t.header rfl, hcolumns]
    rfl
  have hrows := List.map_congr_left fun row hr => hcells row (h.width row hr) nullCell
  have hall : (t.addColumn x).rows.filter ((t.addColumn x).rowHolds none) = (t.addColumn x).rows :=
    List.filter_eq_self.2 fun _ _ => rfl
  rw [selected, hindexes]
  change Except.ok ((t.addColumn x).scan [0, t.header.length] none) = _
  rw [scan, hall, h.addColumn_eq, List.map_map]
  refine congrArg Except.ok ?_
  exact congrArg₂ Answer.scan hheader hrows

end Changes

/-- A column that there is not yet is added, or one that there is is dropped. -/
inductive Alters (t : Table) (x : String) : ColumnChange → Table → Prop where
  | add (hnew : findColumn? t.header x = none) : Alters t x .add (t.addColumn x)
  | drop {k : Nat} (hk : findColumn? t.header x = some k) : Alters t x .drop (t.dropColumn k)

namespace Alters
variable {what : ColumnChange} {new : Table}

theorem wellFormed (ha : t.Alters x what new) (h : t.WellFormed) (hid : isIdColumn x = false)
    (hc : IsCell x) : new.WellFormed := by
  cases ha with
  | add hnew => exact addColumn_sound (.inr h) hid hnew hc
  | drop hk =>
    refine h.dropColumn fun hzero => ?_
    rw [hzero] at hk
    exact findColumn?_ne_zero h.header.first hid hk

/-- What is answered to a selection that does not mention the column that is added or dropped is
the same before and after. -/
theorem selected_eq (ha : t.Alters x what new) (h : t.WellFormed) {names : List String}
    {condition : Option Condition} (hn : ∀ column ∈ names, Text.eqCaseless column x = false)
    (hc : ∀ c ∈ condition, ¬c.Mentions x) :
    new.selected name (.columns names) condition =
      t.selected name (.columns names) condition := by
  cases ha with
  | add =>
    -- The table before is the new one without its last column.
    have hlast : ∀ column, (t.addColumn x).header[t.header.length]? = some column →
        Text.eqCaseless column x = true := by
      intro column hcolumn
      rw [h.addColumn_eq, List.getElem?_concat_length] at hcolumn
      cases hcolumn
      exact Text.eqCaseless_refl _
    have hsame : ((t.addColumn x).without t.header.length).selected name (.columns names) condition =
        (t.addColumn x).selected name (.columns names) condition :=
      selected_without hlast hn hc
    rw [h.without_addColumn] at hsame
    exact hsame.symm
  | drop hk =>
    rw [h.dropColumn_eq (lt_length_of_findColumn? hk)]
    exact selected_without (fun _ => eqCaseless_of_findColumn? hk) hn hc

/-- A column that has been added can be dropped by any name that differs from its own in the case
of ASCII letters alone, which leaves the table as it was. -/
theorem undo {x' : String} (ha : t.Alters x .add new) (h : t.WellFormed) (hnew : new.WellFormed)
    (hx : Text.eqCaseless x x' = true) : new.Alters x' .drop t := by
  cases ha with
  | add hnone =>
    have hk : findColumn? (t.addColumn x).header x' = some t.header.length := by
      rw [← findColumn?_congr hx, h.addColumn_eq]
      exact findColumn?_concat hnone
    have hdrop : (t.addColumn x).dropColumn t.header.length = t := by
      rw [hnew.dropColumn_eq (lt_length_of_findColumn? hk), h.without_addColumn]
    have hdropped : (t.addColumn x).Alters x' .drop _ := .drop hk
    rwa [hdrop] at hdropped

end Alters

section Missing
variable {column : String} (hm : findColumn? t.header column = none)
include hm

theorem projected_error {names : List String} (hc : column ∈ names) (name : String) :
    ∃ cause, t.projected name (.columns names) = .error (.schema cause) := by
  cases hp : t.projected name (.columns names) with
  | ok indexes =>
    obtain ⟨i, hi⟩ := List.getElem?_of_mem hc
    obtain ⟨k, -, hk⟩ := exists_getElem?_of_mapM hp hi
    rw [findColumn?_of_columnIndex hk] at hm
    cases hm
  | error e =>
    obtain ⟨missing, -, hmissing⟩ := exists_of_mapM_error hp
    exact ⟨_, congrArg _ (eq_of_columnIndex_error hmissing)⟩

theorem assignments_error {pairs : List (String × String)} {literal : String}
    (hc : (column, literal) ∈ pairs) (name : String) :
    ∃ cause, t.assignments name pairs = .error (.schema cause) := by
  cases hp : t.assignments name pairs with
  | ok cells =>
    obtain ⟨-, found, hfound, he⟩ := exists_column_of_assignments hp _ hc
    rw [findColumn?_eq_none.1 hm found hfound] at he
    cases he
  | error e =>
    obtain ⟨pair, -, rfl | rfl | rfl⟩ := exists_of_assignments_error hp <;> exact ⟨_, rfl⟩

end Missing

end Table

end Tabular
