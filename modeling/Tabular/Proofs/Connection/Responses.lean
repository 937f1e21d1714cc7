import Tabular.Proofs.Connection.Framing
import Tabular.Proofs.Session.Complaints
import Tabular.Proofs.Session.LiteralRoundTrip
import Tabular.Proofs.Storage.LinesCodec

/-! The lines of responses: which of them can be the end mark alone. -/
namespace Tabular
open Connection

/-- A row of the answer is the end mark alone. -/
def Answer.ShowsMark : Answer → Prop
  | scan _ rows => [String.singleton endMark] ∈ rows
  | _ => False

/-- What a scan shows are cells, and its columns are not one that the end mark names. -/
def Answer.Shown : Answer → Prop
  | scan columns rows =>
    (∀ line ∈ columns :: rows, ∀ c ∈ line, IsCell c) ∧ columns ≠ [String.singleton endMark]
  | _ => True

namespace Connection

theorem linesOf_intercalate {lines : List String} (hne : lines ≠ []) (h : ∀ l ∈ lines, OneLine l) :
    linesOf ("\n".intercalate lines) = lines.map String.toList := by
  rw [linesOf, String.toList_intercalate]
  exact List.splitOn_intercalate _ (by simpa [OneLine] using h) (by simpa using hne)

theorem linesOf_of_oneLine {s : String} (h : OneLine s) : linesOf s = [s.toList] :=
  linesOf_intercalate (List.cons_ne_nil s []) (by simpa using h)

end Connection

/-- The lines of the response to a scan of cells: a mark of success, the columns and the rows. -/
theorem linesOf_render_scan {columns : List String} {rows : List (List String)}
    (h : ∀ line ∈ columns :: rows, ∀ c ∈ line, IsCell c) :
    linesOf (Answer.scan columns rows).render =
      ("[OK]" :: (columns :: rows).map joinCells).map String.toList := by
  refine linesOf_intercalate (List.cons_ne_nil _ _) (List.forall_mem_cons.2 ⟨by decide, ?_⟩)
  exact List.forall_mem_map.2 fun cells hm => (isLine_joinCells (h cells hm)).1

/-- The response to a statement that succeeds shows the end mark if and only if a row does. -/
theorem Answer.Shown.mem_linesOf_render {a : Answer} (h : a.Shown) :
    [endMark] ∈ linesOf a.render ↔ a.ShowsMark := by
  cases a with
  | scan columns rows =>
    obtain ⟨hcells, hcolumns⟩ := h
    have hmark {line : List String} (hl : line ∈ columns :: rows) :
        (joinCells line).toList = [endMark] ↔ line = [String.singleton endMark] := by
      rw [← Table.joinCells_eq_iff (.inr (by decide)) (fun c hc => (hcells line hl c hc).tab) (by decide),
        ← String.toList_inj]
      rfl
    rw [linesOf_render_scan hcells]
    constructor
    · intro h
      obtain ⟨l, hl, he⟩ := List.mem_map.1 h
      rcases List.mem_cons.1 hl with rfl | hl
      · exact absurd he (by decide)
      · obtain ⟨line, hm, rfl⟩ := List.mem_map.1 hl
        have hline := (hmark hm).1 he
        rcases List.mem_cons.1 hm with rfl | hm
        · exact absurd hline hcolumns
        · rwa [hline] at hm
    · intro h
      have hline := List.mem_cons_of_mem columns h
      exact List.mem_map.2 ⟨_, List.mem_cons_of_mem _ (List.mem_map_of_mem hline), (hmark hline).2 rfl⟩
  | _ =>
    have hok : [endMark] ∉ linesOf "[OK]" := by decide
    exact iff_of_false hok not_false

section Scans
variable {v w : Session Memory} {t : Table}

theorem isCell_empty : IsCell "" := by
  have hempty : IsCell (String.ofList []) := isCell_ofList.2 nofun
  exact hempty

theorem isCell_cellsAt {row : List String} (h : ∀ c ∈ row, IsCell c) (indexes : List Nat) :
    ∀ c ∈ Table.cellsAt row indexes, IsCell c := by
  refine List.forall_mem_map.2 fun i _ => ?_
  cases hi : row[i]? with
  | none => exact isCell_empty
  | some c => exact h c (List.mem_of_getElem? hi)

/-- The end mark is no name of a column: no column that it names is found by one. -/
theorem Table.WellFormed.shown_ne {table text : String} {shown : Projection}
    {condition : Option Condition} {indexes : List Nat} (ht : t.WellFormed)
    (hst : Statement.ofText text = .ok (.select table shown condition))
    (hi : t.projected table shown = .ok indexes) :
    Table.cellsAt t.header indexes ≠ [String.singleton endMark] := by
  intro he
  cases shown with
  | all =>
    cases hi
    rw [Table.cellsAt_range rfl] at he
    have hfirst := ht.header.first
    rw [he] at hfirst
    exact absurd hfirst (by decide)
  | columns names =>
    obtain ⟨i, rfl⟩ : ∃ i, indexes = [i] := List.length_eq_one_iff.1 (by
      simpa [Table.cellsAt] using congrArg List.length he)
    obtain ⟨c, hm, hc⟩ := exists_of_mem_mapM hi (List.mem_singleton_self i)
    have hfound : Text.eqCaseless (String.singleton endMark) c = true := by
      have hfound := Table.findColumn?_of_columnIndex hc
      have hlt := lt_length_of_findColumn? hfound
      have hsame := eqCaseless_of_findColumn? hfound (List.getElem?_eq_getElem hlt)
      have hname : t.header[i]?.getD "" = String.singleton endMark := List.singleton_inj.1 he
      rw [List.getElem?_eq_getElem hlt, Option.getD_some] at hname
      rwa [hname] at hsame
    rcases Statement.star_or_identifier_of_ofText hst c hm with rfl | hid
    · exact absurd hfound (by decide)
    · exact absurd (ofText?_of_eqCaseless hfound hid) (by decide)

theorem isCell_title {name column : String} (hn : IsCell name) (hc : IsCell column) :
    IsCell s!"{name}.{column}" := by
  intro c hm
  simp only [toString_string, String.toList_append, List.mem_append] at hm
  rcases hm with (hm | hm) | hm
  · exact hn c hm
  · obtain rfl := List.mem_singleton.1 hm
    decide
  · exact hc c hm

/-- The first column of a join is the id column of its left table. -/
theorem Table.WellFormed.shown_join {l r : Table} {left right : String} (hl : l.WellFormed)
    (hr : r.WellFormed) (hleft : IsName left) (hright : IsName right) (leftKey rightKey : Nat) :
    (l.join r left right leftKey rightKey).Shown := by
  have htitles {name : String} {header : List String} (hn : IsName name)
      (hc : ∀ c ∈ header, IsCell c) (indexes : List Nat) :
      ∀ c ∈ (cellsAt header indexes).map fun column => s!"{name}.{column}", IsCell c :=
    List.forall_mem_map.2 fun column hm =>
      isCell_title hn.isCell (isCell_cellsAt hc indexes column hm)
  refine ⟨List.forall_mem_cons.2 ⟨?columns, fun row hm => ?row⟩, ?named⟩
  case columns =>
    exact List.forall_mem_append.2 ⟨List.forall_mem_append.2
      ⟨isCell_cellsAt hl.header.cells _, htitles hleft hl.header.cells _⟩,
      htitles hright hr.header.cells _⟩
  case row =>
    obtain ⟨leftRow, hleftRow, hm⟩ := List.mem_flatMap.1 hm
    obtain ⟨rightRow, hrightRow, rfl⟩ := List.mem_map.1 hm
    have hleftCells := hl.cells leftRow hleftRow
    have hrightCells := hr.cells rightRow (List.mem_of_mem_filter hrightRow)
    exact List.forall_mem_append.2 ⟨List.forall_mem_append.2
      ⟨isCell_cellsAt hleftCells _, isCell_cellsAt hleftCells _⟩, isCell_cellsAt hrightCells _⟩
  case named =>
    obtain ⟨columns, hheader⟩ := hl.header.eq_cons
    have hid : idColumn ≠ String.singleton endMark := by decide
    rw [hheader]
    exact fun he => hid (List.cons.inj he).1

/-- The answers of statements that are read from texts, over well-formed tables. -/
theorem Statement.Effect.shown {st : Statement} {a : Answer} {text : String}
    (h : st.Effect v (.ok a) w) (hst : Statement.ofText text = .ok st)
    (hv : v.storage.WellStored) : a.Shown := by
  generalize hr : Except.ok a = r at h
  cases h with
  | @select d table shown condition t indexes ht hh hi =>
    cases hr
    have hwf := ht.wellFormed hv hh
    have hrows : ∀ row ∈ t.rows.filter (t.rowHolds condition),
        ∀ c ∈ Table.cellsAt row indexes, IsCell c :=
      fun row hm => isCell_cellsAt (hwf.cells row (List.mem_of_mem_filter hm)) indexes
    exact ⟨List.forall_mem_cons.2
      ⟨isCell_cellsAt hwf.header.cells indexes, List.forall_mem_map.2 hrows⟩, hwf.shown_ne hst hi⟩
  | @join d left right leftColumn rightColumn l r leftKey rightKey hl hr' hlh hrh hlk hrk =>
    cases hr
    obtain ⟨hleft, hright⟩ := Statement.proper_of_ofText hst
    exact (hl.wellFormed hv hlh).shown_join (hr'.wellFormed hv hrh) hleft hright leftKey rightKey
  | @createTable _ _ _ _ r | @dropTable _ _ _ r =>
    cases r <;> cases hr
    trivial
  | _ => cases hr <;> trivial

end Scans

namespace Session
variable {s : Session (Faulty Memory)} {text : String}

theorem Regular.plain (h : s.shown.Regular IsName IsName) : s.Plain := by
  intro d hd
  obtain ⟨marks, hm⟩ := Option.isSome_iff_exists.1 (h.active d hd)
  exact (h.stored.databases d marks hm).isCell.oneLine

theorem fst_respond_of_answer {a : Answer} (h : s.answer text = .ok a) :
    (s.respond text).1 = a.render := by
  have hrun := respond_of_answer h
  rw [respond]
  split
  · next hblank =>
    rw [execute, Statement.ofText_of_blank hblank] at hrun
    cases hrun
  · rw [hrun]

/-- A statement that is refused is responded to with a line that is not the end mark. -/
theorem endMark_notMem_linesOf_error {e : Error} (h : e.Plain) :
    [endMark] ∉ linesOf s!"[ERROR] {e.message}" := by
  have hline : OneLine s!"[ERROR] {e.message}" := by
    simp only [toString_string, oneLine_append, h.oneLine_message, and_true]
    decide
  rw [linesOf_of_oneLine hline, List.mem_singleton]
  intro he
  simp only [toString_string, String.toList_append] at he
  exact absurd (List.cons.inj he).1 (by decide)

/-- The response to a text of one line has a line that is the end mark alone exactly if the answer
has a row that is. -/
theorem mem_linesOf_respond (hv : s.shown.storage.WellStored) (hr : s.shown.Regular IsName IsName)
    (h : OneLine text) : [endMark] ∈ linesOf (s.respond text).1 ↔
      ∃ a, s.answer text = .ok a ∧ a.ShowsMark := by
  have hplain := plainly_execute h s hr.plain
  cases hrun : execute text s with
  | ok a s' =>
    have hanswer : s.answer text = .ok a := by rw [answer, hrun]
    obtain ⟨st, hst, heffect⟩ := effect_of_answer hanswer
    rw [fst_respond_of_answer hanswer, (heffect.shown hst hv).mem_linesOf_render, hanswer]
    exact ⟨fun hm => ⟨a, rfl, hm⟩, by rintro ⟨b, ⟨⟩, hm⟩; exact hm⟩
  | error e s' =>
    have hanswer : s.answer text = .error e := by rw [answer, hrun]
    rw [hrun] at hplain
    have hquiet : [endMark] ∉ linesOf (s.respond text).1 := by
      rw [respond]
      split
      · exact (by decide : [endMark] ∉ linesOf "[ERROR] Empty command received.")
      · rw [hrun]
        exact endMark_notMem_linesOf_error hplain.1
    exact iff_of_false hquiet (by rw [hanswer]; rintro ⟨a, ⟨⟩, -⟩)

end Session

end Tabular
