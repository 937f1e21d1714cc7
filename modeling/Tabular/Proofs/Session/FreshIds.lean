import Tabular.Proofs.Session.StoredTables

/-! Ids are not handed out twice: the marks of a table that stays never fall below an id it has
handed out. -/
namespace Tabular

def IdMarks.AtLeast (marks : IdMarks) (t : String) (n : UInt64) : Prop :=
  ∃ mark, marks.get? t = some mark ∧ n ≤ mark

/-- Each of the tables has the higher of its mark and its highest id; no other table has a mark. -/
theorem get?_raiseMarks (marks : IdMarks) (tables : List String) (highest : String → UInt64)
    (t : String) :
    (raiseMarks marks (tables.map fun t => (t, highest t))).get? t =
      if t ∈ tables then some (max ((marks.get? t).getD 0) (highest t)) else none := by
  have hfold : ∀ (tables : List String) (start : IdMarks),
      ((tables.map fun t => (t, highest t)).foldl
        (fun marks e => marks.insert e.1 (max ((marks.get? e.1).getD 0) e.2)) start).get? t =
      if t ∈ tables then some (max ((start.get? t).getD 0) (highest t)) else start.get? t := by
    intro tables
    induction tables with
    | nil => intro start; rfl
    | cons u rest ih =>
      intro start
      rw [List.map_cons, List.foldl_cons, ih, SortedMap.get?_insert]
      by_cases hu : t = u
      · subst hu
        rw [if_pos rfl, Option.getD_some, if_pos (List.mem_cons_self ..)]
        split
        · congr 1
          dsimp only
          rw [← UInt64.toNat_inj, toNat_max, toNat_max]
          omega
        · rfl
      · simp only [hu, if_false, List.mem_cons, false_or]
  have hkept : t ∈ (tables.map fun t => (t, highest t)).map (·.1) ↔ t ∈ tables := by simp
  rw [raiseMarks, hfold, SortedMap.get?_filterKeys]
  simp only [decide_eq_true_eq, hkept]
  split <;> rfl

namespace Session
variable {v w : Session Memory} {d t : String} {n : UInt64}

/-- The marks of a table, those that are stored and those of a session in its database, are at or
above an id. -/
structure Floor (v : Session Memory) (d t : String) (n : UInt64) : Prop where
  stored : ∃ marks, v.storage.marks? d = some marks ∧ marks.AtLeast t n
  held : v.context.database = some d → v.context.marks.AtLeast t n

theorem Floor.of_marks?_eq {m : Memory} (h : v.Floor d t n) (hm : m.marks? d = v.storage.marks? d) :
    Floor { v with storage := m } d t n :=
  ⟨hm ▸ h.stored, h.held⟩

/-- New marks keep the floor if they keep it for the active database. -/
theorem Floor.marked {marks : IdMarks} {r : Except Error Unit} (h : v.Floor d t n)
    (hw : v.Marked marks r w) (hm : v.context.database = some d → marks.AtLeast t n) :
    w.Floor d t n := by
  cases hw with
  | unsaved => exact ⟨h.stored, hm⟩
  | saved he hs =>
    refine ⟨?_, hm⟩
    rw [(Memory.of_saveIdMarks hs).2.1]
    split
    · next hd => exact ⟨marks, rfl, hm (hd ▸ he)⟩
    · exact h.stored

theorem Floor.forgot {table : String} {r : Except Error Unit} (h : v.Floor d t n)
    (hw : v.Forgot table r w) (ht : v.context.database = some d → t ≠ table) : w.Floor d t n := by
  cases hw with
  | unknown => exact h
  | marked _ hm =>
    refine h.marked hm fun hd => ?_
    obtain ⟨mark, hmark, hle⟩ := h.held hd
    exact ⟨mark, by rw [SortedMap.get?_erase, if_neg (ht hd), hmark], hle⟩

/-- Handing out an id raises the mark of its table. -/
theorem Floor.recorded {table : String} {old : Table} {id : UInt64} (h : v.Floor d t n)
    (hid : v.context.nextId table old = .ok id) (hd : v.context.database = some d) :
    IdMarks.AtLeast (v.context.marks.insert table id) t n := by
  obtain ⟨mark, hmark, hle⟩ := h.held hd
  by_cases ht : t = table
  · subst ht
    refine ⟨id, by rw [SortedMap.get?_insert, if_pos rfl], ?_⟩
    have := Context.toNat_nextId hid
    rw [hmark, Option.getD_some] at this
    rw [UInt64.le_iff_toNat_le] at hle ⊢
    omega
  · exact ⟨mark, by rw [SortedMap.get?_insert, if_neg ht, hmark], hle⟩

end Session

open Session in
/-- What a statement does to other tables, and to a table that stays, keeps its marks above the ids
handed out. -/
theorem Statement.Effect.floor {v w : Session Memory} {st : Statement} {r : Except Error Answer}
    {d t : String} {n : UInt64} (h : st.Effect v r w) (hv : v.Floor d t n)
    (live : (v.storage.lines? d t).isSome = true) (live' : (w.storage.lines? d t).isSome = true) :
    w.Floor d t n := by
  cases h with
  | refused | select | join => exact hv
  | @use e tables marks ht hm =>
    obtain ⟨old, hold, mark, hmark, hle⟩ := hv.stored
    refine ⟨⟨old, hold, mark, hmark, hle⟩, fun he => ?_⟩
    obtain rfl : e = d := Option.some.inj he
    obtain rfl : marks = old := Option.some.inj (hm.symm.trans hold)
    refine ⟨_, (get?_raiseMarks marks tables _ t).trans
      (if_pos ((Memory.mem_of_ask_listTables ht t).2 live)), ?_⟩
    rw [hmark, Option.getD_some, UInt64.le_iff_toNat_le, toNat_max]
    exact Nat.le_trans (UInt64.le_iff_toNat_le.1 hle) (Nat.le_max_left _ _)
  | createDatabase hm =>
    obtain ⟨hnone, hmarks, -⟩ := Memory.of_createDatabase hm
    refine hv.of_marks?_eq ((hmarks d).trans (if_neg ?_))
    rintro rfl
    obtain ⟨old, hold, -⟩ := hv.stored
    cases hnone.symm.trans hold
  | dropTables hm => exact hv.of_marks?_eq (hm.marks?_eq d)
  | @dropDatabase e m m' hm hm' =>
    obtain ⟨-, hnone, hmarks, hlines⟩ := Memory.of_deleteDatabase hm'
    have hne : d ≠ e := by
      rintro rfl
      rw [hlines, hnone] at live'
      cases live'
    have hstored : m'.marks? d = v.storage.marks? d := by rw [hmarks, if_neg hne, hm.marks?_eq]
    refine ⟨hstored ▸ hv.stored, ?_⟩
    dsimp only
    split
    · intro hd; cases hd
    · exact hv.held
  | createTable hd hm hw =>
    refine (hv.of_marks?_eq ((Memory.of_createTable hm).2.2.1 d)).forgot hw fun hd' ht => ?_
    obtain rfl := Option.some.inj (hd.symm.trans hd')
    rw [ht, (Memory.of_createTable hm).2.1] at live
    cases live
  | dropTable hd hm hw =>
    refine (hv.of_marks?_eq ((Memory.of_deleteTable hm).2.1 d)).forgot hw fun hd' ht => ?_
    obtain rfl := Option.some.inj (hd.symm.trans hd')
    rw [hw.lines?_eq, (Memory.of_deleteTable hm).2.2, if_pos ⟨rfl, ht⟩] at live'
    cases live'
  | addColumn _ _ _ hm | dropColumn _ _ _ hm | update _ _ _ hm | delete _ _ hm =>
    exact hv.of_marks?_eq ((Memory.of_writeTable hm).2.1 d)
  | burned hi hw => exact hv.marked hw (hv.recorded hi.nextId_eq)
  | insert hi hw hm =>
    exact (hv.marked hw (hv.recorded hi.nextId_eq)).of_marks?_eq ((Memory.of_writeTable hm).2.1 d)

namespace Session
variable {s : Session (Faulty Memory)} {d t : String} {n : UInt64}

theorem Step.floor {v w : Session Memory} (h : v.Step w) (hv : v.Floor d t n)
    (live : (v.storage.lines? d t).isSome = true) (live' : (w.storage.lines? d t).isSome = true) :
    w.Floor d t n := by
  cases h with
  | none => exact hv
  | restart => exact ⟨hv.stored, fun hd => by cases hd⟩
  | statement _ h => exact h.floor hv live live'

/-- The floor of a table stands as long as the table does. -/
theorem floor_acts {actions : List Action} (hs : s.shown.Floor d t n)
    (live : ∀ k ≤ actions.length,
      ((s.acts (actions.take k)).storage.base.lines? d t).isSome = true) :
    (s.acts actions).shown.Floor d t n := by
  induction actions generalizing s with
  | nil => exact hs
  | cons a rest ih =>
    have live₀ := live 0 (Nat.zero_le _)
    have live₁ := live 1 (Nat.le_add_left 1 _)
    exact ih ((step_act s a).floor hs live₀ live₁) fun k hk => live (k + 1) (Nat.succ_le_succ hk)

/-- A row is added to a table of the active database, under an id. -/
def Adds (s : Session (Faulty Memory)) (text d t : String) (n : UInt64) : Prop :=
  s.context.database = some d ∧ s.answer text = .ok (.insert t n)

instance (s : Session (Faulty Memory)) (text d t : String) (n : UInt64) :
    Decidable (s.Adds text d t n) :=
  inferInstanceAs (Decidable (_ ∧ _))

theorem Adds.effect {text : String} (h : s.Adds text d t n) :
    ∃ literals old table values u m, s.shown.Inserts t literals d old table values n ∧
      s.shown.Marked (s.context.marks.insert t n) (.ok ()) u ∧
      u.storage.changed (.writeTable d t (table.insertRow n values).toLines) = .ok m ∧
      (s.respond text).2.shown = { u with storage := m } := by
  obtain ⟨st, -, effect⟩ := effect_of_answer h.2
  obtain ⟨literals, rfl⟩ := effect.eq_insert
  obtain ⟨e, old, table, values, id, u, m, ha, hi, hu, hm, hw⟩ := effect.of_insert
  cases ha
  obtain rfl : d = e := Option.some.inj (h.1.symm.trans hi.holds.1)
  exact ⟨literals, old, table, values, u, m, hi, hu, hm, hw⟩

theorem Adds.floor {text : String} (h : s.Adds text d t n) :
    (s.respond text).2.shown.Floor d t n := by
  obtain ⟨literals, old, table, values, u, m, -, hu, hm, hw⟩ := h.effect
  rw [hw]
  refine Floor.of_marks?_eq ?_ ((Memory.of_writeTable hm).2.1 d)
  have hinsert : IdMarks.AtLeast (s.context.marks.insert t n) t n :=
    ⟨n, by rw [SortedMap.get?_insert, if_pos rfl], UInt64.le_refl n⟩
  cases hu with
  | saved hd hs =>
    refine ⟨⟨_, ?_, hinsert⟩, fun _ => hinsert⟩
    exact ((Memory.of_saveIdMarks hs).2.1 d).trans (if_pos (Option.some.inj (h.1.symm.trans hd)))

/-- An id is above the floor of its table. -/
theorem Adds.lt {k : UInt64} {text : String} (h : s.Adds text d t n) (hk : s.shown.Floor d t k) :
    k < n := by
  obtain ⟨literals, old, table, values, u, m, hi, -⟩ := h.effect
  obtain ⟨mark, hmark, hle⟩ := hk.held h.1
  have hn := Context.toNat_nextId hi.nextId_eq
  rw [hmark, Option.getD_some] at hn
  rw [UInt64.lt_iff_toNat_lt]
  rw [UInt64.le_iff_toNat_le] at hle
  omega

/-- A table whose mark is the highest number takes no more rows. -/
theorem exists_error_of_mark {text : String} {literals : List String} {mark : UInt64}
    (hst : Statement.ofText text = .ok (.insert t literals))
    (hmark : s.context.marks.get? t = some mark) (hmax : mark.toNat + 1 = UInt64.size) :
    ∃ e, s.answer text = .error e := by
  cases ha : s.answer text with
  | error e => exact ⟨e, rfl⟩
  | ok a =>
    obtain ⟨st, hst', effect⟩ := effect_of_answer ha
    cases hst.symm.trans hst'
    obtain ⟨e, old, table, values, id, u, m, -, hi, -⟩ := effect.of_insert
    have hn : id.toNat = max ((s.context.marks.get? t).getD 0).toNat table.maxId.toNat + 1 :=
      Context.toNat_nextId hi.nextId_eq
    rw [hmark, Option.getD_some] at hn
    have hlt := id.toNat_lt_size
    omega

/-- As long as a table stays, whatever happens to its rows and to the session, each row added to it
has a higher id than those added before; at the highest number of all, rows are refused. -/
theorem insert_ids_increase (s : Session (Faulty Memory)) (d t : String) :
    (∀ (text text' : String) (n n' : UInt64) (actions : List Action), s.Adds text d t n →
      (∀ k ≤ actions.length,
        (((s.act (.run text)).acts (actions.take k)).storage.base.lines? d t).isSome = true) →
      ((s.act (.run text)).acts actions).Adds text' d t n' → n < n') ∧
    ∀ (text : String) (literals : List String) (mark : UInt64),
      Statement.ofText text = .ok (.insert t literals) → s.context.marks.get? t = some mark →
      mark.toNat + 1 = UInt64.size → ∃ e, s.answer text = .error e :=
  ⟨fun _ _ _ _ _ first live later => later.lt (floor_acts first.floor live),
    fun _ _ _ hst hmark hmax => exists_error_of_mark hst hmark hmax⟩

/-- The row with id 1 is removed, the row with id 2 is lost, and a new session adds the next row; a
table takes a row with the highest number of all, and then no more. -/
theorem insert_ids_increase_after_restart :
    let start : Session (Faulty Memory) := acts ⟨{}, { base := {} }⟩
      [.run "CREATE DATABASE d;", .run "USE d;", .run "CREATE TABLE t (a);"]
    let added := start.act (.run "INSERT INTO t VALUES ('a');")
    let actions : List Action := [.run "DELETE FROM t WHERE a == 'a';",
      .inject [⟨.writeTable, some "t"⟩], .run "INSERT INTO t VALUES ('b');", .inject [], .restart,
      .run "USE d;"]
    let nearlyFull : StoredDatabase :=
      ⟨SortedMap.ofList [("t", ["id\ta"])], SortedMap.ofList [("t", 0xFFFFFFFFFFFFFFFE)]⟩
    let last : Session (Faulty Memory) :=
      act ⟨{}, { base := ⟨SortedMap.ofList [("d", nearlyFull)]⟩ }⟩ (.run "USE d;")
    let full := last.act (.run "INSERT INTO t VALUES ('a');")
    start.Adds "INSERT INTO t VALUES ('a');" "d" "t" 1 ∧
      added.answer "DELETE FROM t WHERE a == 'a';" = .ok (.delete 1) ∧
      (added.acts actions).Adds "INSERT INTO t VALUES ('c');" "d" "t" 3 ∧ (1 : UInt64) < 3 ∧
      last.Adds "INSERT INTO t VALUES ('a');" "d" "t" 0xFFFFFFFFFFFFFFFF ∧
      ∃ e, full.answer "INSERT INTO t VALUES ('b');" = .error e := by
  intro start added actions nearlyFull last full
  have first : start.Adds "INSERT INTO t VALUES ('a');" "d" "t" 1 := by decide +kernel
  have later : (added.acts actions).Adds "INSERT INTO t VALUES ('c');" "d" "t" 3 := by
    decide +kernel
  have hlt : (1 : UInt64) < 3 :=
    (insert_ids_increase start "d" "t").1 _ _ 1 3 actions first (by decide +kernel) later
  have herror : ∃ e, full.answer "INSERT INTO t VALUES ('b');" = .error e :=
    (insert_ids_increase full "d" "t").2 _ ["'b'"] 0xFFFFFFFFFFFFFFFF (by decide +kernel)
      (by decide +kernel) (by decide)
  exact ⟨first, by decide +kernel, later, hlt, by decide +kernel, herror⟩

end Session

end Tabular
