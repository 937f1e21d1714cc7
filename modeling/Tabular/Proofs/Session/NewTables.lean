import Tabular.Proofs.Session.MarkChanges

/-! The ids of a new table begin at one, unless the mark of an earlier table of the same name is
still stored, and comes back when the database is made active again. -/
namespace Tabular

def Memory.Rowless (m : Memory) (d t : String) : Prop :=
  ∀ lines, m.lines? d t = some lines → (Table.ofLines lines).rows = []

namespace Memory.Rowless
variable {m m' : Memory} {d t : String}

theorem of_lines? (h : m.Rowless d t)
    (hl : ∀ lines, m'.lines? d t = some lines → m.lines? d t = some lines) : m'.Rowless d t :=
  fun lines hlines => h lines (hl lines hlines)

theorem put {e u : String} {new : Table} (h : m.Rowless d t)
    (hl : ∀ e' u', m'.lines? e' u' =
      if e' = e ∧ u' = u then some new.toLines else m.lines? e' u')
    (hn : e = d → u = t → new.rows = []) : m'.Rowless d t := by
  intro lines hlines
  rw [hl] at hlines
  split at hlines
  · next he =>
    cases hlines
    exact Table.rows_ofLines_toLines (hn he.1.symm he.2.symm)
  · exact h lines hlines

theorem maxId_eq (h : m.Rowless d t) : m.maxId d t = 0 := by
  unfold maxId
  cases hl : m.lines? d t with
  | none => rfl
  | some lines =>
    rw [Option.getD_some, Table.maxId, h lines hl]
    rfl

end Memory.Rowless

def Statement.addsTo (table : String) : Statement → Bool
  | insert t _ => t = table
  | _ => false

namespace Session
variable {v w : Session Memory} {d t : String} {n : UInt64} {loaded : Prop}

theorem Holds.rows_eq {table : Table} (h : v.Holds d t table) (hv : v.storage.Rowless d t) :
    table.rows = [] := by
  obtain ⟨-, lines, hl, rfl⟩ := h
  exact hv lines hl

/-- The table has no rows, and its marks are those of a new table, but that `n` may be stored as its
mark, and remembered too if the database has been made active again. -/
structure Vacant (v : Session Memory) (d t : String) (n : UInt64) (loaded : Prop) : Prop where
  rowless : v.storage.Rowless d t
  stored : v.storage.last d t = 0 ∨ v.storage.last d t = n
  held : v.context.database = some d →
    v.context.marks.last t = 0 ∨ loaded ∧ v.context.marks.last t = n

end Session

namespace Statement.Effect
open Session
variable {v w : Session Memory} {st : Statement} {r : Except Error Answer} {d t : String}
  {n : UInt64} {loaded : Prop}

/-- Rows come with statements that add them. -/
theorem rowless (h : st.Effect v r w) (hv : v.storage.Rowless d t)
    (hadd : v.context.database = some d → st.addsTo t = false) : w.storage.Rowless d t := by
  have hwrite : ∀ {e u : String} {table new : Table} {m : Memory}, v.Holds e u table →
      v.storage.changed (.writeTable e u new.toLines) = .ok m →
      (table.rows = [] → new.rows = []) → m.Rowless d t := by
    intro e u table new m ht hm hn
    refine hv.put (Memory.of_writeTable hm).2.2 ?_
    rintro rfl rfl
    exact hn (ht.rows_eq hv)
  cases h with
  | refused | use | select | join => exact hv
  | createDatabase hm =>
    exact hv.of_lines? fun _ => ((Memory.of_createDatabase hm).2.2 d t).symm.trans
  | dropTables hm => exact hv.of_lines? fun _ => hm.lines?_of_some
  | dropDatabase hm hm' =>
    refine hv.of_lines? fun lines hl => hm.lines?_of_some ?_
    exact ((Memory.of_deleteDatabase hm').2.2.2 d t).symm.trans hl
  | createTable _ hm hw =>
    have hm : Memory.Rowless _ d t := hv.put (Memory.of_createTable hm).2.2.2 fun _ _ => rfl
    exact hm.of_lines? fun _ => (hw.lines?_eq d t).symm.trans
  | dropTable _ hm hw =>
    have hm := hv.of_lines? fun _ => (Memory.Deleted.none.table hm).lines?_of_some
    exact hm.of_lines? fun _ => (hw.lines?_eq d t).symm.trans
  | addColumn ht _ _ hm | dropColumn ht _ _ hm | update ht _ _ hm =>
    refine hwrite ht hm fun h => ?_
    simp only [Table.addColumn, Table.dropColumn, Table.assign, Table.fit, h, List.map_nil]
  | @delete e u condition table m ht _ hm =>
    refine hwrite ht hm fun h => ?_
    cases condition with
    | none => exact h
    | some c => simp only [Table.remove, h, List.filter_nil]
  | burned _ hw => exact hv.of_lines? fun _ => (hw.lines?_eq d t).symm.trans
  | @insert e u literals values old new id w m hi hw hm =>
    have hv := hv.of_lines? fun _ => (hw.lines?_eq d t).symm.trans
    refine hv.put (Memory.of_writeTable hm).2.2 ?_
    rintro rfl rfl
    have hadd := hadd hi.holds.1
    simp [addsTo] at hadd

theorem vacant (h : st.Effect v r w) (hv : v.Vacant d t n loaded)
    (hadd : v.context.database = some d → st.addsTo t = false) (hload : st = .use d → loaded) :
    w.Vacant d t n loaded := by
  have held : w.context.database = some d →
      w.context.marks.last t = 0 ∨ loaded ∧ w.context.marks.last t = n := by
    intro hd
    cases h.remembers hd t with
    | @loaded marks hm hmark =>
      have hlast : v.storage.last d t = marks.last t := by
        rw [Memory.last, hm]
        rfl
      rw [IdMarks.last, hmark, hv.rowless.maxId_eq]
      split
      · have hmax : max (marks.last t) 0 = marks.last t := by
          rw [← UInt64.toNat_inj, toNat_max]
          exact Nat.max_zero _
        rw [Option.getD_some, hmax, ← hlast]
        exact hv.stored.imp_right fun h => ⟨hload rfl, h⟩
      · exact .inl rfl
    | kept he hmark =>
      rw [IdMarks.last, hmark]
      exact hv.held he
    | forgotten _ _ hmark =>
      rw [IdMarks.last, hmark]
      exact .inl rfl
    | handedOut hi =>
      have hadd := hadd hi.holds.1
      simp [addsTo] at hadd
  refine ⟨h.rowless hv.rowless hadd, ?_, held⟩
  rcases h.last_cases d t with hlast | hlast | ⟨hd, hlast⟩
  · rw [hlast]
    exact hv.stored
  · exact .inl hlast
  · rw [hlast]
    exact (held hd).imp_right (·.2)

end Statement.Effect

namespace Session
variable {s : Session (Faulty Memory)} {text d t : String} {n : UInt64} {loaded : Prop}

def attempts (s : Session (Faulty Memory)) (d t : String) : Action → Bool
  | .run text => s.context.database = some d &&
      match Statement.ofText text with
      | .ok st => st.addsTo t
      | .error _ => false
  | .inject _ | .restart => false

/-- A table of the active database is made. -/
def Creates (s : Session (Faulty Memory)) (text d t : String) : Prop :=
  s.context.database = some d ∧ s.answer text = .ok (.createTable t)

instance (s : Session (Faulty Memory)) (text d t : String) : Decidable (s.Creates text d t) :=
  inferInstanceAs (Decidable (_ ∧ _))

theorem vacant_act {a : Action} (hs : s.shown.Vacant d t n loaded)
    (hadd : s.attempts d t a = false)
    (hload : ∀ text, a = .run text → Statement.ofText text = .ok (.use d) → loaded) :
    (s.act a).shown.Vacant d t n loaded := by
  cases a with
  | inject => exact hs
  | restart => exact ⟨hs.rowless, hs.stored, fun hd => by cases hd⟩
  | run text =>
    change (s.respond text).2.shown.Vacant d t n loaded
    rcases effect_respond s text with hsame | ⟨st, r, hst, heffect⟩
    · rw [hsame]
      exact hs
    · refine heffect.vacant hs (fun hd => ?_) fun huse => hload text rfl (huse ▸ hst)
      have hd : s.context.database = some d := hd
      simpa [attempts, hd, hst] using hadd

theorem vacant_acts {actions : List Action} (hs : s.shown.Vacant d t n loaded)
    (hadd : ∀ k (h : k < actions.length), (s.acts (actions.take k)).attempts d t actions[k] = false)
    (hload : ∀ text, .run text ∈ actions → Statement.ofText text = .ok (.use d) → loaded) :
    (s.acts actions).shown.Vacant d t n loaded := by
  induction actions generalizing s with
  | nil => exact hs
  | cons a rest ih =>
    have hs := vacant_act hs (hadd 0 (Nat.zero_lt_succ _)) fun text ha hst =>
      hload text (ha ▸ List.mem_cons_self ..) hst
    exact ih hs (fun k h => hadd (k + 1) (Nat.succ_lt_succ h)) fun text ha hst =>
      hload text (List.mem_cons_of_mem _ ha) hst

theorem Creates.effect (h : s.Creates text d t) : ∃ header m,
    s.storage.base.changed (.createTable d t (Table.toLines ⟨header, []⟩)) = .ok m ∧
      Forgot ⟨s.context, m⟩ t (.ok ()) (s.respond text).2.shown := by
  obtain ⟨st, -, heffect⟩ := effect_of_answer h.2
  generalize hr : Except.ok (Answer.createTable t) = r at heffect
  generalize (s.respond text).2.shown = w at heffect ⊢
  cases heffect with
  | @createTable e table columns m r w hd hm hw =>
    cases r with
    | error e => cases hr
    | ok u =>
      cases hr
      obtain rfl : d = e := Option.some.inj (h.1.symm.trans hd)
      exact ⟨_, m, hm, hw⟩
  | @dropTable _ _ _ r => cases r <;> cases hr
  | _ => cases hr

/-- A new table has no rows and no mark, unless the session did not remember the mark of an earlier
table that is stored. -/
theorem Creates.vacant (h : s.Creates text d t) : (s.act (.run text)).shown.Vacant d t
    (if s.context.marks.contains t then 0 else s.storage.base.last d t) loaded := by
  obtain ⟨header, m, hm, hforgot⟩ := h.effect
  obtain ⟨-, -, hmarks, hlines⟩ := Memory.of_createTable hm
  have hrowless : m.Rowless d t := by
    intro lines hl
    rw [hlines, if_pos ⟨rfl, rfl⟩] at hl
    cases hl
    exact Table.rows_ofLines_toLines rfl
  change (s.respond text).2.shown.Vacant d t _ loaded
  refine ⟨hrowless.of_lines? fun _ => (hforgot.lines?_eq d t).symm.trans, ?_, fun _ => .inl ?_⟩
  · generalize (s.respond text).2.shown = w at hforgot
    cases hforgot with
    | unknown hcontains =>
      have hcontains : s.context.marks.contains t = false := hcontains
      rw [if_neg (by rw [hcontains]; exact Bool.false_ne_true)]
      exact .inr (Memory.last_congr (hmarks d) t)
    | marked _ hsave =>
      cases hsave with
      | saved hd hm' =>
        obtain rfl : d = _ := Option.some.inj (h.1.symm.trans hd)
        refine .inl ?_
        rw [Memory.last, (Memory.of_saveIdMarks hm').2.1, if_pos rfl, Option.getD_some,
          IdMarks.last, SortedMap.get?_erase, if_pos rfl]
        rfl
  · generalize (s.respond text).2.shown = w at hforgot
    cases hforgot with
    | unknown hcontains =>
      have hnone : s.context.marks.get? t = none := by
        simpa [SortedMap.contains] using hcontains
      rw [IdMarks.last, hnone]
      rfl
    | marked _ hsave =>
      rw [hsave.context_eq, IdMarks.last, SortedMap.get?_erase, if_pos rfl]
      rfl

/-- A row that is added to a table without rows has the id after its mark. -/
theorem Adds.toNat_eq {id : UInt64} (h : s.Adds text d t id) (hs : s.storage.base.Rowless d t) :
    id.toNat = (s.context.marks.last t).toNat + 1 := by
  obtain ⟨literals, old, table, values, u, m, hi, -⟩ := h.effect
  have hrows : table.rows = [] := (Table.rows_of_titled hi.titled_eq).trans (hi.holds.rows_eq hs)
  have hid := Context.toNat_nextId hi.nextId_eq
  rw [Table.maxId, hrows] at hid
  rw [hid]
  exact congrArg (· + 1) (Nat.max_zero _)

/-- The first row added to a new table has the id 1, unless the mark of an earlier table was stored
but not remembered when the table was made, and the database has been made active since: then the
row may have the id after that mark. -/
theorem first_id_of_new_table (s : Session (Faulty Memory)) {text text' d t : String} {id : UInt64}
    {actions : List Action} (hmade : s.Creates text d t)
    (hnone : ∀ k (h : k < actions.length),
      ((s.act (.run text)).acts (actions.take k)).attempts d t actions[k] = false)
    (hadds : ((s.act (.run text)).acts actions).Adds text' d t id) :
    id = 1 ∨ (s.context.marks.contains t = false ∧ 0 < s.storage.base.last d t ∧
      id.toNat = (s.storage.base.last d t).toNat + 1 ∧
      ∃ text, .run text ∈ actions ∧ Statement.ofText text = .ok (.use d)) := by
  let loaded : Prop := ∃ text, .run text ∈ actions ∧ Statement.ofText text = .ok (.use d)
  have hvacant : ((s.act (.run text)).acts actions).shown.Vacant d t _ loaded :=
    vacant_acts hmade.vacant hnone fun text hrun hst => ⟨text, hrun, hst⟩
  have hid := hadds.toNat_eq hvacant.rowless
  have hone : ((s.act (.run text)).acts actions).context.marks.last t = 0 → id = 1 := by
    intro hzero
    rw [hzero] at hid
    exact UInt64.toNat_inj.1 hid
  rcases hvacant.held hadds.1 with hzero | ⟨hload, hlast⟩
  · exact .inl (hone hzero)
  · change ((s.act (.run text)).acts actions).context.marks.last t = _ at hlast
    cases hcontains : s.context.marks.contains t with
    | true =>
      rw [hcontains, if_pos rfl] at hlast
      exact .inl (hone hlast)
    | false =>
      rw [hcontains, if_neg Bool.false_ne_true] at hlast
      by_cases hzero : s.storage.base.last d t = 0
      · exact .inl (hone (hlast.trans hzero))
      · refine .inr ⟨rfl, ?_, hlast ▸ hid, hload⟩
        rw [UInt64.lt_iff_toNat_lt]
        exact Nat.pos_of_ne_zero fun h => hzero (UInt64.toNat_inj.1 h)

/-- A table is removed and made again, and a new session adds a row to another table and then the
first one. -/
theorem first_id_of_new_table_made_again :
    let s : Session (Faulty Memory) := acts ⟨{}, { base := {} }⟩
      [.run "CREATE DATABASE d;", .run "USE d;", .run "CREATE TABLE t (a);",
        .run "CREATE TABLE u (a);", .run "INSERT INTO t VALUES (1);", .run "DROP TABLE t;"]
    let actions : List Action := [.restart, .run "USE d;", .run "INSERT INTO u VALUES (1);"]
    s.Creates "CREATE TABLE t (a);" "d" "t" ∧
      (1 = (1 : UInt64) ∨ (s.context.marks.contains "t" = false ∧
        0 < s.storage.base.last "d" "t" ∧
        (1 : UInt64).toNat = (s.storage.base.last "d" "t").toNat + 1 ∧
        ∃ text, .run text ∈ actions ∧ Statement.ofText text = .ok (.use "d"))) := by
  intro s actions
  have hmade : s.Creates "CREATE TABLE t (a);" "d" "t" := by decide +kernel
  have hadds : ((s.act (.run "CREATE TABLE t (a);")).acts actions).Adds
      "INSERT INTO t VALUES (2);" "d" "t" 1 := by
    decide +kernel
  exact ⟨hmade, first_id_of_new_table s hmade (by decide +kernel) hadds⟩

/-- A database keeps a table that cannot be deleted, and with it the mark of the table that could;
that one is made again while no mark is remembered, and its first row has the id 2. -/
theorem not_first_id_of_new_table :
    let s : Session (Faulty Memory) := acts ⟨{}, { base := {} }⟩
      [.run "CREATE DATABASE d;", .run "USE d;", .run "CREATE TABLE t (a);",
        .run "CREATE TABLE u (a);", .run "INSERT INTO t VALUES (1);",
        .inject [⟨.deleteTable, some "u"⟩], .run "DROP DATABASE d;", .inject [], .run "USE d;"]
    s.Creates "CREATE TABLE t (a);" "d" "t" ∧
      ((s.act (.run "CREATE TABLE t (a);")).act (.run "USE d;")).Adds
        "INSERT INTO t VALUES (1);" "d" "t" 2 := by
  decide +kernel

end Session

end Tabular
