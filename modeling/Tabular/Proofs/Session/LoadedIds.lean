import Tabular.Proofs.Session.Failures
import Tabular.Proofs.Session.MarkChanges

/-! The ids of the rows that a table has when its database is made active are not handed out again,
unless the database is made active once more after those rows are gone, and before a row is added to
any of its tables. -/
namespace Tabular

/-- A new id is above all those that the mark of the table stands for. -/
theorem Context.lt_of_nextId {c : Context} {table : String} {t : Table} {n id : UInt64}
    (hid : c.nextId table t = .ok id) (hn : c.marks.AtLeast table n) : n < id := by
  obtain ⟨mark, hmark, hle⟩ := hn
  have hmax := Context.toNat_nextId hid
  rw [hmark, Option.getD_some] at hmax
  rw [UInt64.le_iff_toNat_le] at hle
  rw [UInt64.lt_iff_toNat_lt]
  omega

/-- Neither the stored mark of a table nor its rows reach an id. -/
structure Memory.Below (m : Memory) (d t : String) (n : UInt64) : Prop where
  last : m.last d t < n
  maxId : m.maxId d t < n

theorem Memory.below_of_not_le {m : Memory} {d t : String} {n : UInt64}
    (h : ¬n ≤ max (m.last d t) (m.maxId d t)) : m.Below d t n := by
  rw [UInt64.le_iff_toNat_le, toNat_max] at h
  refine ⟨UInt64.lt_iff_toNat_lt.2 ?_, UInt64.lt_iff_toNat_lt.2 ?_⟩ <;> omega

namespace Session
variable {v w : Session Memory} {d t : String} {n : UInt64}

/-- In the database, the session remembers a mark of the table that is at or above an id. -/
def Keeps (v : Session Memory) (d t : String) (n : UInt64) : Prop :=
  v.context.database = some d → v.context.marks.AtLeast t n

end Session

open Session in
/-- A table that stays keeps its mark in mind, unless the database is made active again and neither
the stored mark nor the rows reach the id. -/
theorem Statement.Effect.keeps {v w : Session Memory} {st : Statement} {r : Except Error Answer}
    {d t : String} {n : UInt64} (h : st.Effect v r w) (hv : v.Keeps d t n)
    (live : (v.storage.lines? d t).isSome = true) (live' : (w.storage.lines? d t).isSome = true) :
    w.Keeps d t n ∨ r = .ok (.use d) ∧ v.storage.Below d t n := by
  by_cases hd : w.context.database = some d
  · cases h.remembers hd t with
    | @loaded marks hm hmark =>
      cases h with
      | refused => exact .inl hv
      | use =>
        have hlast : v.storage.last d t = marks.last t := by
          rw [Memory.last, hm]
          rfl
        rw [if_pos live, ← hlast] at hmark
        by_cases hn : n ≤ max (v.storage.last d t) (v.storage.maxId d t)
        · exact .inl fun _ => ⟨_, hmark, hn⟩
        · exact .inr ⟨rfl, Memory.below_of_not_le hn⟩
    | kept he hmark =>
      refine .inl fun _ => ?_
      rw [IdMarks.AtLeast, hmark]
      exact hv he
    | forgotten _ hgone =>
      rcases hgone with hgone | hgone
      · rw [hgone] at live
        cases live
      · rw [hgone] at live'
        cases live'
    | handedOut hi hmark =>
      have hlt := Context.lt_of_nextId hi.nextId_eq (hv hi.holds.1)
      exact .inl fun _ => ⟨_, hmark, UInt64.le_of_lt hlt⟩
  · exact .inl fun he => absurd he hd

namespace Session
variable {s : Session (Faulty Memory)} {text d t : String} {n : UInt64}

/-- Before a row is added to a table of the database, this is made active at a time when neither the
stored mark of the table `t` nor its rows reach the id. -/
inductive Forgets (d t : String) (n : UInt64) : Session (Faulty Memory) → List Action → Prop where
  | now {s : Session (Faulty Memory)} {text : String} {rest : List Action}
      (huse : s.answer text = .ok (.use d)) (hbelow : s.storage.base.Below d t n) :
      Forgets d t n s (.run text :: rest)
  | later {s : Session (Faulty Memory)} {a : Action} {rest : List Action}
      (hadd : ∀ text u id, a = .run text → ¬s.Adds text d u id)
      (h : Forgets d t n (s.act a) rest) : Forgets d t n s (a :: rest)

/-- A text leaves a session as it is, or writes a statement that has its effect, with the answer. -/
theorem effect_answer (s : Session (Faulty Memory)) (text : String) :
    (s.respond text).2.shown = s.shown ∨ ∃ st, Statement.ofText text = .ok st ∧
      st.Effect s.shown (s.answer text) (s.respond text).2.shown := by
  cases ha : s.answer text with
  | ok a => exact .inr (effect_of_answer ha)
  | error e =>
    have heffect := does_execute text s rfl
    rw [respond_of_error ha] at heffect
    rcases heffect with ⟨-, -, hsame⟩ | heffect
    · exact .inl hsame
    · exact .inr heffect

theorem act_run (s : Session (Faulty Memory)) (text : String) :
    s.act (.run text) = (s.respond text).2 := rfl

theorem shown_storage (s : Session (Faulty Memory)) : s.shown.storage = s.storage.base := rfl

theorem keeps_act {a : Action} (hs : s.shown.Keeps d t n)
    (live : (s.storage.base.lines? d t).isSome = true)
    (live' : ((s.act a).storage.base.lines? d t).isSome = true) :
    (s.act a).shown.Keeps d t n ∨
      ∃ text, a = .run text ∧ s.answer text = .ok (.use d) ∧ s.storage.base.Below d t n := by
  cases a with
  | inject => exact .inl hs
  | restart => exact .inl fun hd => by cases hd
  | run text =>
    rw [act_run] at live' ⊢
    rw [← shown_storage] at live live'
    rcases effect_answer s text with hsame | ⟨st, -, heffect⟩
    · rw [hsame]
      exact .inl hs
    · rcases heffect.keeps hs live live' with hkept | ⟨huse, hbelow⟩
      · exact .inl hkept
      · exact .inr ⟨text, rfl, huse, hbelow⟩

/-- A row that is added stores the marks that are kept in mind for all tables of its database. -/
theorem Adds.floor_of_keeps {u : String} {id : UInt64} (h : s.Adds text d u id)
    (hs : s.shown.Keeps d t n) : (s.respond text).2.shown.Floor d t n := by
  obtain ⟨literals, old, table, values, w, m, hi, hw, hm, hshown⟩ := h.effect
  rw [hshown]
  refine Floor.of_marks?_eq ?_ ((Memory.of_writeTable hm).2.1 d)
  have hmarks : IdMarks.AtLeast (s.context.marks.insert u id) t n := by
    obtain ⟨mark, hmark, hle⟩ := hs h.1
    by_cases ht : t = u
    · subst ht
      have hlt := Context.lt_of_nextId hi.nextId_eq (hs h.1)
      exact ⟨id, by rw [SortedMap.get?_insert, if_pos rfl], UInt64.le_of_lt hlt⟩
    · exact ⟨mark, by rw [SortedMap.get?_insert, if_neg ht]; exact hmark, hle⟩
  cases hw with
  | saved hd hsave =>
    refine ⟨⟨_, ?_, hmarks⟩, fun _ => hmarks⟩
    exact ((Memory.of_saveIdMarks hsave).2.1 d).trans (if_pos (Option.some.inj (h.1.symm.trans hd)))

/-- Ids that are kept in mind are not handed out until they are forgotten. -/
theorem lt_or_forgets {id : UInt64} {actions : List Action} (hs : s.shown.Keeps d t n)
    (live : ∀ k ≤ actions.length,
      ((s.acts (actions.take k)).storage.base.lines? d t).isSome = true)
    (hadds : (s.acts actions).Adds text d t id) : n < id ∨ Forgets d t n s actions := by
  induction actions generalizing s with
  | nil =>
    obtain ⟨_, _, _, _, _, _, hi, -⟩ := hadds.effect
    exact .inl (Context.lt_of_nextId hi.nextId_eq (hs hadds.1))
  | cons a rest ih =>
    have live₀ := live 0 (Nat.zero_le _)
    have live₁ := live 1 (Nat.le_add_left 1 _)
    have hlater : ((s.act a).acts rest).Adds text d t id := hadds
    have liveRest : ∀ k ≤ rest.length,
        (((s.act a).acts (rest.take k)).storage.base.lines? d t).isSome = true :=
      fun k hk => live (k + 1) (Nat.succ_le_succ hk)
    by_cases hadd : ∃ text u id, a = .run text ∧ s.Adds text d u id
    · obtain ⟨text', u, id', rfl, hadd⟩ := hadd
      have hfloor := hadd.floor_of_keeps hs
      rw [← act_run] at hfloor
      exact .inl (hlater.lt (floor_acts hfloor liveRest))
    · rcases keeps_act hs live₀ live₁ with hkept | ⟨text', rfl, huse, hbelow⟩
      · have hnone : ∀ text u id, a = .run text → ¬s.Adds text d u id :=
          fun text u id ha h => hadd ⟨text, u, id, ha, h⟩
        exact (ih hkept liveRest hlater).imp_right (.later hnone)
      · exact .inr (.now huse hbelow)

/-- A database made active brings to mind the ids of the rows of its tables. -/
theorem keeps_of_use {lines row : List String} (huse : s.answer text = .ok (.use d))
    (hl : s.storage.base.lines? d t = some lines) (hrow : row ∈ (Table.ofLines lines).rows)
    (hn : Table.rowId? row = some n) : (s.respond text).2.shown.Keeps d t n := by
  obtain ⟨st, -, heffect⟩ := effect_of_answer huse
  generalize hr : Except.ok (Answer.use d) = r at heffect
  generalize (s.respond text).2.shown = w at heffect ⊢
  cases heffect with
  | @use e tables marks ht hm =>
    cases hr
    have hl : s.shown.storage.lines? d t = some lines := hl
    have hmax : n ≤ s.shown.storage.maxId d t := by
      rw [Memory.maxId, hl, Option.getD_some]
      exact Table.rowId?_le_maxId hrow hn
    refine fun _ => ⟨_, (get?_loaded ht marks t).trans (by rw [hl]; rfl), ?_⟩
    rw [UInt64.le_iff_toNat_le, toNat_max]
    exact Nat.le_trans (UInt64.le_iff_toNat_le.1 hmax) (Nat.le_max_right _ _)
  | @createTable _ _ _ _ r | @dropTable _ _ _ r => cases r <;> cases hr
  | _ => cases hr

/-- An id that a row of a table has when its database is made active is below all those that are
handed out later, as long as the table stays; except that the session may forget the id by making
the database active again, when the row is gone and no row has been added to any table of the
database since. -/
theorem loaded_ids_not_handed_out (s : Session (Faulty Memory)) {text text' d t : String}
    {lines row : List String} {n id : UInt64} {actions : List Action}
    (huse : s.answer text = .ok (.use d)) (hl : s.storage.base.lines? d t = some lines)
    (hrow : row ∈ (Table.ofLines lines).rows) (hn : Table.rowId? row = some n)
    (live : ∀ k ≤ actions.length,
      (((s.act (.run text)).acts (actions.take k)).storage.base.lines? d t).isSome = true)
    (hadds : ((s.act (.run text)).acts actions).Adds text' d t id) :
    n < id ∨ Forgets d t n (s.act (.run text)) actions := by
  have hkeeps := keeps_of_use huse hl hrow hn
  rw [← act_run] at hkeeps
  exact lt_or_forgets hkeeps live hadds

/-- The row with the highest id is removed, and a row added to another table keeps its id from being
forgotten by a new session. -/
theorem loaded_ids_not_handed_out_after_restart :
    let stored : StoredDatabase :=
      { tables := SortedMap.ofList [("t", ["id\ta", "1\tx", "2\ty"]), ("u", ["id\tb"])] }
    let s : Session (Faulty Memory) := ⟨{}, { base := ⟨SortedMap.ofList [("d", stored)]⟩ }⟩
    let actions : List Action := [.run "DELETE FROM t WHERE id == 2;",
      .run "INSERT INTO u VALUES (1);", .restart, .run "USE d;"]
    s.answer "USE d;" = .ok (.use "d") ∧
      ((s.act (.run "USE d;")).acts actions).Adds "INSERT INTO t VALUES ('z');" "d" "t" 3 ∧
      ((2 : UInt64) < 3 ∨ Forgets "d" "t" 2 (s.act (.run "USE d;")) actions) := by
  intro stored s actions
  have huse : s.answer "USE d;" = .ok (.use "d") := by decide +kernel
  have hadds : ((s.act (.run "USE d;")).acts actions).Adds
      "INSERT INTO t VALUES ('z');" "d" "t" 3 := by
    decide +kernel
  have hl : s.storage.base.lines? "d" "t" = some ["id\ta", "1\tx", "2\ty"] := by decide +kernel
  have hrow : ["2", "y"] ∈ (Table.ofLines ["id\ta", "1\tx", "2\ty"]).rows := by decide +kernel
  exact ⟨huse, hadds, loaded_ids_not_handed_out s huse hl hrow (by decide +kernel)
    (by decide +kernel) hadds⟩

/-- The row with the highest id is removed and a new session hands out its id again. -/
theorem not_loaded_ids_not_handed_out :
    let stored : StoredDatabase :=
      { tables := SortedMap.ofList [("t", ["id\ta", "1\tx", "2\ty"])] }
    let s : Session (Faulty Memory) := ⟨{}, { base := ⟨SortedMap.ofList [("d", stored)]⟩ }⟩
    let actions : List Action := [.run "DELETE FROM t WHERE id == 2;", .restart, .run "USE d;"]
    s.answer "USE d;" = .ok (.use "d") ∧
      s.storage.base.lines? "d" "t" = some ["id\ta", "1\tx", "2\ty"] ∧
      ["2", "y"] ∈ (Table.ofLines ["id\ta", "1\tx", "2\ty"]).rows ∧
      Table.rowId? ["2", "y"] = some 2 ∧
      (∀ k ≤ actions.length, (((s.act (.run "USE d;")).acts
        (actions.take k)).storage.base.lines? "d" "t").isSome = true) ∧
      ((s.act (.run "USE d;")).acts actions).Adds "INSERT INTO t VALUES ('z');" "d" "t" 2 := by
  decide +kernel

end Session

end Tabular
