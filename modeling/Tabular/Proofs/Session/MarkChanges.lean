import Tabular.Proofs.Session.Settled

/-! Where marks come from: the one that a session remembers for a table of its database after a
statement, and the one that is stored then. -/
namespace Tabular

def Memory.maxId (m : Memory) (d t : String) : UInt64 :=
  (Table.ofLines ((m.lines? d t).getD [])).maxId

theorem Memory.last_congr {m m' : Memory} {d : String} (h : m'.marks? d = m.marks? d)
    (t : String) : m'.last d t = m.last d t := by
  rw [last, last, h]

/-- A database made active brings, for each of its tables, the higher of the stored mark and the
highest stored id. -/
theorem get?_loaded {m : Memory} {d : String} {tables : List String}
    (ht : m.ask (.listTables d) = .ok tables) (marks : IdMarks) (t : String) :
    (raiseMarks marks (Session.storedIds m d tables)).get? t =
      if (m.lines? d t).isSome then some (max (marks.last t) (m.maxId d t)) else none := by
  refine (get?_raiseMarks marks tables _ t).trans ?_
  simp only [Memory.mem_of_ask_listTables ht t]
  rfl

namespace Session
variable {v w : Session Memory} {d t : String}

/-- How a statement comes to leave a mark, or none, for a table of the database that is active
then. -/
inductive Remembers (v w : Session Memory) (d t : String) : Statement → Prop where
  | loaded {marks : IdMarks} (hm : v.storage.marks? d = some marks)
      (h : w.context.marks.get? t =
        if (v.storage.lines? d t).isSome then some (max (marks.last t) (v.storage.maxId d t))
        else none) :
      Remembers v w d t (.use d)
  | kept {st : Statement} (hd : v.context.database = some d)
      (h : w.context.marks.get? t = v.context.marks.get? t) : Remembers v w d t st
  | forgotten {st : Statement} (hd : v.context.database = some d)
      (hgone : v.storage.lines? d t = none ∨ w.storage.lines? d t = none)
      (h : w.context.marks.get? t = none) : Remembers v w d t st
  | handedOut {literals values : List String} {old new : Table} {id : UInt64}
      (hi : v.Inserts t literals d old new values id)
      (h : w.context.marks.get? t = some id) : Remembers v w d t (.insert t literals)

theorem Marked.context_eq {marks : IdMarks} {r : Except Error Unit} (h : v.Marked marks r w) :
    w.context = ⟨v.context.database, marks⟩ := by
  cases h <;> rfl

theorem Forgot.database_eq {table : String} {r : Except Error Unit} (h : v.Forgot table r w) :
    w.context.database = v.context.database := by
  cases h with
  | unknown => rfl
  | marked _ hm => rw [hm.context_eq]

/-- Only the mark of the table itself is forgotten. -/
theorem Forgot.remembers {st : Statement} {table : String} {m : Memory} {r : Except Error Unit}
    (hd : v.context.database = some d) (h : Forgot { v with storage := m } table r w)
    (hgone : v.storage.lines? d table = none ∨ m.lines? d table = none) :
    Remembers v w d t st := by
  have hlines := h.lines?_eq d table
  cases h with
  | unknown => exact .kept hd rfl
  | marked _ hm =>
    by_cases ht : t = table
    · subst ht
      refine .forgotten hd (hgone.imp_right hlines.trans) ?_
      rw [hm.context_eq, SortedMap.get?_erase, if_pos rfl]
    · refine .kept hd ?_
      rw [hm.context_eq, SortedMap.get?_erase, if_neg ht]

/-- An id that is handed out becomes the mark of its table. -/
theorem Inserts.remembers {table : String} {literals values : List String} {e : String}
    {old new : Table} {id : UInt64} {r : Except Error Unit} {m : Memory} {u : Session Memory}
    (hi : v.Inserts table literals e old new values id)
    (hu : v.Marked (v.context.marks.insert table id) r u)
    (hd : u.context.database = some d) :
    Remembers v { u with storage := m } d t (.insert table literals) := by
  have hd : v.context.database = some d := by rwa [hu.context_eq] at hd
  obtain rfl : e = d := Option.some.inj (hi.holds.1.symm.trans hd)
  by_cases ht : t = table
  · subst ht
    refine .handedOut hi ?_
    change u.context.marks.get? t = _
    rw [hu.context_eq, SortedMap.get?_insert, if_pos rfl]
  · refine .kept hd ?_
    change u.context.marks.get? t = _
    rw [hu.context_eq, SortedMap.get?_insert, if_neg ht]

/-- A stored mark stays, or becomes the one that is remembered. -/
theorem Marked.last_cases {marks : IdMarks} {r : Except Error Unit} (h : v.Marked marks r w) :
    w.storage.last d t = v.storage.last d t ∨
      w.context.database = some d ∧ w.storage.last d t = w.context.marks.last t := by
  cases h with
  | unsaved => exact .inl rfl
  | @saved e m he hs =>
    unfold Memory.last
    rw [(Memory.of_saveIdMarks hs).2.1]
    by_cases hd : d = e
    · rw [if_pos hd]
      exact .inr ⟨hd ▸ he, rfl⟩
    · rw [if_neg hd]
      exact .inl rfl

theorem Forgot.last_cases {table : String} {r : Except Error Unit} (h : v.Forgot table r w) :
    w.storage.last d t = v.storage.last d t ∨
      w.context.database = some d ∧ w.storage.last d t = w.context.marks.last t := by
  cases h with
  | unknown => exact .inl rfl
  | marked _ hm => exact hm.last_cases

end Session

namespace Statement.Effect
open Session
variable {v w : Session Memory} {st : Statement} {r : Except Error Answer} {d : String}

theorem remembers (h : st.Effect v r w) (hd : w.context.database = some d) (t : String) :
    Remembers v w d t st := by
  cases h with
  | refused | select | join | createDatabase | dropTables | addColumn | dropColumn | update | delete =>
    exact .kept hd rfl
  | @use e tables marks ht hm =>
    obtain rfl : e = d := Option.some.inj hd
    exact .loaded hm (get?_loaded ht marks t)
  | @dropDatabase e =>
    by_cases he : v.context.database = some e
    · rw [if_pos he] at hd
      cases hd
    · rw [if_neg he] at hd ⊢
      exact .kept hd rfl
  | createTable he hm hw =>
    obtain rfl := Option.some.inj (he.symm.trans (hw.database_eq.symm.trans hd))
    exact hw.remembers he (.inl (Memory.of_createTable hm).2.1)
  | dropTable he hm hw =>
    obtain rfl := Option.some.inj (he.symm.trans (hw.database_eq.symm.trans hd))
    exact hw.remembers he (.inr (((Memory.of_deleteTable hm).2.2 _ _).trans (if_pos ⟨rfl, rfl⟩)))
  | burned hi hw => exact hi.remembers hw hd
  | insert hi hw => exact hi.remembers hw hd

/-- A stored mark stays, goes with its database, or becomes the one that is remembered. -/
theorem last_cases (h : st.Effect v r w) (d t : String) :
    w.storage.last d t = v.storage.last d t ∨ w.storage.last d t = 0 ∨
      w.context.database = some d ∧ w.storage.last d t = w.context.marks.last t := by
  have of_marked : ∀ {m : Memory}, m.marks? d = v.storage.marks? d →
      (w.storage.last d t = m.last d t ∨
        w.context.database = some d ∧ w.storage.last d t = w.context.marks.last t) →
      w.storage.last d t = v.storage.last d t ∨ w.storage.last d t = 0 ∨
        w.context.database = some d ∧ w.storage.last d t = w.context.marks.last t := by
    rintro m hm (hw | hw)
    · exact .inl (hw.trans (Memory.last_congr hm t))
    · exact .inr (.inr hw)
  cases h with
  | refused | select | join | use => exact .inl rfl
  | @createDatabase e m hm =>
    obtain ⟨-, hmarks, -⟩ := Memory.of_createDatabase hm
    by_cases he : d = e
    · refine .inr (.inl ?_)
      rw [Memory.last, hmarks, if_pos he]
      rfl
    · exact .inl (Memory.last_congr ((hmarks d).trans (if_neg he)) t)
  | dropTables hm => exact .inl (Memory.last_congr (hm.marks?_eq d) t)
  | @dropDatabase e m m' hm hm' =>
    obtain ⟨-, -, hmarks, -⟩ := Memory.of_deleteDatabase hm'
    by_cases he : d = e
    · refine .inr (.inl ?_)
      rw [Memory.last, hmarks, if_pos he]
      rfl
    · refine .inl (Memory.last_congr ?_ t)
      rw [hmarks, if_neg he, hm.marks?_eq]
  | createTable _ hm hw => exact of_marked ((Memory.of_createTable hm).2.2.1 d) hw.last_cases
  | dropTable _ hm hw => exact of_marked ((Memory.of_deleteTable hm).2.1 d) hw.last_cases
  | addColumn _ _ _ hm | dropColumn _ _ _ hm | update _ _ _ hm | delete _ _ hm =>
    exact .inl (Memory.last_congr ((Memory.of_writeTable hm).2.1 d) t)
  | burned _ hw => exact of_marked rfl hw.last_cases
  | insert _ hw hm =>
    have hlast := Memory.last_congr ((Memory.of_writeTable hm).2.1 d) t
    exact of_marked rfl (hw.last_cases.imp hlast.trans fun h => ⟨h.1, hlast.trans h.2⟩)

end Statement.Effect

end Tabular
