import Tabular.Proofs.Session.FreshIds
import Tabular.Proofs.Storage.StoredNames

/-! What one session alone keeps to: its active database exists, and every name it has stored or
remembers was given by a statement. -/
namespace Tabular

/-- The databases and the tables that a statement names are such as those of `P` and `Q`. -/
def Statement.Names (P Q : String → Prop) : Statement → Prop
  | use d | createDatabase d | dropDatabase d => P d
  | createTable t _ | dropTable t | alter t _ _ | insert t _ | select t _ _ | update t _ _ | delete
      t _ => Q t
  | join l r _ _ => Q l ∧ Q r

theorem Statement.Proper.names {st : Statement} (h : st.Proper) : st.Names IsName IsName := by
  cases st with
  | createTable => exact h.1
  | alter => exact h.1
  | _ => exact h

theorem Memory.Names.deleted {P Q : String → Prop} {m m' : Memory} {d : String} (h : m.Names P Q)
    (hm : m.Deleted d m') : m'.Names P Q := by
  induction hm with
  | none => exact h
  | table _ hm ih => exact ih.changed hm trivial

namespace Session
variable {P Q : String → Prop} {v w : Session Memory}

/-- The active database exists, and all names, those remembered too, are such as those of `P` and
`Q`. -/
structure Regular (P Q : String → Prop) (v : Session Memory) : Prop where
  active : ∀ d, v.context.database = some d → (v.storage.marks? d).isSome = true
  stored : v.storage.Names P Q
  held : v.context.marks.Names Q

theorem Regular.empty : Regular P Q ⟨{}, {}⟩ :=
  ⟨fun _ h => (by cases h), Memory.names_empty, IdMarks.names_empty⟩

theorem Regular.changed {c : Change} {m : Memory} (h : v.Regular P Q)
    (hm : v.storage.changed c = .ok m) (hc : c.Names P Q)
    (hd : ∀ d, v.context.database = some d → (v.storage.marks? d).isSome = true →
      (m.marks? d).isSome = true) :
    Regular P Q { v with storage := m } :=
  ⟨fun d he => hd d he (h.active d he), h.stored.changed hm hc, h.held⟩

theorem Regular.marked {marks : IdMarks} {r : Except Error Unit} (h : v.Regular P Q)
    (hw : v.Marked marks r w) (hm : marks.Names Q) : w.Regular P Q := by
  cases hw with
  | unsaved => exact ⟨h.active, h.stored, hm⟩
  | saved hd hs =>
    refine ⟨fun d he => ?_, h.stored.changed hs hm, hm⟩
    rw [(Memory.of_saveIdMarks hs).2.1]
    split
    · rfl
    · exact h.active d he

theorem Regular.forgot {table : String} {r : Except Error Unit} (h : v.Regular P Q)
    (hw : v.Forgot table r w) : w.Regular P Q := by
  cases hw with
  | unknown => exact h
  | marked _ hm => exact h.marked hm (h.held.erase table)

end Session

open Session in
/-- Statements that name such databases and tables leave a session regular. -/
theorem Statement.Effect.regular {P Q : String → Prop} {v w : Session Memory} {st : Statement}
    {r : Except Error Answer} (h : st.Effect v r w) (names : st.Names P Q) (hv : v.Regular P Q) :
    w.Regular P Q := by
  cases h with
  | refused | select | join => exact hv
  | @use d tables marks ht hm =>
    refine ⟨?_, hv.stored, ?_⟩
    · rintro _ ⟨⟩
      rw [hm]
      rfl
    · intro t n hn
      rw [storedIds, get?_raiseMarks] at hn
      split at hn
      · next hmem =>
        obtain ⟨lines, hl⟩ := Option.isSome_iff_exists.1
          ((Memory.mem_of_ask_listTables ht t).1 hmem)
        exact hv.stored.tables d t lines hl
      · cases hn
  | createDatabase hm =>
    refine hv.changed hm names fun d _ hd => ?_
    rw [(Memory.of_createDatabase hm).2.1]
    split
    · rfl
    · exact hd
  | dropTables hm =>
    exact ⟨fun d hd => hm.marks?_eq d ▸ hv.active d hd, hv.stored.deleted hm, hv.held⟩
  | @dropDatabase d m m' hm hm' =>
    have hnames := (hv.stored.deleted hm).changed hm' trivial
    split
    · exact ⟨fun _ h => (by cases h), hnames, IdMarks.names_empty⟩
    · next hne =>
      refine ⟨fun e he => ?_, hnames, hv.held⟩
      rw [(Memory.of_deleteDatabase hm').2.2.1, if_neg (by rintro rfl; exact hne he), hm.marks?_eq]
      exact hv.active e he
  | createTable hd hm hw =>
    refine (hv.changed hm names fun d _ hd => ?_).forgot hw
    rwa [(Memory.of_createTable hm).2.2.1]
  | dropTable hd hm hw =>
    refine (hv.changed hm trivial fun d _ hd => ?_).forgot hw
    rwa [(Memory.of_deleteTable hm).2.1]
  | addColumn _ _ _ hm | dropColumn _ _ _ hm | update _ _ _ hm | delete _ _ hm =>
    refine hv.changed hm trivial fun d _ hd => ?_
    rwa [(Memory.of_writeTable hm).2.1]
  | burned hi hw => exact hv.marked hw (hv.held.insert names _)
  | insert hi hw hm =>
    refine (hv.marked hw (hv.held.insert names _)).changed hm trivial fun d _ hd => ?_
    rwa [(Memory.of_writeTable hm).2.1]

theorem Session.Step.regular {v w : Session Memory} (h : v.Step w) (hv : v.Regular IsName IsName) :
    w.Regular IsName IsName := by
  cases h with
  | none => exact hv
  | restart => exact ⟨fun _ h => (by cases h), hv.stored, IdMarks.names_empty⟩
  | statement proper h => exact h.regular proper.names hv

end Tabular
