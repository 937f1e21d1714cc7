import Tabular.Proofs.Session.Settled
import Tabular.Proofs.Session.Success

/-! Sessions that show the same answer alike, and show the same afterwards. -/
namespace Tabular

theorem Context.nextId_congr {c c' : Context} {table : String} (t : Table)
    (h : c.marks.last table = c'.marks.last table) : c.nextId table t = c'.nextId table t := by
  have hmax : max ((c.marks.get? table).getD 0) t.maxId =
      max ((c'.marks.get? table).getD 0) t.maxId := congrArg (max · t.maxId) h
  rw [nextId, nextId, hmax]

namespace Session
variable {v v' w w' : Session Memory} {d d' table : String}

structure Alike (v v' : Session Memory) : Prop where
  left : v.Settled
  right : v'.Settled
  view_eq : v.view = v'.view

theorem Alike.database_eq (h : v.Alike v') : v.context.database = v'.context.database :=
  congrArg View.database h.view_eq

theorem Alike.exists_eq (h : v.Alike v') (d : String) :
    (v.storage.marks? d).isSome = (v'.storage.marks? d).isSome :=
  congrFun (congrArg View.databases h.view_eq) d

theorem Alike.lines_eq (h : v.Alike v') (d t : String) :
    v.storage.lines? d t = v'.storage.lines? d t :=
  congrFun (congrFun (congrArg View.lines h.view_eq) d) t

theorem Alike.holds (h : v.Alike v') {t : Table} (ht : v.Holds d table t) : v'.Holds d table t := by
  obtain ⟨hd, lines, hl, rfl⟩ := ht
  exact ⟨h.database_eq ▸ hd, lines, h.lines_eq d table ▸ hl, rfl⟩

theorem Alike.nextId_eq (h : v.Alike v') (hd : v.context.database = some d) (t : Table) :
    v.context.nextId table t = v'.context.nextId table t := by
  apply Context.nextId_congr
  rw [h.left.held d hd, h.right.held d (h.database_eq ▸ hd), h.view_eq]

theorem Alike.holds_eq (h : v.Alike v') {t t' : Table} (ht : v.Holds d table t)
    (ht' : v'.Holds d' table t') : d = d' ∧ t = t' :=
  (h.holds ht).eq ht'

theorem Alike.inserts_eq (h : v.Alike v') {literals values values' : List String}
    {old t old' t' : Table} {id id' : UInt64} (hi : v.Inserts table literals d old t values id)
    (hi' : v'.Inserts table literals d' old' t' values' id') :
    d = d' ∧ t = t' ∧ values = values' ∧ id = id' := by
  obtain ⟨rfl, rfl⟩ := h.holds_eq hi.holds hi'.holds
  obtain rfl : values = values' := Except.ok.inj (hi.values_eq.symm.trans hi'.values_eq)
  obtain rfl : t = t' := Except.ok.inj (hi.titled_eq.symm.trans hi'.titled_eq)
  have hid : v.context.nextId table t = v'.context.nextId table t := h.nextId_eq hi.holds.1 t
  rw [hi.nextId_eq, hi'.nextId_eq] at hid
  exact ⟨rfl, rfl, rfl, Except.ok.inj hid⟩

theorem Alike.written (h : v.Alike v') {lines : List String} {m m' : Memory}
    (hm : v.storage.changed (.writeTable d table lines) = .ok m)
    (hm' : v'.storage.changed (.writeTable d table lines) = .ok m') :
    view { v with storage := m } = view { v' with storage := m' } := by
  rw [(view_written h.left.held hm).1, (view_written h.right.held hm').1, h.view_eq]

end Session

open Session in
/-- From sessions that show the same, a statement that succeeds gives the same answer and leaves
sessions that show the same. -/
theorem Statement.Effect.alike {v v' w w' : Session Memory} {st : Statement} {a a' : Answer}
    (h : st.Effect v (.ok a) w) (h' : st.Effect v' (.ok a') w') (hv : v.Alike v') :
    a = a' ∧ w.view = w'.view := by
  generalize hr : Except.ok a = r at h
  generalize hr' : Except.ok a' = r' at h'
  cases h with
  | refused | dropTables | burned => cases hr
  | use ht hm =>
    cases h' with
    | refused => cases hr'
    | use ht' hm' =>
      cases hr; cases hr'
      exact ⟨rfl, by rw [view_use, view_use, hv.view_eq]⟩
  | createDatabase hm =>
    cases h' with
    | refused => cases hr'
    | createDatabase hm' =>
      cases hr; cases hr'
      exact ⟨rfl, by rw [view_createDatabase hm, view_createDatabase hm', hv.view_eq]⟩
  | dropDatabase hm hm₁ =>
    cases h' with
    | refused | dropTables => cases hr'
    | dropDatabase hm' hm₁' =>
      cases hr; cases hr'
      exact ⟨rfl, by rw [view_dropDatabase hm hm₁, view_dropDatabase hm' hm₁', hv.view_eq]⟩
  | createTable hd hm hw =>
    cases h' with
    | refused => cases hr'
    | createTable hd' hm' hw' =>
      obtain ⟨_, rfl, hans⟩ := Except.map_eq_ok.1 hr.symm
      obtain ⟨_, rfl, hans'⟩ := Except.map_eq_ok.1 hr'.symm
      cases hd.symm.trans (hv.database_eq.trans hd')
      have hview := (view_createTable hd hv.left.held hm hw).1
      have hview' := (view_createTable hd' hv.right.held hm' hw').1
      exact ⟨hans.symm.trans hans', by rw [hview, hview', hv.view_eq]⟩
  | dropTable hd hm hw =>
    cases h' with
    | refused => cases hr'
    | dropTable hd' hm' hw' =>
      obtain ⟨_, rfl, hans⟩ := Except.map_eq_ok.1 hr.symm
      obtain ⟨_, rfl, hans'⟩ := Except.map_eq_ok.1 hr'.symm
      cases hd.symm.trans (hv.database_eq.trans hd')
      have hview := (view_dropTable hd hv.left.held hm hw).1
      have hview' := (view_dropTable hd' hv.right.held hm' hw').1
      exact ⟨hans.symm.trans hans', by rw [hview, hview', hv.view_eq]⟩
  | addColumn ht hid hnew hm =>
    cases h' with
    | refused => cases hr'
    | addColumn ht' hid' hnew' hm' =>
      cases hr; cases hr'
      obtain ⟨rfl, rfl⟩ := hv.holds_eq ht ht'
      exact ⟨rfl, hv.written hm hm'⟩
  | dropColumn ht hid hi hm =>
    cases h' with
    | refused => cases hr'
    | dropColumn ht' hid' hi' hm' =>
      cases hr; cases hr'
      obtain ⟨rfl, rfl⟩ := hv.holds_eq ht ht'
      cases hi.symm.trans hi'
      exact ⟨rfl, hv.written hm hm'⟩
  | insert hi hw hm =>
    cases h' with
    | refused | burned => cases hr'
    | insert hi' hw' hm' =>
      cases hr; cases hr'
      obtain ⟨rfl, rfl, rfl, rfl⟩ := hv.inserts_eq hi hi'
      have hview := (view_inserted hi.holds.1 hv.left.held hw hm).1
      have hview' := (view_inserted hi'.holds.1 hv.right.held hw' hm').1
      exact ⟨rfl, by rw [hview, hview', hv.view_eq]⟩
  | select ht hh hi =>
    cases h' with
    | refused => cases hr'
    | select ht' hh' hi' =>
      cases hr; cases hr'
      obtain ⟨rfl, rfl⟩ := hv.holds_eq ht ht'
      cases hi.symm.trans hi'
      exact ⟨rfl, hv.view_eq⟩
  | update ht hh hc hm =>
    cases h' with
    | refused => cases hr'
    | update ht' hh' hc' hm' =>
      cases hr; cases hr'
      obtain ⟨rfl, rfl⟩ := hv.holds_eq ht ht'
      cases hc.symm.trans hc'
      exact ⟨rfl, hv.written hm hm'⟩
  | delete ht hh hm =>
    cases h' with
    | refused => cases hr'
    | delete ht' hh' hm' =>
      cases hr; cases hr'
      obtain ⟨rfl, rfl⟩ := hv.holds_eq ht ht'
      exact ⟨rfl, hv.written hm hm'⟩
  | join hl hk hlh hkh hlk hrk =>
    cases h' with
    | refused => cases hr'
    | join hl' hk' hlh' hkh' hlk' hrk' =>
      cases hr; cases hr'
      obtain ⟨rfl, rfl⟩ := hv.holds_eq hl hl'
      obtain ⟨-, rfl⟩ := hv.holds_eq hk hk'
      cases hlk.symm.trans hlk'
      cases hrk.symm.trans hrk'
      exact ⟨rfl, hv.view_eq⟩

end Tabular
