import Tabular.Proofs.Session.Alike

/-! Of two sessions that show the same, either both do what a statement says, or both refuse it for
the same reason. -/
namespace Tabular
open Session SessionM

def Goes {α : Type} (x : SessionM Memory α) (v : Session Memory) : Prop := ∃ a w, x v = .ok a w

/-- Two runs that both succeed, or fail alike without having done anything. -/
inductive Matched {α : Type} (x : SessionM Memory α) (v v' : Session Memory) : Prop where
  | refused {e : Error} (h : x v = .error e v) (h' : x v' = .error e v')
  | done (h : Goes x v) (h' : Goes x v')

section Rules
variable {α β : Type} {v v' : Session Memory} {x : SessionM Memory α}

theorem goes_pure (a : α) : Goes (pure a) v := ⟨a, v, rfl⟩

theorem goes_bind {f : α → SessionM Memory β} {a : α} {w : Session Memory} (hx : x v = .ok a w)
    (hf : Goes (f a) w) : Goes (x >>= f) v := by
  obtain ⟨b, w', h⟩ := hf
  exact ⟨b, w', (bind_ok f hx).trans h⟩

theorem goes_change_bind {c : Change} {f : Unit → SessionM Memory β}
    (hc : c.Possible v.storage)
    (hf : ∀ m, v.storage.changed c = .ok m → Goes (f ()) { v with storage := m }) :
    Goes (change c >>= f) v := by
  obtain ⟨m, hm⟩ := Memory.exists_changed hc
  exact goes_bind (change_ok hm) (hf m hm)

theorem matched_throw (e : Error) : Matched (throw e : SessionM Memory α) v v' :=
  .refused rfl rfl

theorem matched_bind_ok {f : α → SessionM Memory β} {a : α} (hx : x v = .ok a v)
    (hx' : x v' = .ok a v') (hf : Matched (f a) v v') : Matched (x >>= f) v v' := by
  cases hf with
  | refused h h' => exact .refused ((bind_ok f hx).trans h) ((bind_ok f hx').trans h')
  | done h h' => exact .done (goes_bind hx h) (goes_bind hx' h')

theorem matched_bind_error {f : α → SessionM Memory β} {e : Error} (hx : x v = .error e v)
    (hx' : x v' = .error e v') : Matched (x >>= f) v v' := by
  constructor
  · rw [bind_apply, hx]
  · rw [bind_apply, hx']

theorem matched_refuse_bind {c : Prop} [Decidable c] {e : Error} {f : β → SessionM Memory α}
    (hx : ¬c → Matched x v v') : Matched (if c then throw e >>= f else x) v v' := by
  split
  · exact matched_throw e
  · next h => exact hx h

theorem matched_ofExcept_bind {z : Except Error β} {f : β → SessionM Memory α}
    (hf : ∀ b, z = .ok b → Matched (f b) v v') : Matched (ofExcept z >>= f) v v' := by
  cases z with
  | error e => exact matched_throw e
  | ok b => exact hf b rfl

theorem matched_ask_bind {q : Query β} {f : β → SessionM Memory α}
    (hq : v.storage.ask q = v'.storage.ask q)
    (hf : ∀ b, v.storage.ask q = .ok b → Matched (f b) v v') : Matched (ask q >>= f) v v' := by
  cases hb : v.storage.ask q with
  | ok b => exact matched_bind_ok (ask_ok hb) (ask_ok (hq ▸ hb)) (hf b hb)
  | error e =>
    have herror : ∀ {s : Session Memory}, s.storage.ask q = .error e → ask q s = .error e s := by
      intro s hs
      have hstorage : Storage.ask q s.storage = .error e := hs
      rw [ask_apply, hstorage]
    exact matched_bind_error (herror hb) (herror (hq ▸ hb))

variable (hv : v.Alike v')
include hv

theorem matched_requireDatabase_bind {f : String → SessionM Memory α}
    (hf : ∀ d, v.context.database = some d → Matched (f d) v v') :
    Matched (requireDatabase >>= f) v v' := by
  cases hd : v.context.database with
  | some d =>
    exact matched_bind_ok (requireDatabase_ok hd) (requireDatabase_ok (hv.database_eq ▸ hd))
      (hf d hd)
  | none =>
    have hnone : ∀ {s : Session Memory}, s.context.database = none →
        requireDatabase s = .error .noActiveDatabase s := by
      intro s hs
      rw [requireDatabase_apply, hs]
    exact matched_bind_error (hnone hd) (hnone (hv.database_eq ▸ hd))

theorem matched_databaseExists_bind {d : String} {f : Bool → SessionM Memory α}
    (hf : Matched (f (v.storage.marks? d).isSome) v v') :
    Matched (ask (.databaseExists d) >>= f) v v' := by
  apply matched_ask_bind
  · rw [Memory.ask_databaseExists, Memory.ask_databaseExists, hv.exists_eq]
  · intro there hthere
    rw [Memory.ask_databaseExists] at hthere
    cases hthere
    exact hf

theorem matched_tableExists_bind {d t : String} {f : Bool → SessionM Memory α}
    (hf : Matched (f (v.storage.lines? d t).isSome) v v') :
    Matched (ask (.tableExists d t) >>= f) v v' := by
  apply matched_ask_bind
  · rw [Memory.ask_tableExists, Memory.ask_tableExists, hv.lines_eq]
  · intro there hthere
    rw [Memory.ask_tableExists] at hthere
    cases hthere
    exact hf

/-- Two runs that both load a table, or fail alike, load the same one. -/
theorem matched_load_bind {table : String} {load : SessionM Memory (String × Table)}
    {f : String × Table → SessionM Memory α} (hload : Matched load v v')
    (hloaded : ∀ {s w : Session Memory} {p : String × Table}, load s = .ok p w →
      w = s ∧ s.Holds p.1 table p.2)
    (hf : ∀ d t, v.Holds d table t → v'.Holds d table t → Matched (f (d, t)) v v') :
    Matched (load >>= f) v v' := by
  cases hload with
  | refused h h' => exact matched_bind_error h h'
  | done h h' =>
    obtain ⟨⟨d, t⟩, w, h⟩ := h
    obtain ⟨⟨d', t'⟩, w', h'⟩ := h'
    obtain ⟨rfl, ht⟩ := hloaded h
    obtain ⟨rfl, ht'⟩ := hloaded h'
    obtain ⟨rfl, rfl⟩ := hv.holds_eq ht ht'
    exact matched_bind_ok h h' (hf d t ht ht')

theorem matched_loadTable_bind {table : String} {f : String × Table → SessionM Memory α}
    (hf : ∀ d t, v.Holds d table t → v'.Holds d table t → Matched (f (d, t)) v v') :
    Matched (loadTable table >>= f) v v' := by
  have hload : Matched (loadTable table) v v' := by
    apply matched_requireDatabase_bind hv
    intro d hd
    apply matched_tableExists_bind hv
    apply matched_refuse_bind
    intro _
    apply matched_ask_bind
    · rw [Memory.ask_readTable, Memory.ask_readTable, hv.lines_eq]
    · intro lines _
      exact .done (goes_pure _) (goes_pure _)
  exact matched_load_bind hv hload (Statement.does_loadTable table).of_ok hf

theorem matched_loadTitled_bind {table : String} {f : String × Table → SessionM Memory α}
    (hf : ∀ d t, v.Holds d table t → v'.Holds d table t → Matched (f (d, t)) v v') :
    Matched (loadTitled table >>= f) v v' := by
  have hload : Matched (loadTitled table) v v' := by
    apply matched_loadTable_bind hv
    intro d t _ _
    apply matched_refuse_bind
    intro _
    exact .done (goes_pure _) (goes_pure _)
  refine matched_load_bind hv hload (fun h => ?_) hf
  obtain ⟨hw, ht, -⟩ := (Statement.does_loadTitled table).of_ok h
  exact ⟨hw, ht⟩

end Rules

namespace Statement
variable {v v' : Session Memory} {d table : String}

theorem goes_write {lines : List String} (a : Answer)
    (ht : (v.storage.lines? d table).isSome = true) :
    Goes (do change (.writeTable d table lines); pure a) v :=
  goes_change_bind ht fun _ _ => goes_pure a

theorem matched_write {t : Table} {lines : List String} (a : Answer) (ht : v.Holds d table t)
    (ht' : v'.Holds d table t) :
    Matched (do change (.writeTable d table lines); pure a) v v' := by
  obtain ⟨-, _, hl, -⟩ := ht
  obtain ⟨-, _, hl', -⟩ := ht'
  exact .done (goes_write a (Option.isSome_of_eq_some hl))
    (goes_write a (Option.isSome_of_eq_some hl'))

theorem goes_forgetTable (a : Answer) (hd : v.context.database = some d)
    (hm : (v.storage.marks? d).isSome = true) :
    Goes (do forgetTable table; pure a) v := by
  let marked : Session Memory := ⟨⟨v.context.database, v.context.marks.erase table⟩, v.storage⟩
  have hforget := forgetTable_apply hd table
  split at hforget
  · obtain ⟨m, hsaved⟩ := Memory.exists_changed
      (c := .saveIdMarks d (v.context.marks.erase table)) hm
    exact goes_bind (hforget.trans (change_ok (s := marked) hsaved)) (goes_pure a)
  · exact goes_bind hforget (goes_pure a)

theorem goes_insert {lines : List String} (id : UInt64) (a : Answer)
    (hd : v.context.database = some d) (ht : (v.storage.lines? d table).isSome = true) :
    Goes (do recordId table id; change (.writeTable d table lines); pure a) v := by
  obtain ⟨m, hsaved⟩ := Memory.exists_changed
    (c := .saveIdMarks d (v.context.marks.insert table id)) (Memory.marks?_of_lines? ht)
  refine goes_bind (recordId_ok hd id hsaved) (goes_write a ?_)
  rwa [(Memory.of_saveIdMarks hsaved).2.2]

/-- A database that is there can be dropped. -/
theorem goes_dropDatabase (hd : (v.storage.marks? d).isSome = true) :
    Goes (executeDropDatabase d) v := by
  obtain ⟨marks, hmarks⟩ := Option.isSome_iff_exists.1 hd
  obtain ⟨tables, ht⟩ := Memory.exists_listTables hmarks
  have hmem := Memory.mem_of_ask_listTables ht
  obtain ⟨m, hdeleted, hnone, hrun⟩ := deleteTables_ok (s := v)
    (Memory.nodup_of_ask_listTables ht) fun t => (hmem t).1
  have hempty : ∀ t, m.lines? d t = none := by
    intro t
    cases hl : m.lines? d t with
    | none => rfl
    | some lines =>
      have hold := hdeleted.lines?_of_some hl
      rw [hnone t ((hmem t).2 (Option.isSome_of_eq_some hold))] at hl
      cases hl
  have hpossible : (Change.deleteDatabase d).Possible m := ⟨by rwa [hdeleted.marks?_eq], hempty⟩
  obtain ⟨m', hm'⟩ := Memory.exists_changed hpossible
  have hdrop : (tryCatch (change (.deleteDatabase d)) fun _ =>
      throw (.storage (.filesLeft d)) : SessionM Memory Unit) { v with storage := m } =
      .ok () { v with storage := m' } := by
    rw [tryCatch_apply, change_ok hm']
  refine goes_bind (ask_ok (v.storage.ask_databaseExists d)) ?_
  rw [hd]
  refine goes_bind (ask_ok ht) (goes_bind hrun (goes_bind hdrop ?_))
  by_cases hactive : v.context.database = some d
  · refine ⟨.dropDatabase d, ⟨{}, m'⟩, ?_⟩
    change (if v.context.database = some d then _ else _ : SessionM Memory Answer) _ = _
    rw [if_pos hactive]
    rfl
  · refine ⟨.dropDatabase d, ⟨v.context, m'⟩, ?_⟩
    change (if v.context.database = some d then _ else _ : SessionM Memory Answer) _ = _
    rw [if_neg hactive]
    rfl

theorem matched_use (hv : v.Alike v') (d : String) : Matched (executeUse d) v v' := by
  cases hm : v.storage.marks? d with
  | none =>
    apply matched_databaseExists_bind hv
    rw [hm]
    exact matched_throw _
  | some marks =>
    have hthere : (v'.storage.marks? d).isSome = true := by
      rw [← hv.exists_eq, hm]
      rfl
    obtain ⟨marks', hm'⟩ := Option.isSome_iff_exists.1 hthere
    obtain ⟨_, hrun⟩ := executeUse_ok hm
    obtain ⟨_, hrun'⟩ := executeUse_ok hm'
    exact .done ⟨_, _, hrun⟩ ⟨_, _, hrun'⟩

theorem matched_createDatabase (hv : v.Alike v') (d : String) :
    Matched (executeCreateDatabase d) v v' := by
  apply matched_databaseExists_bind hv
  apply matched_refuse_bind
  intro hnew
  have hpossible : ∀ {s : Session Memory}, ¬(s.storage.marks? d).isSome = true →
      Goes (do change (.createDatabase d); pure (Answer.createDatabase d)) s := by
    intro s hs
    have hnone : s.storage.marks? d = none := by simpa using hs
    exact goes_change_bind hnone fun _ _ => goes_pure _
  exact .done (hpossible hnew) (hpossible (hv.exists_eq d ▸ hnew))

theorem matched_dropDatabase (hv : v.Alike v') (d : String) :
    Matched (executeDropDatabase d) v v' := by
  cases hm : (v.storage.marks? d).isSome with
  | false =>
    apply matched_databaseExists_bind hv
    rw [hm]
    exact matched_throw _
  | true => exact .done (goes_dropDatabase hm) (goes_dropDatabase (hv.exists_eq d ▸ hm))

theorem matched_createTable (hv : v.Alike v') (table : String) (columns : List String) :
    Matched (executeCreateTable table columns) v v' := by
  have hgoes : ∀ {s : Session Memory} {d : String} {lines : List String}, s.Settled →
      s.context.database = some d → s.storage.lines? d table = none →
      Goes (do change (.createTable d table lines); forgetTable table
               pure (Answer.createTable table)) s := by
    intro s d lines hs hd hnew
    have hmarks := hs.regular.active d hd
    refine goes_change_bind ⟨hmarks, hnew⟩ fun m hm => goes_forgetTable _ hd ?_
    rwa [(Memory.of_createTable hm).2.2.1]
  apply matched_requireDatabase_bind hv
  intro d hd
  apply matched_tableExists_bind hv
  apply matched_refuse_bind
  intro hnew
  have hlines : v.storage.lines? d table = none := by simpa using hnew
  exact .done (hgoes hv.left hd hlines)
    (hgoes hv.right (hv.database_eq ▸ hd) (hv.lines_eq d table ▸ hlines))

theorem matched_dropTable (hv : v.Alike v') (table : String) :
    Matched (executeDropTable table) v v' := by
  have hgoes : ∀ {s : Session Memory} {d : String}, s.context.database = some d →
      (s.storage.lines? d table).isSome = true →
      Goes (do change (.deleteTable d table); forgetTable table
               pure (Answer.dropTable table)) s := by
    intro s d hd hthere
    refine goes_change_bind hthere fun m hm => goes_forgetTable _ hd ?_
    rw [(Memory.of_deleteTable hm).2.1]
    exact Memory.marks?_of_lines? hthere
  apply matched_requireDatabase_bind hv
  intro d hd
  apply matched_tableExists_bind hv
  apply matched_refuse_bind
  intro hfound
  have hthere : (v.storage.lines? d table).isSome = true := by
    simpa [Option.isSome_iff_ne_none] using hfound
  exact .done (hgoes hd hthere) (hgoes (hv.database_eq ▸ hd) (hv.lines_eq d table ▸ hthere))

theorem matched_alter (hv : v.Alike v') (table : String) (what : ColumnChange) (column : String) :
    Matched (executeAlter table what column) v v' := by
  apply matched_loadTable_bind hv
  intro d t ht ht'
  apply matched_refuse_bind
  intro _
  cases what with
  | add =>
    apply matched_refuse_bind
    intro _
    exact matched_write _ ht ht'
  | drop =>
    dsimp only
    rw [bind_map_left]
    apply matched_ofExcept_bind
    intro i _
    exact matched_write _ ht ht'

theorem matched_insert (hv : v.Alike v') (table : String) (literals : List String) :
    Matched (executeInsert table literals) v v' := by
  apply matched_loadTable_bind hv
  intro d old ht ht'
  apply matched_ofExcept_bind
  intro values hvalues
  apply matched_ofExcept_bind
  intro t htitled
  apply matched_refuse_bind
  intro _
  have hnext : v.context.nextId table t = v'.context.nextId table t := hv.nextId_eq ht.1 t
  cases hid : v.context.nextId table t with
  | error e =>
    have herror : ∀ {s : Session Memory}, s.context.nextId table t = .error e →
        nextId table t s = .error e s := by
      intro s hs
      change (ofExcept (s.context.nextId table t) : SessionM Memory UInt64) s = _
      rw [hs]
      rfl
    exact matched_bind_error (herror hid) (herror (hnext ▸ hid))
  | ok id =>
    obtain ⟨hd, _, hl, -⟩ := ht
    obtain ⟨hd', _, hl', -⟩ := ht'
    exact matched_bind_ok (nextId_ok hid) (nextId_ok (hnext ▸ hid))
      (.done (goes_insert id _ hd (Option.isSome_of_eq_some hl))
        (goes_insert id _ hd' (Option.isSome_of_eq_some hl')))

theorem matched_select (hv : v.Alike v') (table : String) (shown : Projection)
    (condition : Option Condition) : Matched (executeSelect table shown condition) v v' := by
  apply matched_loadTitled_bind hv
  intro d t _ _
  apply matched_ofExcept_bind
  intro indexes _
  exact .done (goes_pure _) (goes_pure _)

theorem matched_update (hv : v.Alike v') (table : String) (pairs : List (String × String))
    (condition : Option Condition) : Matched (executeUpdate table pairs condition) v v' := by
  apply matched_loadTitled_bind hv
  intro d t ht ht'
  apply matched_ofExcept_bind
  intro cells _
  exact matched_write _ ht ht'

theorem matched_delete (hv : v.Alike v') (table : String) (condition : Option Condition) :
    Matched (executeDelete table condition) v v' := by
  apply matched_loadTitled_bind hv
  intro d t ht ht'
  exact matched_write _ ht ht'

theorem matched_join (hv : v.Alike v') (left right leftColumn rightColumn : String) :
    Matched (executeJoin left right leftColumn rightColumn) v v' := by
  apply matched_loadTitled_bind hv
  intro d l _ _
  apply matched_loadTitled_bind hv
  intro d' r _ _
  apply matched_ofExcept_bind
  intro leftKey _
  apply matched_ofExcept_bind
  intro rightKey _
  exact .done (goes_pure _) (goes_pure _)

/-- A statement goes through in both sessions, or is refused by both alike. -/
theorem matched_execute (hv : v.Alike v') (st : Statement) : Matched st.execute v v' := by
  cases st with
  | use d => exact matched_use hv d
  | createDatabase d => exact matched_createDatabase hv d
  | dropDatabase d => exact matched_dropDatabase hv d
  | createTable table columns => exact matched_createTable hv table columns
  | dropTable table => exact matched_dropTable hv table
  | alter table what column => exact matched_alter hv table what column
  | insert table literals => exact matched_insert hv table literals
  | select table shown condition => exact matched_select hv table shown condition
  | update table pairs condition => exact matched_update hv table pairs condition
  | delete table condition => exact matched_delete hv table condition
  | join left right leftColumn rightColumn =>
    exact matched_join hv left right leftColumn rightColumn

end Statement

end Tabular
