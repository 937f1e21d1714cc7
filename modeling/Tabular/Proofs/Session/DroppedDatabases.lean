import Mathlib.Data.Set.Basic
import Tabular.Proofs.Session.Failures
import Tabular.Proofs.Session.Spared

/-! Databases that are dropped while some deletions fail. The tables whose deletion fails stay, all
others go, and the database goes last, if there is nothing left in it. -/
namespace Tabular

/-- The tables of a database whose deletion is made to fail. -/
def Faulty.stuck (s : Faulty Memory) (d : String) : Set String :=
  {t | (s.base.lines? d t).isSome = true ∧ ¬s.Spares .deleteTable t}

/-- What is left of a database once all of its tables but some are deleted. -/
structure Memory.Leaves (m : Memory) (d : String) (kept : Set String) (m' : Memory) : Prop where
  kept_eq : ∀ t ∈ kept, m'.lines? d t = m.lines? d t
  gone : ∀ t ∉ kept, m'.lines? d t = none
  others : m.SameOff (.database d) m'

theorem Faulty.stuck_of_faults {s : Faulty Memory} {d : String} {tables : List String}
    (hfaults : s.faults = tables.map fun t => ⟨.deleteTable, some t⟩)
    (h : ∀ t ∈ tables, (s.base.lines? d t).isSome = true) : s.stuck d = {t | t ∈ tables} := by
  ext t
  have hspares : ¬s.Spares .deleteTable t ↔ t ∈ tables := by
    rw [Spares, hfaults]
    simp [InjectedFault.hits]
  rw [stuck, Set.mem_ofPred_eq, hspares]
  exact and_iff_right_of_imp (h t)

namespace Statement
open Session SessionM
variable {s : Session (Faulty Memory)} {d t : String}

theorem deleteTable_apply (ht : (s.storage.base.lines? d t).isSome = true) :
    ∃ m, (tryCatch (do change (.deleteTable d t); pure true) fun _ => pure false :
        SessionM (Faulty Memory) Bool) s =
          .ok (decide (s.storage.Spares .deleteTable t)) { s with storage.base := m } ∧
      (∀ e, m.marks? e = s.storage.base.marks? e) ∧
      ∀ e u, m.lines? e u =
        if e = d ∧ u = t ∧ s.storage.Spares .deleteTable u then none
        else s.storage.base.lines? e u := by
  by_cases hspares : s.storage.Spares .deleteTable t
  · obtain ⟨m, hm⟩ := Memory.exists_changed (c := .deleteTable d t) ht
    obtain ⟨-, hmarks, hlines⟩ := Memory.of_deleteTable hm
    have hrun := (change_eq_ok (u := ())).2 ⟨hspares, m, hm, rfl⟩
    refine ⟨m, ?_, hmarks, fun e u => ?_⟩
    · rw [tryCatch_apply, bind_ok _ hrun, decide_eq_true hspares]
      rfl
    · rw [hlines]
      by_cases hu : u = t
      · simp [hu, hspares]
      · simp [hu]
  · have hfails : ∃ e, change (.deleteTable d t) s = .error e s := by
      cases hrun : change (.deleteTable d t) s with
      | ok u s' => exact absurd (change_eq_ok.1 hrun).1 hspares
      | error e s' => exact ⟨e, by rw [eq_of_change_error hrun]⟩
    obtain ⟨e, hrun⟩ := hfails
    refine ⟨s.storage.base, ?_, fun _ => rfl, fun e u => ?_⟩
    · rw [tryCatch_apply, bind_apply, hrun, decide_eq_false hspares]
      rfl
    · rw [if_neg]
      rintro ⟨-, rfl, h⟩
      exact hspares h

theorem deleteTables_apply {tables : List String} (hnodup : tables.Nodup)
    (ht : ∀ t ∈ tables, (s.storage.base.lines? d t).isSome = true) :
    ∃ m, deleteTables d tables s =
          .ok (tables.all fun t => decide (s.storage.Spares .deleteTable t))
            { s with storage.base := m } ∧
      (∀ e, m.marks? e = s.storage.base.marks? e) ∧
      ∀ e u, m.lines? e u =
        if e = d ∧ u ∈ tables ∧ s.storage.Spares .deleteTable u then none
        else s.storage.base.lines? e u := by
  induction tables generalizing s with
  | nil => exact ⟨s.storage.base, rfl, fun _ => rfl, fun e u => by simp⟩
  | cons t rest ih =>
    obtain ⟨hnew, hrest⟩ := List.nodup_cons.1 hnodup
    obtain ⟨m, hrun, hmarks, hlines⟩ := deleteTable_apply (ht t List.mem_cons_self)
    have hleft : ∀ u ∈ rest, (m.lines? d u).isSome = true := by
      intro u hu
      have hne : u ≠ t := by
        rintro rfl
        exact hnew hu
      rw [hlines, if_neg fun h => hne h.2.1]
      exact ht u (List.mem_cons_of_mem t hu)
    obtain ⟨m', hrun', hmarks', hlines'⟩ := ih (s := { s with storage.base := m }) hrest hleft
    refine ⟨m', ?_, fun e => (hmarks' e).trans (hmarks e), fun e u => ?_⟩
    · rw [deleteTables, bind_ok _ hrun, bind_ok _ hrun', List.all_cons, Bool.and_comm]
      rfl
    · have hsame : ({ s with storage.base := m } : Session (Faulty Memory)).storage.Spares
          .deleteTable u ↔ s.storage.Spares .deleteTable u := Iff.rfl
      rw [hlines' e u, hlines e u]
      grind

/-- The tables of a database are deleted, but for those that are stuck. -/
theorem deleteTables_listed {tables : List String}
    (ht : s.storage.base.ask (.listTables d) = .ok tables) :
    ∃ m done, deleteTables d tables s = .ok done { s with storage.base := m } ∧
      (done = true ↔ s.storage.stuck d = ∅) ∧ m.marks? d = s.storage.base.marks? d ∧
      s.storage.base.Leaves d (s.storage.stuck d) m := by
  have hmem := Memory.mem_of_ask_listTables ht
  obtain ⟨m, hrun, hmarks, hlines⟩ :=
    deleteTables_apply (Memory.nodup_of_ask_listTables ht) fun t => (hmem t).1
  refine ⟨m, _, hrun, ?_, hmarks d, fun t hstuck => ?_, fun t hfree => ?_, ?_⟩
  · rw [List.all_eq_true, Set.eq_empty_iff_forall_notMem]
    simp [Faulty.stuck, hmem]
  · rw [hlines, if_neg fun h => hstuck.2 h.2.2]
  · rw [hlines]
    split
    · rfl
    · next hn =>
      cases hl : s.storage.base.lines? d t with
      | none => rfl
      | some lines =>
        have hthere : (s.storage.base.lines? d t).isSome = true := Option.isSome_of_eq_some hl
        refine absurd ⟨rfl, (hmem t).2 hthere, ?_⟩ hn
        by_contra hspares
        exact hfree ⟨hthere, hspares⟩
  · have hoff : ∀ e, ¬e = d → ∀ u, m.lines? e u = s.storage.base.lines? e u := by
      intro e he u
      rw [hlines, if_neg fun h => he h.1]
    exact ⟨fun e u he => hoff e he u, fun e _ => hmarks e, fun e _ => by rw [hmarks]⟩

theorem deleteDatabase_apply (hd : (s.storage.base.marks? d).isSome = true)
    (hnone : ∀ t, s.storage.base.lines? d t = none) :
    (s.storage.Spares .deleteDatabase d ∧ ∃ m,
      (tryCatch (change (.deleteDatabase d)) fun _ => throw (.storage (.filesLeft d)) :
        SessionM (Faulty Memory) Unit) s = .ok () { s with storage.base := m } ∧
      m.marks? d = none ∧ s.storage.base.Leaves d ∅ m) ∨
    (¬s.storage.Spares .deleteDatabase d ∧
      (tryCatch (change (.deleteDatabase d)) fun _ => throw (.storage (.filesLeft d)) :
        SessionM (Faulty Memory) Unit) s = .error (.storage (.filesLeft d)) s) := by
  by_cases hspares : s.storage.Spares .deleteDatabase d
  · obtain ⟨m, hm⟩ := Memory.exists_changed (c := .deleteDatabase d) ⟨hd, hnone⟩
    obtain ⟨-, -, hmarks, hlines⟩ := Memory.of_deleteDatabase hm
    have hrun := (change_eq_ok (u := ())).2 ⟨hspares, m, hm, rfl⟩
    refine .inl ⟨hspares, m, ?_, by rw [hmarks, if_pos rfl], ?_⟩
    · rw [tryCatch_apply, hrun]
    · exact ⟨fun t h => absurd h (Set.notMem_empty t), fun t _ => (hlines d t).trans (hnone t),
        .of_deleteDatabase hm⟩
  · refine .inr ⟨hspares, ?_⟩
    cases hrun : change (.deleteDatabase d) s with
    | ok u s' => exact absurd (change_eq_ok.1 hrun).1 hspares
    | error e s' =>
      obtain rfl := eq_of_change_error hrun
      rw [tryCatch_apply, hrun]
      rfl

theorem executeDropDatabase_run {s₁ : Session (Faulty Memory)} {tables : List String} {done : Bool}
    (hd : (s.storage.base.marks? d).isSome = true) (hexists : s.storage.Spares .databaseExists d)
    (hlist : s.storage.Spares .listTables d) (ht : s.storage.base.ask (.listTables d) = .ok tables)
    (hrun : deleteTables d tables s = .ok done s₁) :
    executeDropDatabase d s =
      if done then
        match (tryCatch (change (.deleteDatabase d)) fun _ => throw (.storage (.filesLeft d)) :
          SessionM (Faulty Memory) Unit) s₁ with
        | .ok _ s₂ => .ok (.dropDatabase d)
            ⟨if s₂.context.database = some d then {} else s₂.context, s₂.storage⟩
        | .error e s₂ => .error e s₂
      else .error (.storage (.filesLeft d)) s₁ := by
  have hask : ask (.databaseExists d) s = .ok true s :=
    ask_eq_ok.2 ⟨hexists, by rw [Memory.ask_databaseExists, hd], rfl⟩
  have hlisted : ask (.listTables d) s = .ok tables s := ask_eq_ok.2 ⟨hlist, ht, rfl⟩
  rw [executeDropDatabase, bind_ok _ hask]
  change (ask (.listTables d) >>= _) s = _
  rw [bind_ok _ hlisted, bind_ok _ hrun]
  cases done with
  | false => rfl
  | true =>
    change (tryCatch (change (.deleteDatabase d)) _ >>= _) s₁ = _
    rw [bind_apply, if_pos rfl]
    generalize (tryCatch (change (.deleteDatabase d)) fun _ => throw (.storage (.filesLeft d)) :
      SessionM (Faulty Memory) Unit) s₁ = r
    cases r with
    | error e s₂ => rfl
    | ok u s₂ =>
      change (if s₂.context.database = some d then _ else _ :
        SessionM (Faulty Memory) Answer) s₂ = _
      dsimp only
      split
      · rfl
      · rfl

/-- What becomes of a database that is dropped: it goes as a whole, or its stuck tables stay. -/
theorem executeDropDatabase_apply (hd : (s.storage.base.marks? d).isSome = true)
    (hexists : s.storage.Spares .databaseExists d) (hlist : s.storage.Spares .listTables d) :
    ∃ m, s.storage.base.Leaves d (s.storage.stuck d) m ∧
      (((s.storage.stuck d = ∅ ∧ s.storage.Spares .deleteDatabase d) ∧ m.marks? d = none ∧
        executeDropDatabase d s = .ok (.dropDatabase d)
          ⟨if s.context.database = some d then {} else s.context,
            { s.storage with base := m }⟩) ∨
      (¬(s.storage.stuck d = ∅ ∧ s.storage.Spares .deleteDatabase d) ∧
        m.marks? d = s.storage.base.marks? d ∧
        executeDropDatabase d s =
          .error (.storage (.filesLeft d)) { s with storage.base := m })) := by
  obtain ⟨marks, hmarks⟩ := Option.isSome_iff_exists.1 hd
  obtain ⟨tables, ht⟩ := Memory.exists_listTables hmarks
  obtain ⟨m, done, hrun, hdone, hkept, hleaves⟩ := deleteTables_listed ht
  have hdrop := executeDropDatabase_run hd hexists hlist ht hrun
  cases done with
  | false =>
    have hstuck : s.storage.stuck d ≠ ∅ := fun h => Bool.false_ne_true (hdone.2 h)
    exact ⟨m, hleaves, .inr ⟨fun h => hstuck h.1, hkept, hdrop⟩⟩
  | true =>
    have hstuck := hdone.1 rfl
    have hnone : ∀ t, m.lines? d t = none := fun t => hleaves.gone t (by simp [hstuck])
    have hthere : (m.marks? d).isSome = true := by rw [hkept, hd]
    rw [if_pos rfl] at hdrop
    rcases deleteDatabase_apply (s := { s with storage.base := m }) hthere hnone with
      ⟨hspares, m', hdelete, hgone, hleft⟩ | ⟨hstays, hdelete⟩
    · rw [hdelete] at hdrop
      refine ⟨m', ?_, .inl ⟨⟨hstuck, hspares⟩, hgone, hdrop⟩⟩
      rw [hstuck]
      exact ⟨nofun, fun t _ => hleft.gone t (Set.notMem_empty t),
        hleaves.others.trans hleft.others⟩
    · rw [hdelete] at hdrop
      exact ⟨m, hleaves, .inr ⟨fun h => hstays h.2, hkept, hdrop⟩⟩

end Statement

namespace Session
open Statement
variable {d text : String}

theorem respond_dropDatabase (s : Session (Faulty Memory)) (hst : ofText text = .ok (.dropDatabase d))
    (hd : (s.storage.base.marks? d).isSome = true) (hexists : s.storage.Spares .databaseExists d)
    (hlist : s.storage.Spares .listTables d) :
    (s.answer text = .ok (.dropDatabase d) ↔
      s.storage.stuck d = ∅ ∧ s.storage.Spares .deleteDatabase d) ∧
    (s.answer text = .ok (.dropDatabase d) ∨
      s.answer text = .error (.storage (.filesLeft d))) ∧
    s.storage.base.Leaves d (s.storage.stuck d) (s.respond text).2.storage.base ∧
    (((s.respond text).2.storage.base.marks? d).isSome = true ↔
      s.answer text = .error (.storage (.filesLeft d))) ∧
    (s.respond text).2.context =
      if s.answer text = .ok (.dropDatabase d) ∧ s.context.database = some d then {}
      else s.context := by
  obtain ⟨m, hleaves, ⟨hall, hgone, hrun⟩ | ⟨hsome, hkept, hrun⟩⟩ :=
    executeDropDatabase_apply hd hexists hlist
  · have hexecute : (Statement.dropDatabase d).execute s = _ := hrun
    obtain ⟨hanswer, hrespond⟩ := answer_of_execute hst hexecute
    rw [hanswer, hrespond]
    refine ⟨iff_of_true rfl hall, .inl rfl, hleaves, ?_, ?_⟩
    · simp [hgone]
    · simp
  · have hexecute : execute text s = _ := (execute_of_ofText hst s).trans hrun
    have hanswer : s.answer text = .error (.storage (.filesLeft d)) := by rw [answer, hexecute]
    have hrespond := respond_of_error hanswer
    obtain ⟨-, hs⟩ := EStateM.Result.error.inj (hexecute.symm.trans hrespond)
    rw [hanswer, ← hs]
    refine ⟨iff_of_false (by simp) hsome, .inr rfl, hleaves, ?_, ?_⟩
    · simp [hkept, hd]
    · simp

/-- Dropping a database deletes every table whose deletion does not fail, and the database itself if
none is left and its own deletion does not fail. It succeeds exactly then; otherwise the stuck tables
stay as they are, the context does too, and dropping the database again, once nothing fails, removes
it. -/
theorem dropDatabase_leaves_stuck (s : Session (Faulty Memory))
    (hst : ofText text = .ok (.dropDatabase d)) (hd : (s.storage.base.marks? d).isSome = true)
    (hexists : s.storage.Spares .databaseExists d) (hlist : s.storage.Spares .listTables d) :
    (s.answer text = .ok (.dropDatabase d) ↔
      s.storage.stuck d = ∅ ∧ s.storage.Spares .deleteDatabase d) ∧
    (s.answer text = .ok (.dropDatabase d) ∨
      s.answer text = .error (.storage (.filesLeft d))) ∧
    s.storage.base.Leaves d (s.storage.stuck d) (s.respond text).2.storage.base ∧
    (((s.respond text).2.storage.base.marks? d).isSome = true ↔
      s.answer text = .error (.storage (.filesLeft d))) ∧
    (s.respond text).2.context =
      (if s.answer text = .ok (.dropDatabase d) ∧ s.context.database = some d then {}
      else s.context) ∧
    ∀ v : Session (Faulty Memory), v.storage.base = (s.respond text).2.storage.base →
      s.answer text = .error (.storage (.filesLeft d)) → v.storage.Spares .databaseExists d →
      v.storage.Spares .listTables d → v.storage.Spares .deleteDatabase d →
      (∀ t ∈ s.storage.stuck d, v.storage.Spares .deleteTable t) →
      v.answer text = .ok (.dropDatabase d) ∧
        (v.respond text).2.storage.base.marks? d = none ∧
        ∀ t, (v.respond text).2.storage.base.lines? d t = none := by
  obtain ⟨hanswer, hor, hleaves, hthere, hcontext⟩ := respond_dropDatabase s hst hd hexists hlist
  refine ⟨hanswer, hor, hleaves, hthere, hcontext, ?_⟩
  intro v hbase herror hexists' hlist' hdelete hspares
  have hd' : (v.storage.base.marks? d).isSome = true := by
    rw [hbase]
    exact hthere.2 herror
  have hfree : v.storage.stuck d = ∅ := by
    refine Set.eq_empty_of_forall_notMem fun t ht => ?_
    have hleft : (v.storage.base.lines? d t).isSome = true := ht.1
    rw [hbase] at hleft
    by_cases hstuck : t ∈ s.storage.stuck d
    · exact ht.2 (hspares t hstuck)
    · rw [hleaves.gone t hstuck] at hleft
      cases hleft
  obtain ⟨hagain, -, hgone, hstill, -⟩ := respond_dropDatabase v hst hd' hexists' hlist'
  have hsuccess := hagain.2 ⟨hfree, hdelete⟩
  refine ⟨hsuccess, ?_, fun t => hgone.gone t (by simp [hfree])⟩
  rw [hsuccess] at hstill
  simpa using hstill

/-- One table of three is stuck, and the database is dropped once it is not. -/
theorem dropDatabase_leaves_stuck_one :
    let lines := ["id\ta"]
    let stored : StoredDatabase :=
      { tables := SortedMap.ofList [("t", lines), ("u", lines), ("w", lines)] }
    let memory : Memory := ⟨SortedMap.ofList [("d", stored)]⟩
    ∃ s v : Session (Faulty Memory),
      s = ⟨⟨some "d", ∅⟩, ⟨[⟨.deleteTable, some "u"⟩], memory⟩⟩ ∧
      v = ⟨(s.respond "DROP DATABASE d;").2.context,
        ⟨[], (s.respond "DROP DATABASE d;").2.storage.base⟩⟩ ∧
      s.answer "DROP DATABASE d;" = .error (.storage (.filesLeft "d")) ∧
      v.context = s.context ∧ v.storage.base.lines? "d" "u" = some ["id\ta"] ∧
      v.storage.base.lines? "d" "t" = none ∧ v.answer "DROP DATABASE d;" = .ok (.dropDatabase "d") ∧
      (v.respond "DROP DATABASE d;").2.storage.base.marks? "d" = none := by
  intro lines stored memory
  have hst : ofText "DROP DATABASE d;" = .ok (.dropDatabase "d") := by decide +kernel
  obtain ⟨s, hs, hanswer, hd, hlines, hexists, hlist, hfaults⟩ : ∃ s : Session (Faulty Memory),
      s = ⟨⟨some "d", ∅⟩, ⟨[⟨.deleteTable, some "u"⟩], memory⟩⟩ ∧
      s.answer "DROP DATABASE d;" = .error (.storage (.filesLeft "d")) ∧
      (s.storage.base.marks? "d").isSome = true ∧
      s.storage.base.lines? "d" "u" = some ["id\ta"] ∧ s.storage.Spares .databaseExists "d" ∧
      s.storage.Spares .listTables "d" ∧
      s.storage.faults = ["u"].map fun t => ⟨.deleteTable, some t⟩ :=
    ⟨_, rfl, by decide +kernel⟩
  have hstuck : s.storage.stuck "d" = {t | t ∈ ["u"]} :=
    Faulty.stuck_of_faults hfaults (by simp [hlines])
  obtain ⟨-, -, hleaves, -, hcontext, hagain⟩ := dropDatabase_leaves_stuck s hst hd hexists hlist
  have hfails : ¬(s.answer "DROP DATABASE d;" = .ok (.dropDatabase "d") ∧
      s.context.database = some "d") := by
    rw [hanswer]
    exact fun h => nomatch h.1
  rw [if_neg hfails] at hcontext
  rw [hstuck] at hleaves
  refine ⟨s, _, hs, rfl, hanswer, ?_⟩
  generalize (s.respond "DROP DATABASE d;").2 = w at hleaves hcontext hagain ⊢
  obtain ⟨hdropped, hgone, -⟩ :=
    hagain ⟨w.context, ⟨[], w.storage.base⟩⟩ rfl hanswer rfl rfl rfl fun _ _ => rfl
  exact ⟨hcontext, (hleaves.kept_eq "u" (by simp)).trans hlines, hleaves.gone "t" (by simp),
    hdropped, hgone⟩

end Session

end Tabular
