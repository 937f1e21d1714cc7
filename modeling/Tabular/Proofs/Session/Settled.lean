import Tabular.Proofs.Session.Regular
import Tabular.Proofs.Table.HighestIds

/-! What a session over a memory without faults shows, and how statements that succeed change it.
Marks are compared by the highest id that they stand for, which is zero without a mark. -/
namespace Tabular

/-- The highest id that marks say is handed out in a table. -/
def IdMarks.last (marks : IdMarks) (t : String) : UInt64 := (marks.get? t).getD 0

def Memory.last (m : Memory) (d t : String) : UInt64 := ((m.marks? d).getD ∅).last t

/-- The active database, the databases there are, the lines of the tables there are, and the highest
id handed out in each. -/
structure View where
  database : Option String
  databases : String → Bool
  lines : String → String → Option (List String)
  last : String → String → UInt64

namespace View
variable {V : View} {d t : String}

def put (V : View) (d t : String) (lines : Option (List String)) (last : UInt64) : View :=
  { V with
    lines := fun e u => if e = d ∧ u = t then lines else V.lines e u
    last := fun e u => if e = d ∧ u = t then last else V.last e u }

def activate (V : View) (d : String) : View := { V with database := some d }

def withDatabase (V : View) (d : String) : View :=
  { V with databases := fun e => if e = d then true else V.databases e }

def withoutDatabase (V : View) (d : String) : View where
  database := if V.database = some d then none else V.database
  databases := fun e => if e = d then false else V.databases e
  lines := fun e u => if e = d then none else V.lines e u
  last := fun e u => if e = d then 0 else V.last e u

theorem put_put (V : View) (d t : String) (lines lines' : Option (List String))
    (last last' : UInt64) :
    (V.put d t lines last).put d t lines' last' = V.put d t lines' last' := by
  unfold put
  congr 1
  · funext e u
    dsimp only
    split <;> rfl
  · funext e u
    dsimp only
    split <;> rfl

theorem put_self (V : View) (d t : String) : V.put d t (V.lines d t) (V.last d t) = V := by
  unfold put
  congr 1
  · funext e u
    split
    · next h => rw [h.1, h.2]
    · rfl
  · funext e u
    split
    · next h => rw [h.1, h.2]
    · rfl

/-- Tables that are not there have handed out no ids, and the others all the ids they hold. -/
structure Covers (V : View) : Prop where
  gone : ∀ d t, V.lines d t = none → V.last d t = 0
  stored : ∀ d t lines, V.lines d t = some lines → (Table.ofLines lines).maxId ≤ V.last d t

theorem Covers.put (h : V.Covers) {lines : Option (List String)} {last : UInt64}
    (hgone : lines = none → last = 0)
    (hstored : ∀ l, lines = some l → (Table.ofLines l).maxId ≤ last) :
    (V.put d t lines last).Covers := by
  constructor
  · intro e u hl
    dsimp only [View.put] at hl ⊢
    by_cases he : e = d ∧ u = t
    · rw [if_pos he] at hl ⊢
      exact hgone hl
    · rw [if_neg he] at hl ⊢
      exact h.gone e u hl
  · intro e u l hl
    dsimp only [View.put] at hl ⊢
    by_cases he : e = d ∧ u = t
    · rw [if_pos he] at hl ⊢
      exact hstored l hl
    · rw [if_neg he] at hl ⊢
      exact h.stored e u l hl

theorem Covers.put_table (h : V.Covers) {new : Table} {last : UInt64} (hn : new.Sound)
    (hid : new.maxId ≤ last) : (V.put d t (some new.toLines) last).Covers := by
  refine h.put (fun hl => by cases hl) fun lines hl => ?_
  cases hl
  rw [hn.ofLines_toLines]
  exact hid

theorem Covers.put_none (h : V.Covers) : (V.put d t none 0).Covers :=
  h.put (fun _ => rfl) fun _ hl => by cases hl

theorem Covers.withoutDatabase (h : V.Covers) : (V.withoutDatabase d).Covers := by
  constructor
  · intro e u hl
    dsimp only [View.withoutDatabase] at hl ⊢
    by_cases he : e = d
    · exact if_pos he
    · rw [if_neg he] at hl ⊢
      exact h.gone e u hl
  · intro e u l hl
    dsimp only [View.withoutDatabase] at hl ⊢
    by_cases he : e = d
    · rw [if_pos he] at hl
      cases hl
    · rw [if_neg he] at hl ⊢
      exact h.stored e u l hl

end View

namespace Session
variable {v w : Session Memory} {d table : String}

def view (v : Session Memory) : View :=
  ⟨v.context.database, fun d => (v.storage.marks? d).isSome, v.storage.lines?, v.storage.last⟩

/-- The session remembers for the tables of its database what is stored. -/
def Held (v : Session Memory) : Prop :=
  ∀ d, v.context.database = some d → ∀ t, v.context.marks.last t = v.view.last d t

/-- A session whose marks are stored, and cover the ids of the tables. -/
structure Settled (v : Session Memory) : Prop where
  regular : v.Regular IsName IsName
  wellStored : v.storage.WellStored
  covers : v.view.Covers
  held : v.Held

theorem view_changed {m : Memory} {lines : Option (List String)}
    (hmarks : ∀ e, m.marks? e = v.storage.marks? e)
    (hlines : ∀ e u, m.lines? e u =
      if e = d ∧ u = table then lines else v.storage.lines? e u) :
    view { v with storage := m } = v.view.put d table lines (v.view.last d table) := by
  unfold view View.put Memory.last
  congr 1
  · funext e
    rw [hmarks]
  · funext e u
    exact hlines e u
  · funext e u
    dsimp only
    rw [hmarks]
    split
    · next he => rw [he.1, he.2]
    · rfl

/-- Marks that change for one table alone change its highest id alone. -/
theorem view_marked {marks : IdMarks} (hd : v.context.database = some d) (hheld : v.Held)
    (h : v.Marked marks (.ok ()) w)
    (hmarks : ∀ u, u ≠ table → marks.last u = v.context.marks.last u) :
    w.view = v.view.put d table (v.view.lines d table) (marks.last table) ∧ w.Held := by
  cases h with
  | @saved e m hd' hm =>
    obtain rfl : d = e := Option.some.inj (hd.symm.trans hd')
    obtain ⟨hthere, hsaved, hlines⟩ := Memory.of_saveIdMarks hm
    have hlast : ∀ e u, m.last e u = if e = d then marks.last u else v.storage.last e u := by
      intro e u
      rw [Memory.last, hsaved]
      split <;> rfl
    constructor
    · unfold view View.put
      congr 1
      · funext e
        dsimp only
        rw [hsaved]
        split
        · next he => rw [he, hthere]; rfl
        · rfl
      · funext e u
        dsimp only
        rw [hlines]
        split
        · next he => rw [he.1, he.2]
        · rfl
      · funext e u
        rw [hlast]
        by_cases he : e = d
        · by_cases hu : u = table
          · rw [if_pos he, if_pos ⟨he, hu⟩, hu]
          · rw [if_pos he, if_neg fun h => hu h.2, hmarks u hu, he]
            exact hheld d hd u
        · rw [if_neg he, if_neg fun h => he h.1]
    · intro e he u
      obtain rfl : d = e := Option.some.inj (hd.symm.trans he)
      exact ((hlast d u).trans (if_pos rfl)).symm

/-- A table whose mark is forgotten has handed out no ids. -/
theorem view_forgot (hd : v.context.database = some d) (hheld : v.Held)
    (h : v.Forgot table (.ok ()) w) :
    w.view = v.view.put d table (v.view.lines d table) 0 ∧ w.Held := by
  cases h with
  | unknown hcontains =>
    have hnone : v.context.marks.get? table = none := by
      simpa [SortedMap.contains] using hcontains
    have hzero : v.view.last d table = 0 := by
      rw [← hheld d hd, IdMarks.last, hnone]
      rfl
    refine ⟨?_, hheld⟩
    rw [← hzero, View.put_self]
  | marked hcontains hm =>
    have hlast : ∀ u, IdMarks.last (v.context.marks.erase table) u =
        if u = table then 0 else v.context.marks.last u := by
      intro u
      rw [IdMarks.last, SortedMap.get?_erase]
      split <;> rfl
    have hview := view_marked hd hheld hm fun u hu => (hlast u).trans (if_neg hu)
    rwa [hlast, if_pos rfl] at hview

theorem Held.changed (h : v.Held) {m : Memory} (hmarks : ∀ e, m.marks? e = v.storage.marks? e) :
    Held { v with storage := m } := by
  intro d hd t
  change _ = Memory.last m d t
  rw [Memory.last, hmarks]
  exact h d hd t

theorem view_changed_forgot {m : Memory} {lines : Option (List String)}
    (hd : v.context.database = some d) (hheld : v.Held)
    (hmarks : ∀ e, m.marks? e = v.storage.marks? e)
    (hlines : ∀ e u, m.lines? e u =
      if e = d ∧ u = table then lines else v.storage.lines? e u)
    (h : Forgot { v with storage := m } table (.ok ()) w) :
    w.view = v.view.put d table lines 0 ∧ w.Held := by
  obtain ⟨hview, hheld'⟩ := view_forgot (v := { v with storage := m }) hd (hheld.changed hmarks) h
  have hnew : (v.view.put d table lines (v.view.last d table)).lines d table = lines :=
    if_pos ⟨rfl, rfl⟩
  rw [view_changed hmarks hlines, hnew, View.put_put] at hview
  exact ⟨hview, hheld'⟩

theorem view_createTable {m : Memory} {lines : List String} (hd : v.context.database = some d)
    (hheld : v.Held) (hm : v.storage.changed (.createTable d table lines) = .ok m)
    (h : Forgot { v with storage := m } table (.ok ()) w) :
    w.view = v.view.put d table (some lines) 0 ∧ w.Held := by
  obtain ⟨-, -, hmarks, hlines⟩ := Memory.of_createTable hm
  exact view_changed_forgot hd hheld hmarks hlines h

theorem view_dropTable {m : Memory} (hd : v.context.database = some d) (hheld : v.Held)
    (hm : v.storage.changed (.deleteTable d table) = .ok m)
    (h : Forgot { v with storage := m } table (.ok ()) w) :
    w.view = v.view.put d table none 0 ∧ w.Held := by
  obtain ⟨-, hmarks, hlines⟩ := Memory.of_deleteTable hm
  exact view_changed_forgot hd hheld hmarks hlines h

theorem view_written {lines : List String} {m : Memory} (hheld : v.Held)
    (hm : v.storage.changed (.writeTable d table lines) = .ok m) :
    view { v with storage := m } = v.view.put d table (some lines) (v.view.last d table) ∧
      Held { v with storage := m } := by
  obtain ⟨-, hmarks, hlines⟩ := Memory.of_writeTable hm
  exact ⟨view_changed hmarks hlines, hheld.changed hmarks⟩

theorem view_inserted {id : UInt64} {lines : List String} {m : Memory}
    (hd : v.context.database = some d) (hheld : v.Held)
    (hw : v.Marked (v.context.marks.insert table id) (.ok ()) w)
    (hm : w.storage.changed (.writeTable d table lines) = .ok m) :
    view { w with storage := m } = v.view.put d table (some lines) id ∧
      Held { w with storage := m } := by
  have hlast : ∀ u, IdMarks.last (v.context.marks.insert table id) u =
      if u = table then id else v.context.marks.last u := by
    intro u
    rw [IdMarks.last, SortedMap.get?_insert]
    split <;> rfl
  obtain ⟨hmarked, hheld'⟩ := view_marked hd hheld hw fun u hu => (hlast u).trans (if_neg hu)
  obtain ⟨hview, hheld''⟩ := view_written hheld' hm
  have hnew : (v.view.put d table (v.view.lines d table) id).last d table = id := if_pos ⟨rfl, rfl⟩
  rw [hlast, if_pos rfl] at hmarked
  rw [hmarked, hnew, View.put_put] at hview
  exact ⟨hview, hheld''⟩

/-- A database made active brings the marks that are stored for its tables. -/
theorem held_use {tables : List String} {marks : IdMarks} (hcovers : v.view.Covers)
    (ht : v.storage.ask (.listTables d) = .ok tables) (hm : v.storage.marks? d = some marks) :
    Held { v with context := ⟨some d, raiseMarks marks (storedIds v.storage d tables)⟩ } := by
  intro e he t
  obtain rfl : d = e := Option.some.inj he
  have hlast : v.view.last d t = marks.last t := by
    change ((v.storage.marks? d).getD ∅).last t = _
    rw [hm]
    rfl
  have hraised := get?_raiseMarks marks tables
    (fun t => (Table.ofLines ((v.storage.lines? d t).getD [])).maxId) t
  change ((raiseMarks marks (storedIds v.storage d tables)).get? t).getD 0 = v.view.last d t
  rw [storedIds, hraised]
  cases hl : v.storage.lines? d t with
  | none =>
    have hmissing : t ∉ tables := by
      rw [Memory.mem_of_ask_listTables ht, hl]
      simp
    rw [if_neg hmissing, hcovers.gone d t hl]
    rfl
  | some lines =>
    have hlisted : t ∈ tables := by
      rw [Memory.mem_of_ask_listTables ht, hl]
      rfl
    have hle := hcovers.stored d t lines hl
    rw [if_pos hlisted, Option.getD_some, Option.getD_some, hlast]
    rw [hlast] at hle
    rw [← UInt64.toNat_inj, toNat_max]
    exact Nat.max_eq_left (UInt64.le_iff_toNat_le.1 hle)

theorem view_use (v : Session Memory) (d : String) (marks : IdMarks) :
    view ⟨⟨some d, marks⟩, v.storage⟩ = v.view.activate d := rfl

theorem view_createDatabase {m : Memory} (hm : v.storage.changed (.createDatabase d) = .ok m) :
    view { v with storage := m } = v.view.withDatabase d := by
  obtain ⟨hnone, hmarks, hlines⟩ := Memory.of_createDatabase hm
  unfold view View.withDatabase
  congr 1
  · funext e
    dsimp only
    rw [hmarks]
    split <;> rfl
  · funext e u
    exact hlines e u
  · funext e u
    dsimp only
    rw [Memory.last, Memory.last, hmarks]
    split
    · next he => rw [he, hnone]; rfl
    · rfl

theorem view_dropDatabase {m m' : Memory} (hm : v.storage.Deleted d m)
    (hm' : m.changed (.deleteDatabase d) = .ok m') :
    view ⟨if v.context.database = some d then {} else v.context, m'⟩ =
      v.view.withoutDatabase d := by
  obtain ⟨-, hnone, hmarks, hlines⟩ := Memory.of_deleteDatabase hm'
  unfold view View.withoutDatabase
  congr 1
  · dsimp only
    split <;> rfl
  · funext e
    dsimp only
    rw [hmarks, hm.marks?_eq]
    split <;> rfl
  · funext e u
    dsimp only
    rw [hlines]
    split
    · next he => rw [he, hnone]
    · next he => exact hm.lines?_of_ne he u
  · funext e u
    dsimp only
    rw [Memory.last, Memory.last, hmarks, hm.marks?_eq]
    split <;> rfl

/-- A table may be written whose ids are not above those that the old one holds. -/
theorem Settled.write {t new : Table} {m : Memory} (hv : v.Settled) (ht : v.Holds d table t)
    (hn : new.Sound) (hid : new.maxId ≤ t.maxId)
    (hm : v.storage.changed (.writeTable d table new.toLines) = .ok m) :
    (view { v with storage := m }).Covers ∧ Held { v with storage := m } := by
  obtain ⟨hview, hheld⟩ := view_written hv.held hm
  obtain ⟨-, lines, hl, rfl⟩ := ht
  rw [hview]
  exact ⟨hv.covers.put_table hn (UInt64.le_trans hid (hv.covers.stored d table lines hl)), hheld⟩

end Session

namespace Statement.Effect
open Session
variable {v w : Session Memory} {st : Statement} {a : Answer}

/-- The marks cover the ids after a statement that succeeds, and are remembered. -/
theorem covers_held (h : st.Effect v (.ok a) w) (proper : st.Proper) (hv : v.Settled) :
    w.view.Covers ∧ w.Held := by
  generalize hr : Except.ok a = r at h
  cases h with
  | refused | dropTables | burned => cases hr
  | select | join => exact ⟨hv.covers, hv.held⟩
  | use ht hm => exact ⟨⟨hv.covers.gone, hv.covers.stored⟩, held_use hv.covers ht hm⟩
  | createDatabase hm =>
    have hview := view_createDatabase hm
    rw [hview]
    refine ⟨⟨hv.covers.gone, hv.covers.stored⟩, fun d hd t => ?_⟩
    rw [hview]
    exact hv.held d hd t
  | @dropDatabase d m m' hm hm' =>
    have hview := view_dropDatabase hm hm'
    rw [hview]
    refine ⟨hv.covers.withoutDatabase, fun e he t => ?_⟩
    rw [hview]
    by_cases hd : v.context.database = some d
    · rw [if_pos hd] at he
      cases he
    · rw [if_neg hd] at he ⊢
      have hne : e ≠ d := by
        rintro rfl
        exact hd he
      exact (hv.held e he t).trans (if_neg hne).symm
  | createTable hd hm hw =>
    obtain ⟨_, rfl, -⟩ := Except.map_eq_ok.1 hr.symm
    obtain ⟨hview, hheld⟩ := view_createTable hd hv.held hm hw
    rw [hview]
    have hsound := Table.sound_created proper.2.1 proper.2.2
    exact ⟨hv.covers.put_table hsound (UInt64.le_refl _), hheld⟩
  | dropTable hd hm hw =>
    obtain ⟨_, rfl, -⟩ := Except.map_eq_ok.1 hr.symm
    obtain ⟨hview, hheld⟩ := view_dropTable hd hv.held hm hw
    rw [hview]
    exact ⟨hv.covers.put_none, hheld⟩
  | addColumn ht hid hnew hm =>
    have hsound := ht.sound hv.wellStored
    have hnew := Table.addColumn_sound hsound hid hnew proper.2
    exact hv.write ht (.inr hnew) (hsound.maxId_addColumn_le _) hm
  | dropColumn ht hid hi hm =>
    have hf := Table.findColumn?_of_columnIndex hi
    have hwf := ht.wellFormed hv.wellStored (by rintro hh; rw [hh] at hf; cases hf)
    have hne : _ ≠ 0 := fun h0 => findColumn?_ne_zero hwf.header.first hid (h0 ▸ hf)
    exact hv.write ht (.inr (hwf.dropColumn hne)) (hwf.maxId_dropColumn_le hne) hm
  | insert hi hw hm =>
    obtain ⟨hview, hheld⟩ := view_inserted hi.holds.1 hv.held hw hm
    rw [hview]
    refine ⟨hv.covers.put_table (.inr (hi.wellFormed hv.wellStored)) ?_, hheld⟩
    apply Table.maxId_insertRow_le
    rw [UInt64.le_iff_toNat_le, Context.toNat_nextId hi.nextId_eq]
    omega
  | update ht hh hc hm =>
    have hwf := ht.wellFormed hv.wellStored hh
    have hcells := Table.of_mem_assignments hwf.header.first hc
    exact hv.write ht (.inr (hwf.assign hcells _)) (Table.maxId_assign_le _ hcells _) hm
  | delete ht hh hm =>
    have hwf := ht.wellFormed hv.wellStored hh
    exact hv.write ht (.inr (hwf.remove _)) (Table.maxId_remove_le _ _) hm

/-- A statement that succeeds leaves a session settled. -/
theorem settled (h : st.Effect v (.ok a) w) (proper : st.Proper) (hv : v.Settled) : w.Settled := by
  obtain ⟨hcovers, hheld⟩ := h.covers_held proper hv
  exact ⟨h.regular proper.names hv.regular, h.wellStored proper hv.wellStored, hcovers, hheld⟩

end Statement.Effect

end Tabular
