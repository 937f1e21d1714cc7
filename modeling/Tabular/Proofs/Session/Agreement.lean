import Tabular.Proofs.Session.Regular
import Tabular.Proofs.Session.Success
import Tabular.Proofs.Storage.ImageChanges

/-! Rules for runs over the files of a memory: they end as the runs over the memory do. -/
namespace Tabular
open Files

/-- A question about a database and a table that files can hold. -/
def Query.Legal {α : Type} (m : Memory) : Query α → Prop
  | databaseExists d => FitsDatabase d
  | listTables d | loadIdMarks d => (m.marks? d).isSome = true
  | tableExists d t | readTable d t => (m.marks? d).isSome = true ∧ FitsTable t

namespace Session

/-- A session over the files of a memory, in the same context. -/
structure Mirrors (s : Session FileTree) (v : Session Memory) : Prop where
  context : s.context = v.context
  image : Image s.storage v.storage

/-- The active database is there, and files can have all names and hold all tables. -/
structure Bounded (v : Session Memory) : Prop where
  regular : v.Regular FitsDatabase FitsTable
  wellStored : v.storage.WellStored

variable {v : Session Memory}

theorem Bounded.fitsDatabase (hv : v.Bounded) {d : String}
    (hd : (v.storage.marks? d).isSome = true) : FitsDatabase d := by
  obtain ⟨marks, hmarks⟩ := Option.isSome_iff_exists.1 hd
  exact hv.regular.stored.databases d marks hmarks

theorem Bounded.fitsTable (hv : v.Bounded) {d t : String}
    (ht : (v.storage.lines? d t).isSome = true) : FitsTable t := by
  obtain ⟨lines, hlines⟩ := Option.isSome_iff_exists.1 ht
  exact hv.regular.stored.tables d t lines hlines

theorem Mirrors.ask_eq {s : Session FileTree} {α : Type} {q : Query α} (h : s.Mirrors v)
    (hv : v.Bounded) (hq : q.Legal v.storage) :
    Storage.ask q s.storage = v.storage.ask q := by
  change Files.ask q s.storage = _
  cases q with
  | databaseExists d =>
    rw [Files.ask, h.image.isDir_eq hq, Memory.ask_databaseExists]
  | listTables d =>
    apply h.image.ask_listTables (hv.fitsDatabase hq) hq
    intro t lines hl
    exact (hv.fitsTable (Option.isSome_of_eq_some hl)).1
  | tableExists d t =>
    rw [Files.ask, h.image.isFile_table (hv.fitsDatabase hq.1) hq.2, Memory.ask_tableExists]
  | readTable d t =>
    apply h.image.ask_readTable (hv.fitsDatabase hq.1) hq.2
    intro lines hl
    exact (hv.wellStored d t lines hl).isLine
  | loadIdMarks d =>
    obtain ⟨marks, hmarks⟩ := Option.isSome_iff_exists.1 hq
    rw [h.image.ask_loadIdMarks (hv.fitsDatabase hq) hmarks, Memory.ask_loadIdMarks.2 hmarks]

/-- Runs that end with the same result, in sessions of which one is over the files of the other's
memory. -/
inductive Matches {α : Type} :
    EStateM.Result Error (Session FileTree) α → EStateM.Result Error (Session Memory) α → Prop where
  | ok {a : α} {s : Session FileTree} {v : Session Memory} (h : s.Mirrors v) :
      Matches (.ok a s) (.ok a v)
  | error {e : Error} {s : Session FileTree} {v : Session Memory} (h : s.Mirrors v) :
      Matches (.error e s) (.error e v)

end Session

/-- Over the files of its memory, a session does the same. -/
def Agrees {α : Type} (x : SessionM FileTree α) (y : SessionM Memory α)
    (v : Session Memory) : Prop :=
  ∀ s : Session FileTree, s.Mirrors v → Session.Matches (x s) (y v)

section Rules
open Session
variable {α β : Type} {v : Session Memory} {x : SessionM FileTree α} {y : SessionM Memory α}

theorem agrees_pure (a : α) : Agrees (pure a) (pure a) v := by
  intro s hs
  exact .ok hs

theorem agrees_throw (e : Error) : Agrees (throw e : SessionM FileTree α) (throw e) v := by
  intro s hs
  exact .error hs

/-- What follows has to agree from where the run over the memory ends. -/
theorem agrees_bind {f : α → SessionM FileTree β} {g : α → SessionM Memory β} (hx : Agrees x y v)
    (hf : ∀ a w, y v = .ok a w → Agrees (f a) (g a) w) : Agrees (x >>= f) (y >>= g) v := by
  intro s hs
  have hmatch := hx s hs
  rw [SessionM.bind_apply, SessionM.bind_apply]
  cases hy : y v with
  | ok a w =>
    rw [hy] at hmatch
    generalize x s = r at hmatch
    cases hmatch with
    | ok h => exact hf a w hy _ h
  | error e w =>
    rw [hy] at hmatch
    generalize x s = r at hmatch
    cases hmatch with
    | error h => exact .error h

theorem agrees_tryCatch {f : Error → SessionM FileTree α} {g : Error → SessionM Memory α}
    (hx : Agrees x y v) (hf : ∀ e w, y v = .error e w → Agrees (f e) (g e) w) :
    Agrees (tryCatch x f) (tryCatch y g) v := by
  intro s hs
  have hmatch := hx s hs
  rw [SessionM.tryCatch_apply, SessionM.tryCatch_apply]
  cases hy : y v with
  | ok a w =>
    rw [hy] at hmatch
    generalize x s = r at hmatch
    cases hmatch with
    | ok h => exact .ok h
  | error e w =>
    rw [hy] at hmatch
    generalize x s = r at hmatch
    cases hmatch with
    | error h => exact hf e w hy _ h

theorem agrees_get_bind {f : Session FileTree → SessionM FileTree α}
    {g : Session Memory → SessionM Memory α}
    (hf : ∀ s : Session FileTree, s.context = v.context → Agrees (f s) (g v) v) :
    Agrees (get >>= f) (get >>= g) v := by
  intro s hs
  exact hf s hs.context s hs

theorem agrees_modify_bind {c : Context → Context} {f : Unit → SessionM FileTree α}
    {g : Unit → SessionM Memory α} (hf : Agrees (f ()) (g ()) ⟨c v.context, v.storage⟩) :
    Agrees (modify (fun s => ⟨c s.context, s.storage⟩) >>= f)
      (modify (fun s => ⟨c s.context, s.storage⟩) >>= g) v := by
  intro s hs
  have hmirrors : Mirrors ⟨c s.context, s.storage⟩ ⟨c v.context, v.storage⟩ := by
    constructor
    · exact congrArg c hs.context
    · exact hs.image
  exact hf _ hmirrors

theorem agrees_ofExcept_bind {z : Except Error β} {f : β → SessionM FileTree α}
    {g : β → SessionM Memory α} (hf : ∀ b, z = .ok b → Agrees (f b) (g b) v) :
    Agrees (ofExcept z >>= f) (ofExcept z >>= g) v := by
  cases z with
  | error e => exact agrees_throw e
  | ok b =>
    intro s hs
    exact hf b rfl s hs

theorem agrees_refuse_bind {c : Prop} [Decidable c] {e : Error} {f : β → SessionM FileTree α}
    {g : β → SessionM Memory α} (hx : ¬c → Agrees x y v) :
    Agrees (if c then throw e >>= f else x) (if c then throw e >>= g else y) v := by
  split
  · exact agrees_throw e
  · next h => exact hx h

theorem agrees_requireDatabase_bind {f : String → SessionM FileTree α}
    {g : String → SessionM Memory α}
    (hf : ∀ d, v.context.database = some d → Agrees (f d) (g d) v) :
    Agrees (requireDatabase >>= f) (requireDatabase >>= g) v := by
  intro s hs
  rw [SessionM.bind_apply, SessionM.bind_apply, SessionM.requireDatabase_apply,
    SessionM.requireDatabase_apply, hs.context]
  cases hd : v.context.database with
  | none => exact .error hs
  | some d => exact hf d hd s hs

theorem agrees_ask_bind {q : Query β} {f : β → SessionM FileTree α} {g : β → SessionM Memory α}
    (hv : v.Bounded) (hq : q.Legal v.storage)
    (hf : ∀ b, v.storage.ask q = .ok b → Agrees (f b) (g b) v) :
    Agrees (ask q >>= f) (ask q >>= g) v := by
  intro s hs
  have hmemory : Storage.ask q v.storage = v.storage.ask q := rfl
  rw [SessionM.bind_apply, SessionM.bind_apply, SessionM.ask_apply, SessionM.ask_apply,
    hs.ask_eq hv hq, hmemory]
  cases hb : v.storage.ask q with
  | error e => exact .error hs
  | ok b => exact hf b hb s hs

/-- A change that the memory allows is made to its files. -/
theorem agrees_change {c : Change} (names : v.storage.Names FitsDatabase FitsTable)
    (hc : FitsChange c) (hpossible : c.Possible v.storage) :
    Agrees (Session.change c) (Session.change c) v := by
  intro s hs
  obtain ⟨m, hm⟩ := Memory.exists_changed hpossible
  obtain ⟨tree, htree, himage⟩ := hs.image.change_ok names hc hm
  have hfiles : Session.change c s = .ok () { s with storage := tree } := by
    have hstorage : Storage.change c s.storage = .ok () tree := htree
    rw [Session.change, hstorage]
  rw [SessionM.change_ok hm, hfiles]
  exact .ok ⟨hs.context, himage⟩

theorem agrees_change_bind {c : Change} {f : Unit → SessionM FileTree α}
    {g : Unit → SessionM Memory α}
    (names : v.storage.Names FitsDatabase FitsTable) (hc : FitsChange c)
    (hpossible : c.Possible v.storage)
    (hf : ∀ m, v.storage.changed c = .ok m → Agrees (f ()) (g ()) { v with storage := m }) :
    Agrees (Session.change c >>= f) (Session.change c >>= g) v := by
  apply agrees_bind (agrees_change names hc hpossible)
  intro u w hw
  obtain ⟨m, hm⟩ := Memory.exists_changed hpossible
  rw [SessionM.change_ok hm] at hw
  cases hw
  exact hf m hm

theorem agrees_nextId_bind {table : String} {t : Table} {f : UInt64 → SessionM FileTree α}
    {g : UInt64 → SessionM Memory α}
    (hf : ∀ id, v.context.nextId table t = .ok id → Agrees (f id) (g id) v) :
    Agrees (nextId table t >>= f) (nextId table t >>= g) v := by
  rw [nextId, nextId, bind_assoc, bind_assoc]
  apply agrees_get_bind
  intro s hs
  rw [hs]
  exact agrees_ofExcept_bind hf

end Rules

end Tabular
