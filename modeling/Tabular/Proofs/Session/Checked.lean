import Tabular.Proofs.Session.Logic
import Tabular.Proofs.Statement.Checked

/-! What statements do, with a check at every place of a list that they use and at every number that
they compute. Whatever storage holds and answers, no check fails. -/
namespace Tabular

/-- What a session does that may crash. -/
abbrev CheckedM (σ α : Type) := EStateM Stop (Session σ) α

namespace CheckedM
variable {σ α β : Type}

def ofSession (x : SessionM σ α) : CheckedM σ α := fun s =>
  match x s with
  | .ok a s' => .ok a s'
  | .error e s' => .error (.error e) s'

def ofChecked (x : Except Crash α) : CheckedM σ α :=
  match x with
  | .ok a => pure a
  | .error c => throw (.crash c)

section Rules
variable {x : SessionM σ α} {y : CheckedM σ β}

/-- What is done without a check first: what follows may rely on its result. -/
theorem ofSession_bind {f : α → CheckedM σ β} {g : α → SessionM σ β}
    (h : ∀ s a s', x s = .ok a s' → f a = ofSession (g a)) :
    ofSession x >>= f = ofSession (x >>= g) := by
  funext s
  change EStateM.bind (ofSession x) f s = _
  rw [EStateM.bind, ofSession, ofSession, SessionM.bind_apply]
  cases hr : x s with
  | error e s' => rfl
  | ok a s' =>
    change f a s' = _
    rw [h s a s' hr]
    rfl

theorem ofExcept_bind {r : Except Error α} {f : α → CheckedM σ β} {g : α → SessionM σ β}
    (h : ∀ a, r = .ok a → f a = ofSession (g a)) :
    ofSession (ofExcept r) >>= f = ofSession (ofExcept r >>= g) := by
  refine ofSession_bind fun s a s' hr => h a ?_
  rw [SessionM.ofExcept_apply] at hr
  cases r <;> cases hr
  rfl

theorem ofChecked_bind {c : Except Crash α} {a : α} (hc : c = .ok a) {f : α → CheckedM σ β} :
    ofChecked c >>= f = f a := by
  rw [hc]
  rfl

theorem ofSession_if {c : Prop} [Decidable c] {z : SessionM σ β} {x : SessionM σ β}
    {z' : CheckedM σ β} (hx : y = ofSession x) (hz : z' = ofSession z) :
    (if c then y else z') = ofSession (if c then x else z) := by
  split
  · exact hx
  · exact hz

end Rules

end CheckedM

namespace Session
variable {σ : Type} [Storage σ] {s s' : Session σ} {table d : String} {t : Table}

/-- Tables are padded as they are loaded, whatever their lines. -/
theorem padded_of_loadTable (h : loadTable table s = .ok (d, t) s') : t.Padded := by
  obtain ⟨e, s₁, -, h⟩ := SessionM.bind_eq_ok.1 h
  obtain ⟨there, s₂, -, h⟩ := SessionM.bind_eq_ok.1 h
  split at h
  · cases h
  · obtain ⟨lines, s₃, -, h⟩ := SessionM.bind_eq_ok.1 h
    cases h
    exact Table.padded_ofLines lines

theorem padded_of_loadTitled (h : loadTitled table s = .ok (d, t) s') :
    t.Padded := by
  obtain ⟨⟨e, t₁⟩, s₁, hload, h⟩ := SessionM.bind_eq_ok.1 h
  dsimp only at h
  split at h
  · cases h
  · cases h
    exact padded_of_loadTable hload

def nextIdChecked {σ : Type} (table : String) (t : Table) : CheckedM σ UInt64 := do
  let last := max (((← get).context.marks.get? table).getD 0) t.maxId
  if last.toNat + 1 < UInt64.size then CheckedM.ofChecked (Checked.next last)
  else throw (.error (.schema (.noIdsLeft table)))

theorem nextIdChecked_eq {σ : Type} (table : String) (t : Table) :
    (nextIdChecked table t : CheckedM σ UInt64) = CheckedM.ofSession (nextId table t) := by
  funext s
  change (if _ then CheckedM.ofChecked (Checked.next _) else throw _ : CheckedM σ UInt64) s =
    CheckedM.ofSession (ofExcept (s.context.nextId table t)) s
  by_cases hlt : (max ((s.context.marks.get? table).getD 0) t.maxId).toNat + 1 < UInt64.size
  · rw [show s.context.nextId table t = .ok _ from if_pos hlt, if_pos hlt, Checked.next, if_pos hlt]
    rfl
  · rw [show s.context.nextId table t = .error _ from if_neg hlt, if_neg hlt]
    rfl

end Session

namespace Statement
open Session CheckedM
variable {σ : Type} [Storage σ]

def executeAlterChecked (table : String) (what : ColumnChange) (column : String) :
    CheckedM σ Answer := do
  let (d, t) ← ofSession (loadTable table)
  if isIdColumn column then throw (.error (.schema .alterOfId))
  let t' ← match what with
    | .add =>
      if (findColumn? t.header column).isSome then
        throw (.error (.schema (.columnExists column table)))
      else pure (t.addColumn column)
    | .drop => do
      let i ← ofSession (ofExcept (t.columnIndex table column))
      ofChecked (t.dropColumnChecked i)
  ofSession (change (.writeTable d table t'.toLines))
  pure (.alter table)

def executeInsertChecked (table : String) (literals : List String) : CheckedM σ Answer := do
  let (d, t) ← ofSession (loadTable table)
  let values ← ofSession (ofExcept (literals.mapM cellOf))
  let t ← ofSession (ofExcept (t.titled values))
  let expected ← ofChecked (Checked.sub t.header.length 1)
  if values.length ≠ expected then
    throw (.error (.schema (.countMismatch expected values.length)))
  let id ← nextIdChecked table t
  ofSession (recordId table id)
  ofSession (change (.writeTable d table (t.insertRow id values).toLines))
  pure (.insert table id)

def executeSelectChecked (table : String) (shown : Projection) (condition : Option Condition) :
    CheckedM σ Answer := do
  let (_, t) ← ofSession (loadTitled table)
  let indexes ← ofSession (ofExcept (t.projected table shown))
  ofChecked (t.scanChecked indexes condition)

def executeUpdateChecked (table : String) (pairs : List (String × String))
    (condition : Option Condition) : CheckedM σ Answer := do
  let (d, t) ← ofSession (loadTitled table)
  let cells ← ofSession (ofExcept (t.assignments table pairs))
  let t' ← ofChecked (t.assignChecked condition cells)
  ofSession (change (.writeTable d table t'.toLines))
  pure (.update (t.rows.countP (t.rowHolds condition)))

def executeDeleteChecked (table : String) (condition : Option Condition) : CheckedM σ Answer := do
  let (d, t) ← ofSession (loadTitled table)
  let t' := t.remove condition
  let count ← ofChecked (Checked.sub t.rows.length t'.rows.length)
  ofSession (change (.writeTable d table t'.toLines))
  pure (.delete count)

def executeJoinChecked (left right leftColumn rightColumn : String) : CheckedM σ Answer := do
  let (_, l) ← ofSession (loadTitled left)
  let (_, r) ← ofSession (loadTitled right)
  let leftKey ← ofSession (ofExcept (l.columnIndex left leftColumn))
  let rightKey ← ofSession (ofExcept (r.columnIndex right rightColumn))
  ofChecked (l.joinChecked r left right leftKey rightKey)

theorem executeAlterChecked_eq (table : String) (what : ColumnChange) (column : String) :
    (executeAlterChecked table what column : CheckedM σ Answer) =
      ofSession (executeAlter table what column) := by
  refine ofSession_bind fun _ ⟨d, t⟩ _ _ => ofSession_if rfl ?_
  cases what with
  | add => exact ofSession_if rfl (ofSession_bind fun _ _ _ _ => rfl)
  | drop =>
    dsimp only
    rw [bind_map_left]
    refine ofExcept_bind fun i hi => ?_
    rw [ofChecked_bind (Table.dropColumnChecked_eq (Table.columnIndex_lt hi))]
    exact ofSession_bind fun _ _ _ _ => rfl

theorem executeInsertChecked_eq (table : String) (literals : List String) :
    (executeInsertChecked table literals : CheckedM σ Answer) =
      ofSession (executeInsert table literals) := by
  refine ofSession_bind fun _ ⟨d, old⟩ _ _ => ofExcept_bind fun values _ =>
    ofExcept_bind fun t ht => ?_
  have hheader : 1 ≤ t.header.length := List.length_pos_iff.2 (Table.titled_ne_nil ht)
  rw [ofChecked_bind (Checked.sub_eq hheader)]
  refine ofSession_if rfl ?_
  rw [nextIdChecked_eq]
  exact ofSession_bind fun _ id _ _ => ofSession_bind fun _ _ _ _ => ofSession_bind fun _ _ _ _ => rfl

theorem executeSelectChecked_eq (table : String) (shown : Projection)
    (condition : Option Condition) :
    (executeSelectChecked table shown condition : CheckedM σ Answer) =
      ofSession (executeSelect table shown condition) := by
  refine ofSession_bind fun _ ⟨d, t⟩ _ _ => ofExcept_bind fun indexes hi => ?_
  rw [Table.scanChecked_eq (Table.projected_lt hi)]
  rfl

theorem executeUpdateChecked_eq (table : String) (pairs : List (String × String))
    (condition : Option Condition) :
    (executeUpdateChecked table pairs condition : CheckedM σ Answer) =
      ofSession (executeUpdate table pairs condition) := by
  refine ofSession_bind fun _ ⟨d, t⟩ _ hload => ofExcept_bind fun cells hc => ?_
  rw [ofChecked_bind
    (Table.assignChecked_eq (padded_of_loadTitled hload) (Table.assignments_lt hc) condition)]
  exact ofSession_bind fun _ _ _ _ => rfl

theorem executeDeleteChecked_eq (table : String) (condition : Option Condition) :
    (executeDeleteChecked table condition : CheckedM σ Answer) =
      ofSession (executeDelete table condition) := by
  refine ofSession_bind fun _ ⟨d, t⟩ _ _ => ?_
  have hfewer : (t.remove condition).rows.length ≤ t.rows.length := t.length_rows_remove_le condition
  dsimp only
  rw [ofChecked_bind (Checked.sub_eq hfewer)]
  exact ofSession_bind fun _ _ _ _ => rfl

theorem executeJoinChecked_eq (left right leftColumn rightColumn : String) :
    (executeJoinChecked left right leftColumn rightColumn : CheckedM σ Answer) =
      ofSession (executeJoin left right leftColumn rightColumn) := by
  refine ofSession_bind fun _ ⟨_, l⟩ _ hl => ofSession_bind fun _ ⟨_, r⟩ _ hr =>
    ofExcept_bind fun leftKey hlk => ofExcept_bind fun rightKey hrk => ?_
  rw [Table.joinChecked_eq (padded_of_loadTitled hl) (padded_of_loadTitled hr)
    (Table.columnIndex_lt hlk) (Table.columnIndex_lt hrk)]
  rfl

/-- Does what a statement says, with all checks. -/
def executeChecked : Statement → CheckedM σ Answer
  | alter table what column => executeAlterChecked table what column
  | insert table literals => executeInsertChecked table literals
  | select table shown condition => executeSelectChecked table shown condition
  | update table pairs condition => executeUpdateChecked table pairs condition
  | delete table condition => executeDeleteChecked table condition
  | join left right leftColumn rightColumn => executeJoinChecked left right leftColumn rightColumn
  | st => ofSession st.execute

/-- No check fails while a statement is executed. -/
theorem executeChecked_eq (st : Statement) :
    (st.executeChecked : CheckedM σ Answer) = ofSession st.execute := by
  cases st with
  | alter table what column => exact executeAlterChecked_eq table what column
  | insert table literals => exact executeInsertChecked_eq table literals
  | select table shown condition => exact executeSelectChecked_eq table shown condition
  | update table pairs condition => exact executeUpdateChecked_eq table pairs condition
  | delete table condition => exact executeDeleteChecked_eq table condition
  | join left right leftColumn rightColumn =>
    exact executeJoinChecked_eq left right leftColumn rightColumn
  | use | createDatabase | dropDatabase | createTable | dropTable => rfl

end Statement

namespace Session
variable {σ : Type} [Storage σ]

def executeChecked (text : String) : CheckedM σ Answer :=
  match Statement.ofTextChecked text with
  | .ok st => st.executeChecked
  | .error stop => throw stop

/-- Whatever storage is and holds, and whatever text it receives, a session with all checks ends as
one without them: with an answer or an error, never with a crash. -/
theorem executeChecked_never_crashes (s : Session σ) (text : String) :
    (executeChecked text s = match execute text s with
      | .ok a s' => .ok a s'
      | .error e s' => .error (.error e) s') ∧
    ∀ c s', executeChecked text s ≠ .error (.crash c) s' := by
  have heq : executeChecked text s = CheckedM.ofSession (execute text) s := by
    rw [executeChecked, Statement.ofTextChecked_eq, execute]
    cases Statement.ofText text with
    | error e => rfl
    | ok st =>
      change st.executeChecked s = _
      rw [st.executeChecked_eq]
      rfl
  rw [heq, CheckedM.ofSession]
  cases execute text s with
  | ok a s' => exact ⟨rfl, nofun⟩
  | error e s' => exact ⟨rfl, nofun⟩

end Session

end Tabular
