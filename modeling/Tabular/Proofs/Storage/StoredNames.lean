import Tabular.Proofs.Storage.View

/-! The names that a memory holds, of databases and of tables, those that a change brings in, and all
that a question or a change hands over. -/
namespace Tabular

def IdMarks.Names (Q : String → Prop) (marks : IdMarks) : Prop := ∀ t n, marks.get? t = some n → Q t

/-- All databases, tables and marked tables of a memory are such as those of `P` and `Q`. -/
structure Memory.Names (P Q : String → Prop) (m : Memory) : Prop where
  databases : ∀ d marks, m.marks? d = some marks → P d
  tables : ∀ d t lines, m.lines? d t = some lines → Q t
  marks : ∀ d marks, m.marks? d = some marks → marks.Names Q

def Change.Names (P Q : String → Prop) : Change → Prop
  | createDatabase d => P d
  | createTable _ t _ => Q t
  | saveIdMarks _ marks => marks.Names Q
  | deleteDatabase _ | writeTable _ _ _ | deleteTable _ _ => True

def Query.Within {α : Type} (P : String → Prop) : Query α → Prop
  | databaseExists d | listTables d | loadIdMarks d => P d
  | tableExists d t | readTable d t => P d ∧ P t

def Change.Within (P : String → Prop) : Change → Prop
  | createDatabase d | deleteDatabase d => P d
  | createTable d t _ | writeTable d t _ | deleteTable d t => P d ∧ P t
  | saveIdMarks d marks => P d ∧ marks.Names P

section Names
variable {P Q : String → Prop}

theorem IdMarks.names_empty : IdMarks.Names Q ∅ := by
  intro t n h
  cases h

theorem IdMarks.Names.insert {marks : IdMarks} (h : marks.Names Q) {t : String} (ht : Q t)
    (n : UInt64) : IdMarks.Names Q (SortedMap.insert marks t n) := by
  intro u k hu
  rw [SortedMap.get?_insert] at hu
  split at hu
  · next he => exact he ▸ ht
  · exact h u k hu

theorem IdMarks.Names.erase {marks : IdMarks} (h : marks.Names Q) (t : String) :
    IdMarks.Names Q (SortedMap.erase marks t) := by
  intro u k hu
  rw [SortedMap.get?_erase] at hu
  split at hu
  · cases hu
  · exact h u k hu

theorem Memory.names_empty : ({} : Memory).Names P Q :=
  ⟨fun _ _ h => (by cases h), fun _ _ _ h => (by cases h), fun _ _ h => (by cases h)⟩

/-- Names stay such if what is shown is old, or brings in such names. -/
theorem Memory.Names.of_shown {m m' : Memory} (h : m.Names P Q)
    (hm : ∀ d marks, m'.marks? d = some marks → m.marks? d = some marks ∨ P d ∧ marks.Names Q)
    (hl : ∀ d t lines, m'.lines? d t = some lines → (m.lines? d t).isSome = true ∨ Q t) :
    m'.Names P Q where
  databases d marks hd := (hm d marks hd).elim (h.databases d marks) (·.1)
  tables d t lines ht := (hl d t lines ht).elim
    (fun hs => (Option.isSome_iff_exists.1 hs).elim (h.tables d t)) id
  marks d marks hd := (hm d marks hd).elim (h.marks d marks) (·.2)

/-- A change brings in no other names. -/
theorem Memory.Names.changed {m m' : Memory} (h : m.Names P Q) {c : Change}
    (hm : m.changed c = .ok m') (hc : c.Names P Q) : m'.Names P Q := by
  cases c with
  | createDatabase d =>
    obtain ⟨-, hmarks, hlines⟩ := of_createDatabase hm
    refine h.of_shown (fun e marks he => ?_) fun e u lines hu => .inl (by rw [← hlines, hu]; rfl)
    rw [hmarks] at he
    split at he
    · next hd => cases he; exact .inr ⟨hd ▸ hc, IdMarks.names_empty⟩
    · exact .inl he
  | deleteDatabase d =>
    obtain ⟨-, -, hmarks, hlines⟩ := of_deleteDatabase hm
    refine h.of_shown (fun e marks he => ?_) fun e u lines hu => .inl (by rw [← hlines, hu]; rfl)
    rw [hmarks] at he
    split at he
    · cases he
    · exact .inl he
  | createTable d t lines =>
    obtain ⟨-, -, hmarks, hlines⟩ := of_createTable hm
    refine h.of_shown (fun e marks he => .inl (hmarks e ▸ he)) fun e u lines hu => ?_
    rw [hlines] at hu
    split at hu
    · next hd => exact .inr (hd.2 ▸ hc)
    · exact .inl (by rw [hu]; rfl)
  | writeTable d t lines =>
    obtain ⟨hold, hmarks, hlines⟩ := of_writeTable hm
    refine h.of_shown (fun e marks he => .inl (hmarks e ▸ he)) fun e u lines hu => .inl ?_
    rw [hlines] at hu
    split at hu
    · next hd => rw [hd.1, hd.2]; exact hold
    · rw [hu]; rfl
  | deleteTable d t =>
    obtain ⟨-, hmarks, hlines⟩ := of_deleteTable hm
    refine h.of_shown (fun e marks he => .inl (hmarks e ▸ he)) fun e u lines hu => .inl ?_
    rw [hlines] at hu
    split at hu
    · cases hu
    · rw [hu]; rfl
  | saveIdMarks d marks =>
    obtain ⟨hold, hmarks, hlines⟩ := of_saveIdMarks hm
    refine h.of_shown (fun e marks he => ?_) fun e u lines hu => .inl (by rw [← hlines, hu]; rfl)
    rw [hmarks] at he
    split at he
    · next hd =>
      cases he
      obtain ⟨old, hold⟩ := Option.isSome_iff_exists.1 hold
      exact .inr ⟨hd ▸ h.databases d old hold, hc⟩
    · exact .inl he

end Names

end Tabular
