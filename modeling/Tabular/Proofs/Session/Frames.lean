import Tabular.Proofs.Session.MarkChanges

/-! What a statement leaves alone: all of storage but the table or the database that it is about,
and most of the context. -/
namespace Tabular

/-- A part of what is stored: some tables, the id marks of some databases, and whether some databases
are there at all. -/
structure Part where
  tables : String → String → Prop
  marks : String → Prop
  databases : String → Prop

namespace Part

def nothing : Part := ⟨fun _ _ => False, fun _ => False, fun _ => False⟩

def table (active : Option String) (t : String) : Part :=
  ⟨fun e u => active = some e ∧ u = t, fun _ => False, fun _ => False⟩

def tableAndMarks (active : Option String) (t : String) : Part :=
  ⟨fun e u => active = some e ∧ u = t, fun e => active = some e, fun _ => False⟩

def database (d : String) : Part := ⟨fun e _ => e = d, fun e => e = d, fun e => e = d⟩

end Part

namespace Memory

structure SameOff (p : Part) (m m' : Memory) : Prop where
  lines?_eq : ∀ d t, ¬p.tables d t → m'.lines? d t = m.lines? d t
  marks?_eq : ∀ d, ¬p.marks d → m'.marks? d = m.marks? d
  isSome_marks?_eq : ∀ d, ¬p.databases d → (m'.marks? d).isSome = (m.marks? d).isSome

variable {p : Part} {m m₁ m₂ : Memory} {d t : String} {lines : List String}

theorem SameOff.refl (p : Part) (m : Memory) : m.SameOff p m :=
  ⟨fun _ _ _ => rfl, fun _ _ => rfl, fun _ _ => rfl⟩

theorem SameOff.trans (h₁ : m.SameOff p m₁) (h₂ : m₁.SameOff p m₂) : m.SameOff p m₂ where
  lines?_eq d t h := (h₂.lines?_eq d t h).trans (h₁.lines?_eq d t h)
  marks?_eq d h := (h₂.marks?_eq d h).trans (h₁.marks?_eq d h)
  isSome_marks?_eq d h := (h₂.isSome_marks?_eq d h).trans (h₁.isSome_marks?_eq d h)

/-- Memories with the same lines and the same marks everywhere are equal. -/
theorem eq_of_views (hl : ∀ d t, m₁.lines? d t = m.lines? d t)
    (hm : ∀ d, m₁.marks? d = m.marks? d) : m₁ = m := by
  have hget : m₁.databases = m.databases := by
    refine SortedMap.ext fun d => ?_
    have hl := hl d
    have hm := hm d
    unfold lines? at hl
    unfold marks? at hm
    cases h₁ : m₁.databases.get? d with
    | none =>
      rw [h₁] at hm
      exact (Option.map_eq_none_iff.1 hm.symm).symm
    | some db₁ =>
      rw [h₁] at hm hl
      obtain ⟨db, h, hmarks⟩ := Option.map_eq_some_iff.1 hm.symm
      rw [h] at hl ⊢
      have htables : db₁.tables = db.tables := SortedMap.ext hl
      cases db₁
      cases db
      cases htables
      cases hmarks
      rfl
  cases m₁
  cases m
  cases hget
  rfl

theorem SameOff.eq (h : m.SameOff .nothing m₁) : m₁ = m :=
  eq_of_views (fun d t => h.lines?_eq d t id) fun d => h.marks?_eq d id

theorem SameOff.of_lines (hp : p.tables d t) {new : Option (List String)}
    (hm : ∀ e, m₁.marks? e = m.marks? e)
    (hl : ∀ e u, m₁.lines? e u = if e = d ∧ u = t then new else m.lines? e u) :
    m.SameOff p m₁ where
  lines?_eq e u h := by
    rw [hl, if_neg]
    rintro ⟨rfl, rfl⟩
    exact h hp
  marks?_eq e _ := hm e
  isSome_marks?_eq e _ := by rw [hm]

theorem SameOff.of_writeTable (hp : p.tables d t)
    (h : m.changed (.writeTable d t lines) = .ok m₁) : m.SameOff p m₁ :=
  .of_lines hp (Memory.of_writeTable h).2.1 (Memory.of_writeTable h).2.2

theorem SameOff.of_createTable (hp : p.tables d t)
    (h : m.changed (.createTable d t lines) = .ok m₁) : m.SameOff p m₁ :=
  .of_lines hp (Memory.of_createTable h).2.2.1 (Memory.of_createTable h).2.2.2

theorem SameOff.of_deleteTable (hp : p.tables d t)
    (h : m.changed (.deleteTable d t) = .ok m₁) : m.SameOff p m₁ :=
  .of_lines hp (Memory.of_deleteTable h).2.1 (Memory.of_deleteTable h).2.2

theorem SameOff.of_saveIdMarks {marks : IdMarks} (hp : p.marks d)
    (h : m.changed (.saveIdMarks d marks) = .ok m₁) : m.SameOff p m₁ := by
  obtain ⟨hthere, hmarks, hlines⟩ := Memory.of_saveIdMarks h
  refine ⟨fun e u _ => hlines e u, fun e he => ?_, fun e _ => ?_⟩
  · rw [hmarks, if_neg]
    rintro rfl
    exact he hp
  · rw [hmarks]
    split
    · next he => rw [he, hthere]; rfl
    · rfl

theorem SameOff.of_createDatabase (h : m.changed (.createDatabase d) = .ok m₁) :
    m.SameOff (.database d) m₁ := by
  obtain ⟨-, hmarks, hlines⟩ := Memory.of_createDatabase h
  have hoff : ∀ e, ¬e = d → m₁.marks? e = m.marks? e := fun e he => by rw [hmarks, if_neg he]
  exact ⟨fun e u _ => hlines e u, hoff, fun e he => congrArg _ (hoff e he)⟩

theorem SameOff.of_deleteDatabase (h : m.changed (.deleteDatabase d) = .ok m₁) :
    m.SameOff (.database d) m₁ := by
  obtain ⟨-, -, hmarks, hlines⟩ := Memory.of_deleteDatabase h
  have hoff : ∀ e, ¬e = d → m₁.marks? e = m.marks? e := fun e he => by rw [hmarks, if_neg he]
  exact ⟨fun e u _ => hlines e u, hoff, fun e he => congrArg _ (hoff e he)⟩

theorem Deleted.sameOff (h : m.Deleted d m₁) : m.SameOff (.database d) m₁ := by
  induction h with
  | none => exact .refl _ _
  | table _ h ih => exact ih.trans (.of_deleteTable (p := .database d) rfl h)

end Memory

namespace Session
variable {v w : Session Memory} {p : Part}

/-- Storing marks touches the marks of the active database alone. -/
theorem Marked.sameOff {marks : IdMarks} {r : Except Error Unit} (h : v.Marked marks r w)
    (hp : ∀ d, v.context.database = some d → p.marks d) : v.storage.SameOff p w.storage := by
  cases h with
  | unsaved => exact .refl _ _
  | saved hd hm => exact .of_saveIdMarks (hp _ hd) hm

theorem Forgot.sameOff {table : String} {r : Except Error Unit} (h : v.Forgot table r w)
    (hp : ∀ d, v.context.database = some d → p.marks d) : v.storage.SameOff p w.storage := by
  cases h with
  | unknown => exact .refl _ _
  | marked _ hm => exact hm.sameOff hp

end Session

namespace Statement

/-- The part of storage that a statement may change, which depends on the active database. -/
def part (active : Option String) : Statement → Part
  | use _ | select _ _ _ | join _ _ _ _ => .nothing
  | createDatabase d | dropDatabase d => .database d
  | createTable t _ | dropTable t | insert t _ => .tableAndMarks active t
  | alter t _ _ | update t _ _ | delete t _ => .table active t

def activeAfter (active : Option String) : Statement → Except Error Answer → Option String
  | use d, .ok _ => some d
  | dropDatabase d, .ok _ => if active = some d then none else active
  | _, _ => active

/-- A statement with such an outcome may change the marks that the session remembers. -/
def MayRemark (active : Option String) : Statement → Except Error Answer → Prop
  | use _, .ok _ | insert _ _, _ | createTable _ _, _ | dropTable _, _ => True
  | dropDatabase d, .ok _ => active = some d
  | _, _ => False

namespace Effect
open Session
variable {v w : Session Memory} {st : Statement} {r : Except Error Answer}

theorem sameOff (h : st.Effect v r w) :
    v.storage.SameOff (st.part v.context.database) w.storage := by
  cases h with
  | refused | use | select | join => exact .refl _ _
  | createDatabase hm => exact .of_createDatabase hm
  | dropTables hm => exact hm.sameOff
  | dropDatabase hm hm' => exact hm.sameOff.trans (.of_deleteDatabase hm')
  | createTable hd hm hw => exact .trans (.of_createTable ⟨hd, rfl⟩ hm) (hw.sameOff fun _ => id)
  | dropTable hd hm hw => exact .trans (.of_deleteTable ⟨hd, rfl⟩ hm) (hw.sameOff fun _ => id)
  | addColumn ht _ _ hm | dropColumn ht _ _ hm | update ht _ _ hm | delete ht _ hm =>
    exact .of_writeTable ⟨ht.1, rfl⟩ hm
  | burned _ hw => exact hw.sameOff fun _ => id
  | insert hi hw hm => exact .trans (hw.sameOff fun _ => id) (.of_writeTable ⟨hi.holds.1, rfl⟩ hm)

theorem database_eq (h : st.Effect v r w) :
    w.context.database = st.activeAfter v.context.database r := by
  cases h with
  | refused => cases st <;> rfl
  | dropDatabase =>
    rw [activeAfter]
    split <;> rfl
  | @createTable _ _ _ _ r _ _ _ hw | @dropTable _ _ _ r _ _ _ hw =>
    rw [hw.database_eq]
    cases r <;> rfl
  | burned _ hw | insert _ hw =>
    exact congrArg (·.database) hw.context_eq
  | _ => rfl

theorem marks_eq (h : st.Effect v r w) (hkeep : ¬st.MayRemark v.context.database r) :
    w.context.marks = v.context.marks := by
  cases h with
  | use | createTable | dropTable | burned | insert => exact (hkeep trivial).elim
  | dropDatabase =>
    have hother : ¬v.context.database = some _ := hkeep
    rw [if_neg hother]
  | _ => rfl

end Effect

/-- Whether it succeeds or fails, a statement changes no more of storage than the table or the
database that it is about, with the id marks where it hands ids out or makes or removes a table. -/
theorem changes_only_part (st : Statement) (v : Session Memory) :
    Does (st.execute : SessionM (Faulty Memory) Answer) v fun r w =>
      v.storage.SameOff (st.part v.context.database) w.storage ∧
      (st.part v.context.database = .nothing → w.storage = v.storage) ∧
      w.context.database = st.activeAfter v.context.database r ∧
      (¬st.MayRemark v.context.database r → w.context.marks = v.context.marks) :=
  does_mono (does_execute st) fun _ _ h =>
    ⟨h.sameOff, fun hp => (hp ▸ h.sameOff).eq, h.database_eq, h.marks_eq⟩

end Statement

namespace Session
variable {σ : Type} [Storage σ] [MemoryBacked σ]

/-- A table keeps its lines while no statement is about its database or about a table of its name,
whichever database is active. -/
theorem lines?_receive {d t : String} (s : Session σ) {texts : List String}
    (h : ∀ text ∈ texts, ∀ st active, Statement.ofText text = .ok st →
      ¬(st.part active).tables d t) :
    (s.receive texts).shown.storage.lines? d t = s.shown.storage.lines? d t := by
  induction texts generalizing s with
  | nil => rfl
  | cons text rest ih =>
    rw [receive_cons, ih _ fun text' h' => h text' (List.mem_cons_of_mem _ h')]
    rcases effect_respond s text with hkept | ⟨st, r, hst, heffect⟩
    · rw [hkept]
    · exact heffect.sameOff.lines?_eq d t (h text List.mem_cons_self st _ hst)

end Session

end Tabular
