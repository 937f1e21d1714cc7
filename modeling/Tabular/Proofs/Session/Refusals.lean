import Tabular.Proofs.Session.Failures

/-! What a session over a memory with faults fails with, and what it leaves behind then. -/
namespace Tabular

/-- What a question to a memory with faults can be refused for. -/
def Query.complaints {α : Type} (q : Query α) : List Error :=
  .storage (.injected q.method) ::
    match q with
    | listTables d | loadIdMarks d => [.storage (.noDatabase d)]
    | databaseExists _ | tableExists _ _ | readTable _ _ => []

def Change.complaints (c : Change) : List Error :=
  .storage (.injected c.method) ::
    match c with
    | createDatabase d => [.storage (.databaseExists d)]
    | deleteDatabase d => [.storage (.noDatabase d), .storage (.databaseNotEmpty d)]
    | createTable d t _ => [.storage (.noDatabase d), .storage (.tableExists t)]
    | writeTable d t _ => [.storage (.noDatabase d), .schema (.noTable t)]
    | deleteTable d t => [.storage (.noDatabase d), .storage (.noTable t)]
    | saveIdMarks d _ => [.storage (.noDatabase d)]

namespace Memory
variable {m : Memory} {e : Error}

theorem mem_complaints_of_ask {α : Type} {q : Query α} (h : m.ask q = .error e) :
    e ∈ q.complaints := by
  cases q with
  | databaseExists | tableExists | readTable => cases h
  | listTables d | loadIdMarks d =>
    rw [ask, database] at h
    cases hd : m.databases.get? d with
    | some db => rw [hd] at h; cases h
    | none => rw [hd] at h; cases h; simp [Query.complaints]

/-- What works on a database is refused if that is missing, or by the work itself. -/
theorem eq_or_of_database_bind {α : Type} {d : String} {f : StoredDatabase → Except Error α}
    (h : (m.database d >>= f) = .error e) :
    e = .storage (.noDatabase d) ∨ ∃ db, f db = .error e := by
  unfold database at h
  cases hd : m.databases.get? d with
  | none => rw [hd] at h; cases h; exact .inl rfl
  | some db => rw [hd] at h; exact .inr ⟨db, h⟩

theorem mem_complaints_of_changed {c : Change} (h : m.changed c = .error e) :
    e ∈ c.complaints := by
  cases c with
  | createDatabase d =>
    rw [changed] at h
    split at h
    · cases h; simp [Change.complaints]
    · cases h
  | deleteDatabase d | createTable d t lines | writeTable d t lines | deleteTable d t =>
    rcases eq_or_of_database_bind h with rfl | ⟨db, h⟩
    · simp [Change.complaints]
    · split at h
      · cases h <;> simp [Change.complaints]
      · cases h <;> simp [Change.complaints]
  | saveIdMarks d marks => simp [error_of_saveIdMarks h, Change.complaints]

end Memory

namespace Session
variable {α β : Type}

/-- What a program fails with, and the session that it leaves then, satisfy `P`. -/
def Fails {σ : Type} (x : SessionM σ α) (s : Session σ) (P : Error → Session σ → Prop) : Prop :=
  ∀ e s', x s = .error e s' → P e s'

section Rules
variable {s : Session (Faulty Memory)} {P : Error → Session (Faulty Memory) → Prop}
  {f : α → SessionM (Faulty Memory) β}

theorem fails_pure {a : α} : Fails (pure a : SessionM (Faulty Memory) α) s P := by
  intro e s' h
  cases h

theorem fails_bind {x : SessionM (Faulty Memory) α} (hx : Fails x s P)
    (hf : ∀ a s', x s = .ok a s' → Fails (f a) s' P) : Fails (x >>= f) s P := by
  intro e s' h
  rw [SessionM.bind_apply] at h
  cases hr : x s with
  | error e₁ s₁ => rw [hr] at h; cases h; exact hx e s' hr
  | ok a s₁ => rw [hr] at h; exact hf a s₁ hr e s' h

theorem fails_refuse_bind {c : Prop} [Decidable c] {e : Error} {y : SessionM (Faulty Memory) β}
    (he : P e s) (hy : ¬c → Fails y s P) : Fails (if c then throw e >>= f else y) s P := by
  split
  · intro e' s' h
    cases h
    exact he
  · next h => exact hy h

theorem fails_requireDatabase_bind {f : String → SessionM (Faulty Memory) β}
    (he : P .noActiveDatabase s) (hf : ∀ d, s.context.database = some d → Fails (f d) s P) :
    Fails (requireDatabase >>= f) s P := by
  intro e s' h
  rw [SessionM.bind_apply, SessionM.requireDatabase_apply] at h
  cases hd : s.context.database with
  | none => rw [hd] at h; cases h; exact he
  | some d => rw [hd] at h; exact hf d hd e s' h

theorem fails_ask_bind {q : Query α} (he : ∀ e ∈ q.complaints, P e s)
    (hf : ∀ a, s.storage.base.ask q = .ok a → Fails (f a) s P) : Fails (ask q >>= f) s P := by
  intro e s' h
  rw [SessionM.bind_apply, SessionM.ask_apply, Faulty.ask_apply] at h
  by_cases hfault : s.storage.faults.any (·.hits q.method q.subject) = true
  · rw [if_pos hfault] at h
    cases h
    exact he _ (List.mem_cons_self ..)
  · rw [if_neg hfault] at h
    cases hm : Storage.ask q s.storage.base with
    | error e₁ => rw [hm] at h; cases h; exact he e (Memory.mem_complaints_of_ask hm)
    | ok a => rw [hm] at h; exact hf a hm e s' h

theorem fails_change {c : Change} (he : ∀ e ∈ c.complaints, P e s) : Fails (change c) s P := by
  intro e s' h
  obtain rfl := eq_of_change_error h
  rw [change, Faulty.change_apply, Memory.change_apply] at h
  by_cases hfault : s'.storage.faults.any (·.hits c.method c.subject) = true
  · rw [if_pos hfault] at h
    cases h
    exact he _ (List.mem_cons_self ..)
  · rw [if_neg hfault] at h
    cases hm : s'.storage.base.changed c with
    | error e₁ => rw [hm] at h; cases h; exact he e (Memory.mem_complaints_of_changed hm)
    | ok m => rw [hm] at h; cases h

/-- A change that a memory can make fails only by an injected fault. -/
theorem fails_change_of_possible {c : Change} (hc : c.Possible s.storage.base)
    (he : P (.storage (.injected c.method)) s) : Fails (change c) s P := by
  obtain ⟨m, hm⟩ := Memory.exists_changed hc
  intro e s' h
  obtain rfl := eq_of_change_error h
  rw [change, Faulty.change_apply, Memory.change_apply, hm] at h
  by_cases hfault : s'.storage.faults.any (·.hits c.method c.subject) = true
  · rw [if_pos hfault] at h
    cases h
    exact he
  · rw [if_neg hfault] at h
    cases h

/-- A change that is not refused is that of the memory. -/
theorem of_change_ok {c : Change} {u : Unit} {s' : Session (Faulty Memory)}
    (h : change c s = .ok u s') :
    ∃ m, s.storage.base.changed c = .ok m ∧
      s' = { s with storage := { s.storage with base := m } } := by
  rw [change, Faulty.change_apply, Memory.change_apply] at h
  by_cases hfault : s.storage.faults.any (·.hits c.method c.subject) = true
  · rw [if_pos hfault] at h
    cases h
  · rw [if_neg hfault] at h
    cases hm : s.storage.base.changed c with
    | error e => rw [hm] at h; cases h
    | ok m => rw [hm] at h; cases h; exact ⟨m, rfl, rfl⟩

theorem fails_change_bind {c : Change} {f : Unit → SessionM (Faulty Memory) β}
    (he : ∀ e ∈ c.complaints, P e s)
    (hf : ∀ m, s.storage.base.changed c = .ok m →
      Fails (f ()) { s with storage := { s.storage with base := m } } P) :
    Fails (change c >>= f) s P := by
  refine fails_bind (fails_change he) fun u s' h => ?_
  obtain ⟨m, hm, rfl⟩ := of_change_ok h
  exact hf m hm

end Rules

end Session

end Tabular
