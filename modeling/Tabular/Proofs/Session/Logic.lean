import Tabular.Proofs.Storage.View
import Tabular.Session.Execution
import Tabular.Storage.Faulty

/-! Rules for what a session does over storage whose operations may fail: an operation that fails
changes nothing, and one that does not fail does what it does to a memory. -/
namespace Tabular

/-- Storage that keeps a memory, up to operations that fail and then do nothing. -/
class MemoryBacked (σ : Type) [Storage σ] where
  memory : σ → Memory
  ask_ok {α : Type} {q : Query α} {s : σ} {a : α} : Storage.ask q s = .ok a →
    (memory s).ask q = .ok a
  change_ok {c : Change} {s s' : σ} {u : Unit} :
    Storage.change c s = .ok u s' → (memory s).changed c = .ok (memory s')
  change_error {c : Change} {s s' : σ} {e : Error} : Storage.change c s = .error e s' →
    memory s' = memory s ∧ ((∃ fault, e = .storage fault) ∨ (memory s).changed c = .error e)

theorem Memory.change_apply (c : Change) (m : Memory) :
    Storage.change c m = match m.changed c with
      | .ok m' => .ok () m'
      | .error e => .error e m := rfl

section Faults
variable {σ : Type} [Storage σ] (s : Faulty σ)

theorem Faulty.ask_apply {α : Type} (q : Query α) :
    Storage.ask q s =
      if s.faults.any (·.hits q.method q.subject) then .error (.storage (.injected q.method))
      else Storage.ask q s.base := rfl

theorem Faulty.change_apply (c : Change) :
    Storage.change c s =
      if s.faults.any (·.hits c.method c.subject) then .error (.storage (.injected c.method)) s
      else match Storage.change c s.base with
        | .ok _ base => .ok () { s with base }
        | .error e base => .error e { s with base } := by
  change (if _ then _ else _ : EStateM.Result Error (Faulty σ) Unit) = _
  rfl

end Faults

instance : MemoryBacked Memory where
  memory := id
  ask_ok h := h
  change_ok {c s s' u} h := by
    rw [Memory.change_apply] at h
    cases hc : s.changed c with
    | error e => rw [hc] at h; cases h
    | ok m => rw [hc] at h; cases h; exact hc
  change_error {c s s' e} h := by
    rw [Memory.change_apply] at h
    cases hc : s.changed c with
    | error e => rw [hc] at h; cases h; exact ⟨rfl, .inr hc⟩
    | ok m => rw [hc] at h; cases h

instance {σ : Type} [Storage σ] [MemoryBacked σ] : MemoryBacked (Faulty σ) where
  memory s := MemoryBacked.memory s.base
  ask_ok {α q s a} h := by
    rw [Faulty.ask_apply] at h
    split at h
    · cases h
    · exact MemoryBacked.ask_ok h
  change_ok {c s s' u} h := by
    rw [Faulty.change_apply] at h
    split at h
    · cases h
    · cases hc : Storage.change c s.base with
      | error e base => rw [hc] at h; cases h
      | ok u base => rw [hc] at h; cases h; exact MemoryBacked.change_ok hc
  change_error {c s s' e} h := by
    rw [Faulty.change_apply] at h
    split at h
    · cases h; exact ⟨rfl, .inl ⟨_, rfl⟩⟩
    · cases hc : Storage.change c s.base with
      | error e base => rw [hc] at h; cases h; exact MemoryBacked.change_error hc
      | ok u base => rw [hc] at h; cases h

namespace SessionM
variable {σ α β : Type}

theorem bind_apply (x : SessionM σ α) (f : α → SessionM σ β) (s : Session σ) :
    (x >>= f) s = match x s with
      | .ok a s' => f a s'
      | .error e s' => .error e s' := by
  change EStateM.bind x f s = _
  rw [EStateM.bind]
  cases x s <;> rfl

theorem tryCatch_apply (x : SessionM σ α) (handle : Error → SessionM σ α) (s : Session σ) :
    (tryCatch x handle) s = match x s with
      | .ok a s' => .ok a s'
      | .error e s' => handle e s' := by
  change EStateM.tryCatch x handle s = _
  rw [EStateM.tryCatch]
  cases x s <;> rfl

theorem ofExcept_apply (x : Except Error α) (s : Session σ) :
    (ofExcept x : SessionM σ α) s = match x with
      | .ok a => .ok a s
      | .error e => .error e s := by
  cases x <;> rfl

theorem ask_apply [Storage σ] (q : Query α) (s : Session σ) :
    Session.ask q s = match Storage.ask q s.storage with
      | .ok a => .ok a s
      | .error e => .error e s :=
  ofExcept_apply _ s

theorem requireDatabase_apply (s : Session σ) :
    Session.requireDatabase s = match s.context.database with
      | some d => .ok d s
      | none => .error .noActiveDatabase s := by
  change (match s.context.database with
    | some d => pure d
    | none => throw Error.noActiveDatabase : SessionM σ String) s = _
  cases s.context.database <;> rfl

section Outcomes
variable {s s' : Session σ}

theorem bind_eq_ok {x : SessionM σ α} {f : α → SessionM σ β} {b : β} :
    (x >>= f) s = .ok b s' ↔ ∃ a s₁, x s = .ok a s₁ ∧ f a s₁ = .ok b s' := by
  rw [bind_apply]
  cases x s with
  | error e s₁ => exact ⟨nofun, fun ⟨_, _, hx, _⟩ => nomatch hx⟩
  | ok a s₁ =>
    refine ⟨fun h => ⟨a, s₁, rfl, h⟩, ?_⟩
    intro hrun
    obtain ⟨_, _, hx, h⟩ := hrun
    cases hx
    exact h

theorem pure_eq_ok {a b : α} : (pure a : SessionM σ α) s = .ok b s' ↔ a = b ∧ s = s' := by
  constructor
  · intro h
    cases h
    exact ⟨rfl, rfl⟩
  · intro h
    obtain ⟨rfl, rfl⟩ := h
    rfl

theorem refuse_eq_ok {c : Prop} [Decidable c] {e : Error} {f : α → SessionM σ β}
    {y : SessionM σ β} {b : β} :
    (if c then throw e >>= f else y) s = .ok b s' ↔ ¬c ∧ y s = .ok b s' := by
  split
  · next hc => exact ⟨nofun, fun h => absurd hc h.1⟩
  · next hc => exact ⟨fun h => ⟨hc, h⟩, And.right⟩

theorem ofExcept_eq_ok {x : Except Error α} {a : α} :
    (ofExcept x : SessionM σ α) s = .ok a s' ↔ x = .ok a ∧ s = s' := by
  rw [ofExcept_apply]
  cases x with
  | error e => exact ⟨nofun, fun h => nomatch h.1⟩
  | ok b =>
    constructor
    · intro h
      cases h
      exact ⟨rfl, rfl⟩
    · intro h
      obtain ⟨hx, rfl⟩ := h
      cases hx
      rfl

theorem requireDatabase_eq_ok {d : String} :
    Session.requireDatabase s = .ok d s' ↔ s.context.database = some d ∧ s = s' := by
  rw [requireDatabase_apply]
  cases s.context.database with
  | none => exact ⟨nofun, fun h => nomatch h.1⟩
  | some d' =>
    constructor
    · intro h
      cases h
      exact ⟨rfl, rfl⟩
    · intro h
      obtain ⟨hd, rfl⟩ := h
      cases hd
      rfl

theorem nextId_eq_ok {table : String} {t : Table} {id : UInt64} :
    Session.nextId table t s = .ok id s' ↔ s.context.nextId table t = .ok id ∧ s = s' :=
  ofExcept_eq_ok

end Outcomes

end SessionM

section Rules
variable {σ α β : Type} [Storage σ] [MemoryBacked σ]

/-- The session over the memory that a session's storage keeps. -/
def Session.shown (s : Session σ) : Session Memory := ⟨s.context, MemoryBacked.memory s.storage⟩

theorem Session.shown_eq (s : Session Memory) : s.shown = s := rfl

/-- From every session that shows `v`, the result and the session that is shown then satisfy `Q`. -/
def Does (x : SessionM σ α) (v : Session Memory)
    (Q : Except Error α → Session Memory → Prop) : Prop :=
  ∀ s : Session σ, s.shown = v →
    match x s with
    | .ok a s' => Q (.ok a) s'.shown
    | .error e s' => Q (.error e) s'.shown

variable {v : Session Memory} {Q : Except Error α → Session Memory → Prop}
  {R : Except Error β → Session Memory → Prop} {x : SessionM σ α} {f : α → SessionM σ β}

theorem does_pure {a : α} (h : Q (.ok a) v) : Does (pure a : SessionM σ α) v Q := by
  rintro s rfl
  exact h

theorem does_throw {e : Error} (h : Q (.error e) v) : Does (throw e : SessionM σ α) v Q := by
  rintro s rfl
  exact h

theorem Does.of_ok {x : SessionM Memory α} (hx : Does x v Q) {a : α} {w : Session Memory}
    (h : x v = .ok a w) : Q (.ok a) w := by
  have hrun := hx v rfl
  rw [h] at hrun
  exact hrun

theorem does_mono (hx : Does x v Q) {P : Except Error α → Session Memory → Prop}
    (h : ∀ r w, Q r w → P r w) : Does x v P := by
  intro s hs
  have hx := hx s hs
  cases hr : x s with
  | ok a s' => rw [hr] at hx; exact h _ _ hx
  | error e s' => rw [hr] at hx; exact h _ _ hx

theorem does_bind (hx : Does x v Q) (he : ∀ e w, Q (.error e) w → R (.error e) w)
    (hf : ∀ a w, Q (.ok a) w → Does (f a) w R) : Does (x >>= f) v R := by
  intro s hs
  have hx := hx s hs
  rw [SessionM.bind_apply]
  cases h : x s with
  | ok a s' => rw [h] at hx; exact hf a s'.shown hx s' rfl
  | error e s' => rw [h] at hx; exact he e s'.shown hx

theorem does_tryCatch {handle : Error → SessionM σ α} {P : Except Error α → Session Memory → Prop}
    (hx : Does x v P) (hok : ∀ a w, P (.ok a) w → Q (.ok a) w)
    (he : ∀ e w, P (.error e) w → Does (handle e) w Q) : Does (tryCatch x handle) v Q := by
  intro s hs
  have hx := hx s hs
  rw [SessionM.tryCatch_apply]
  cases h : x s with
  | ok a s' => rw [h] at hx; exact hok a s'.shown hx
  | error e s' => rw [h] at hx; exact he e s'.shown hx s' rfl

theorem does_modify_bind {g : Session σ → Session σ} {f : Unit → SessionM σ α} {w : Session Memory}
    (hg : ∀ s, s.shown = v → (g s).shown = w) (h : Does (f ()) w Q) : Does (modify g >>= f) v Q :=
  fun s hs => h (g s) (hg s hs)

theorem does_setContext_bind {c : Context} {f : Unit → SessionM σ α}
    (h : Does (f ()) ⟨c, v.storage⟩ Q) : Does (Session.setContext c >>= f) v Q :=
  does_modify_bind (fun _ hs => by subst hs; rfl) h

theorem does_get_bind {f : Session σ → SessionM σ α}
    (hf : ∀ s : Session σ, s.shown = v → Does (f s) v Q) : Does (get >>= f) v Q :=
  fun s hs => hf s hs s hs

theorem does_throw_bind {e : Error} {f : β → SessionM σ α} (h : Q (.error e) v) :
    Does (throw e >>= f) v Q := by
  rintro s rfl
  exact h

theorem does_refuse_bind {c : Prop} [Decidable c] {e : Error} {f : β → SessionM σ α}
    {y : SessionM σ α} (he : Q (.error e) v) (hy : ¬c → Does y v Q) :
    Does (if c then throw e >>= f else y) v Q := by
  split
  · exact does_throw_bind he
  · next h => exact hy h

theorem does_ofExcept_bind {x : Except Error β} {f : β → SessionM σ α} (he : ∀ e, Q (.error e) v)
    (hf : ∀ b, x = .ok b → Does (f b) v Q) : Does (ofExcept x >>= f) v Q := by
  cases x with
  | error e => exact does_throw_bind (he e)
  | ok b => exact fun s hs => hf b rfl s hs

/-- An answer is that of the memory. -/
theorem does_ask_bind {q : Query β} {f : β → SessionM σ α} (he : ∀ e, Q (.error e) v)
    (hf : ∀ b, v.storage.ask q = .ok b → Does (f b) v Q) : Does (Session.ask q >>= f) v Q := by
  rintro s rfl
  rw [SessionM.bind_apply, SessionM.ask_apply]
  cases h : Storage.ask q s.storage with
  | error e => exact he e
  | ok b => exact hf b (MemoryBacked.ask_ok h) s rfl

/-- A change is that of the memory, or none. -/
theorem does_change {c : Change} {Q : Except Error Unit → Session Memory → Prop}
    (he : ∀ e, (∃ fault, e = .storage fault) ∨ v.storage.changed c = .error e → Q (.error e) v)
    (hok : ∀ m, v.storage.changed c = .ok m → Q (.ok ()) { v with storage := m }) :
    Does (Session.change c : SessionM σ Unit) v Q := by
  rintro s rfl
  rw [Session.change]
  cases h : Storage.change c s.storage with
  | error e t =>
    obtain ⟨hm, he'⟩ := MemoryBacked.change_error h
    have := he e he'
    rwa [Session.shown, ← hm] at this
  | ok u t => exact hok _ (MemoryBacked.change_ok h)

theorem does_change_bind {c : Change} {f : Unit → SessionM σ α}
    (he : ∀ e, (∃ fault, e = .storage fault) ∨ v.storage.changed c = .error e → Q (.error e) v)
    (hf : ∀ m, v.storage.changed c = .ok m → Does (f ()) { v with storage := m } Q) :
    Does (Session.change c >>= f) v Q :=
  does_bind (Q := fun r w => match r with
      | .ok () => ∃ m, v.storage.changed c = .ok m ∧ w = { v with storage := m }
      | .error e => w = v ∧ Q (.error e) v)
    (does_change (fun e h => ⟨rfl, he e h⟩) fun m h => ⟨m, h, rfl⟩)
    (fun _ _ h => h.1 ▸ h.2)
    fun _ _ ⟨m, h, hw⟩ => hw ▸ hf m h

theorem does_requireDatabase_bind {f : String → SessionM σ α}
    (he : v.context.database = none → Q (.error .noActiveDatabase) v)
    (hf : ∀ d, v.context.database = some d → Does (f d) v Q) :
    Does (Session.requireDatabase >>= f) v Q := by
  rintro s rfl
  rw [SessionM.bind_apply, SessionM.requireDatabase_apply]
  cases h : s.context.database with
  | none => exact he h
  | some d => exact hf d h s rfl

theorem does_nextId_bind {table : String} {t : Table} {f : UInt64 → SessionM σ α}
    (he : ∀ e, Q (.error e) v) (hf : ∀ id, v.context.nextId table t = .ok id → Does (f id) v Q) :
    Does (Session.nextId table t >>= f) v Q := by
  rw [Session.nextId, bind_assoc]
  refine does_get_bind fun s hs => does_ofExcept_bind he fun id hid => hf id ?_
  rwa [show s.context = v.context from congrArg (·.context) hs] at hid

end Rules

end Tabular
