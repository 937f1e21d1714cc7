import Tabular.Proofs.Session.Effect
import Tabular.Proofs.Statement.Reading

/-! Runs of sessions over storage with faults: statements, restarts, and changes of the faults. -/
namespace Tabular

/-- What happens to a session: its storage has other faults from now on, it receives a text,
or a new session over the same storage takes its place. -/
inductive Action where
  | inject (faults : List InjectedFault)
  | run (text : String)
  | restart
  deriving DecidableEq, Repr

namespace Session

def act {σ : Type} [Storage σ] (s : Session (Faulty σ)) : Action → Session (Faulty σ)
  | .inject faults => { s with storage.faults := faults }
  | .run text => (s.respond text).2
  | .restart => { s with context := {} }

def acts {σ : Type} [Storage σ] (s : Session (Faulty σ)) (actions : List Action) :
    Session (Faulty σ) :=
  actions.foldl act s

def receive {σ : Type} [Storage σ] (s : Session σ) (texts : List String) : Session σ :=
  texts.foldl (fun s text => (s.respond text).2) s

theorem receive_cons {σ : Type} [Storage σ] (s : Session σ) (text : String) (rest : List String) :
    s.receive (text :: rest) = (s.respond text).2.receive rest := by
  rw [receive, receive, List.foldl_cons]

def responses {σ : Type} [Storage σ] (s : Session σ) : List String → List String
  | [] => []
  | text :: rest => (s.respond text).1 :: (s.respond text).2.responses rest

/-- What an action can do to the session that is shown. -/
inductive Step (v : Session Memory) : Session Memory → Prop where
  | none : Step v v
  | restart : Step v ⟨{}, v.storage⟩
  | statement {st : Statement} {r : Except Error Answer} {w : Session Memory} (proper : st.Proper)
      (h : st.Effect v r w) : Step v w

variable {σ : Type} [Storage σ] [MemoryBacked σ] {v : Session Memory}

theorem does_execute (text : String) :
    Does (execute text : SessionM σ Answer) v fun r w =>
      (∃ e, r = .error e ∧ w = v) ∨ ∃ st, Statement.ofText text = .ok st ∧ st.Effect v r w :=
  does_ofExcept_bind (fun e => .inl ⟨e, rfl, rfl⟩) fun st hst =>
    does_mono (Statement.does_execute st) fun _ _ h => .inr ⟨st, hst, h⟩

def answer {σ : Type} [Storage σ] (s : Session σ) (text : String) : Except Error Answer :=
  match execute text s with
  | .ok a _ => .ok a
  | .error e _ => .error e

theorem respond_of_answer {σ : Type} [Storage σ] {s : Session σ} {text : String} {a : Answer}
    (h : s.answer text = .ok a) : execute text s = .ok a (s.respond text).2 := by
  unfold answer at h
  cases hr : execute text s with
  | error e s' => rw [hr] at h; cases h
  | ok b s' =>
    rw [hr] at h
    cases h
    have hne : ¬(Text.trim text).isEmpty = true := by
      intro hb
      rw [execute, Statement.ofText_of_blank hb] at hr
      cases hr
    rw [respond, if_neg hne, hr]

/-- A text leaves a session as it is, or writes a statement that has its effect. -/
theorem effect_respond (s : Session σ) (text : String) : (s.respond text).2.shown = s.shown ∨
    ∃ st r, Statement.ofText text = .ok st ∧ st.Effect s.shown r (s.respond text).2.shown := by
  have h := does_execute text s rfl
  have heffect : ∀ r w, ((∃ e, r = .error e ∧ w = s.shown) ∨
      ∃ st, Statement.ofText text = .ok st ∧ st.Effect s.shown r w) →
      w = s.shown ∨ ∃ st r, Statement.ofText text = .ok st ∧ st.Effect s.shown r w := by
    rintro r w (⟨e, -, rfl⟩ | ⟨st, hst, h⟩)
    · exact .inl rfl
    · exact .inr ⟨st, r, hst, h⟩
  unfold respond
  split
  · exact .inl rfl
  · cases hr : execute text s with
    | ok a s' => rw [hr] at h; exact heffect _ _ h
    | error e s' => rw [hr] at h; exact heffect _ _ h

theorem step_respond (s : Session σ) (text : String) : Step s.shown (s.respond text).2.shown := by
  rcases effect_respond s text with h | ⟨st, r, hst, h⟩
  · rw [h]
    exact .none
  · exact .statement (Statement.proper_of_ofText hst) h

theorem effect_of_answer {s : Session σ} {text : String} {a : Answer} (h : s.answer text = .ok a) :
    ∃ st, Statement.ofText text = .ok st ∧ st.Effect s.shown (.ok a) (s.respond text).2.shown := by
  have hd := does_execute text s rfl
  rw [respond_of_answer h] at hd
  rcases hd with ⟨e, he, -⟩ | hst
  · cases he
  · exact hst

theorem step_act (s : Session (Faulty σ)) (a : Action) : Step s.shown (s.act a).shown := by
  cases a with
  | inject faults => exact .none
  | run text => exact step_respond s text
  | restart => exact .restart

end Session

/-- Storage with faults, over which several sessions work, each with its own context. -/
structure Sharing (σ : Type) where
  contexts : Nat → Context := fun _ => {}
  storage : Faulty σ

namespace Sharing
variable {σ : Type}

def session (s : Sharing σ) (k : Nat) : Session (Faulty σ) := ⟨s.contexts k, s.storage⟩

/-- An action of one session leaves the contexts of the others. -/
def act [Storage σ] (s : Sharing σ) (a : Nat × Action) : Sharing σ :=
  let after := (s.session a.1).act a.2
  ⟨fun k => if k = a.1 then after.context else s.contexts k, after.storage⟩

def acts [Storage σ] (s : Sharing σ) (actions : List (Nat × Action)) : Sharing σ :=
  actions.foldl act s

end Sharing

end Tabular
