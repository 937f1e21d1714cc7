import Tabular.Proofs.Session.Matching
import Tabular.Proofs.Statement.Writing

/-! Statements do not notice that the active database is reloaded, or that a new session has taken
the place of theirs. -/
namespace Tabular

/-- What happens to a session: it receives a text, or makes its active database active again,
perhaps as a new session over the same storage. -/
inductive Event where
  | text (text : String)
  | reload (restarted : Bool)
  deriving DecidableEq, Repr

def Event.isText : Event → Bool
  | text _ => true
  | reload _ => false

/-- What comes of a text: the response, the answer with the id that it may tell, and the lines of
all tables afterwards. -/
structure Outcome where
  response : String
  answer : Except Error Answer
  lines : String → String → Option (List String)

namespace Session

def reload (s : Session Memory) (restarted : Bool) : Session Memory :=
  match s.context.database with
  | none => s
  | some d =>
    let before : Session Memory := if restarted then ⟨{}, s.storage⟩ else s
    (before.respond (Statement.useText d)).2

def outcomes (s : Session Memory) : List Event → List Outcome
  | [] => []
  | .text text :: rest =>
    ⟨(s.respond text).1, s.answer text, (s.respond text).2.storage.lines?⟩ ::
      (s.respond text).2.outcomes rest
  | .reload restarted :: rest => (s.reload restarted).outcomes rest

variable {v v' : Session Memory}

theorem settled_empty : Settled ⟨{}, {}⟩ where
  regular := .empty
  wellStored := Memory.wellStored_empty
  covers := ⟨fun _ _ _ => rfl, fun _ _ _ h => (by cases h)⟩
  held := fun _ h => (by cases h)

theorem Settled.restarted (h : v.Settled) : Settled ⟨{}, v.storage⟩ where
  regular := ⟨fun _ hd => (by cases hd), h.regular.stored, IdMarks.names_empty⟩
  wellStored := h.wellStored
  covers := ⟨h.covers.gone, h.covers.stored⟩
  held := fun _ hd => (by cases hd)

theorem Alike.respond (h : v.Alike v') (text : String) :
    (v.respond text).1 = (v'.respond text).1 ∧ v.answer text = v'.answer text ∧
      (v.respond text).2.Alike (v'.respond text).2 := by
  have hmatch : Matched (execute text) v v' :=
    matched_ofExcept_bind fun st _ => Statement.matched_execute h st
  have hwrites : ∀ {s w : Session Memory} {a : Answer}, execute text s = .ok a w →
      ∃ st, Statement.ofText text = .ok st ∧ st.Effect s (.ok a) w := by
    intro s w a hrun
    rcases (does_execute text).of_ok hrun with ⟨e, he, -⟩ | heffect
    · cases he
    · exact heffect
  rw [Session.respond, Session.respond, answer, answer]
  cases hmatch with
  | refused he he' =>
    rw [he, he']
    split
    · exact ⟨rfl, rfl, h⟩
    · exact ⟨rfl, rfl, h⟩
  | done hgoes hgoes' =>
    obtain ⟨a, w, hrun⟩ := hgoes
    obtain ⟨a', w', hrun'⟩ := hgoes'
    obtain ⟨st, hst, heffect⟩ := hwrites hrun
    obtain ⟨_, hst', heffect'⟩ := hwrites hrun'
    cases hst.symm.trans hst'
    have proper := Statement.proper_of_ofText hst
    obtain ⟨rfl, hview⟩ := heffect.alike heffect' h
    have hafter : w.Alike w' :=
      ⟨heffect.settled proper h.left, heffect'.settled proper h.right, hview⟩
    rw [hrun, hrun']
    split
    · exact ⟨rfl, rfl, h⟩
    · exact ⟨rfl, rfl, hafter⟩

/-- A reload shows no difference. -/
theorem Settled.alike_reload (h : v.Settled) (restarted : Bool) : v.Alike (v.reload restarted) := by
  unfold reload
  split
  · exact ⟨h, h, rfl⟩
  · next d hd =>
    obtain ⟨marks, hm⟩ := Option.isSome_iff_exists.1 (h.regular.active d hd)
    have name : IsName d := h.regular.stored.databases d marks hm
    let before : Session Memory := if restarted then ⟨{}, v.storage⟩ else v
    have hbefore : before.Settled ∧ before.storage = v.storage := by
      cases restarted with
      | true => exact ⟨h.restarted, rfl⟩
      | false => exact ⟨h, rfl⟩
    rw [← hbefore.2] at hm
    obtain ⟨marks', hrun⟩ := Statement.executeUse_ok hm
    have hrespond := (answer_of_execute (Statement.ofText_useText name) hrun).2
    have heffect := (Statement.does_use d).of_ok hrun
    change v.Alike (before.respond (Statement.useText d)).2
    rw [hrespond]
    refine ⟨h, heffect.settled name hbefore.1, ?_⟩
    rw [hbefore.2, view_use, View.activate, ← hd]
    rfl

/-- Events bring the same outcomes without the reloads among them. -/
theorem Alike.outcomes_eq (h : v.Alike v') (events : List Event) :
    v.outcomes events = v'.outcomes (events.filter Event.isText) := by
  induction events generalizing v v' with
  | nil => rfl
  | cons event rest ih =>
    cases event with
    | text text =>
      obtain ⟨hresponse, hanswer, hafter⟩ := h.respond text
      have hlines : (v.respond text).2.storage.lines? = (v'.respond text).2.storage.lines? :=
        funext fun d => funext fun t => hafter.lines_eq d t
      have hkept : (Event.text text).isText = true := rfl
      rw [List.filter_cons_of_pos hkept, outcomes, outcomes, hresponse, hanswer, hlines,
        ih hafter]
    | reload restarted =>
      have hreload := h.left.alike_reload restarted
      have hleft : ¬(Event.reload restarted).isText = true := Bool.false_ne_true
      rw [List.filter_cons_of_neg hleft, outcomes]
      have hafter : (v.reload restarted).Alike v' :=
        ⟨hreload.right, h.right, hreload.view_eq.symm.trans h.view_eq⟩
      exact ih hafter

/-- From empty storage and without faults, texts bring the same responses, ids and tables with
reloads between them as without. -/
theorem reloads_invisible (events : List Event) :
    outcomes ⟨{}, {}⟩ events = outcomes ⟨{}, {}⟩ (events.filter Event.isText) :=
  Alike.outcomes_eq ⟨settled_empty, settled_empty, rfl⟩ events

end Session

end Tabular
