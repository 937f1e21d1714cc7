import Tabular.Proofs.Connection.Received
import Tabular.Proofs.Connection.Responses

/-! Replies on a connection: a client tells them apart unless a scan shows the end mark as a row. -/
namespace Tabular

namespace Session

def answers {σ : Type} [Storage σ] (s : Session σ) : List String → List (Except Error Answer)
  | [] => []
  | text :: rest => s.answer text :: (s.respond text).2.answers rest

/-- Tables are well stored, and all names are those that statements can give. -/
structure Orderly (v : Session Memory) : Prop where
  stored : v.storage.WellStored
  regular : v.Regular IsName IsName

theorem Step.orderly {v w : Session Memory} (h : v.Step w) (hv : v.Orderly) : w.Orderly :=
  ⟨h.wellStored hv.stored, h.regular hv.regular⟩

theorem orderly_acts {s : Session (Faulty Memory)} (hs : s.shown.Orderly) (actions : List Action) :
    (s.acts actions).shown.Orderly := by
  induction actions generalizing s with
  | nil => exact hs
  | cons a rest ih => exact ih ((step_act s a).orderly hs)

/-- No response to texts of one line has a line that is the end mark alone, exactly if no answer
shows it. -/
theorem forall_responses_iff {s : Session (Faulty Memory)} (hs : s.shown.Orderly)
    {texts : List String} (h : ∀ text ∈ texts, OneLine text) :
    (∀ r ∈ s.responses texts, [Connection.endMark] ∉ Connection.linesOf r) ↔
      ∀ a, .ok a ∈ s.answers texts → ¬a.ShowsMark := by
  induction texts generalizing s with
  | nil => exact iff_of_true nofun nofun
  | cons text rest ih =>
    obtain ⟨htext, hrest⟩ := List.forall_mem_cons.1 h
    have hfirst := mem_linesOf_respond hs.stored hs.regular htext
    rw [responses, answers, List.forall_mem_cons, hfirst, ih ((step_respond s text).orderly hs) hrest]
    constructor
    · rintro ⟨hquiet, hlater⟩ a hm
      rcases List.mem_cons.1 hm with he | hm
      · exact fun hshows => hquiet ⟨a, he.symm, hshows⟩
      · exact hlater a hm
    · intro hall
      refine ⟨?_, fun a hm => hall a (List.mem_cons_of_mem _ hm)⟩
      rintro ⟨a, he, hshows⟩
      exact hall a (he ▸ List.mem_cons_self ..) hshows

end Session

namespace Connection

/-- Over a session that starts from empty storage, the bytes sent back on a connection are one reply
for each line received. A client that cuts them at the lines that are the end mark alone finds the
responses, exactly if none has such a line; and that is so exactly if no scan shows the mark as a
row. -/
theorem cut_answer_eq_iff (faults : List InjectedFault) (actions : List Action)
    (bytes : List UInt8) :
    let s := Session.acts ⟨{}, { faults, base := ({} : Memory) }⟩ actions
    let texts := (pieces bytes).map statementOf
    (answer s bytes).1 = String.join ((s.responses texts).map reply) ∧
      (cut (answer s bytes).1 = s.responses texts ↔
        ∀ r ∈ s.responses texts, [endMark] ∉ linesOf r) ∧
      ((∀ r ∈ s.responses texts, [endMark] ∉ linesOf r) ↔
        ∀ a, .ok a ∈ s.answers texts → ¬a.ShowsMark) := by
  intro s texts
  let start : Session (Faulty Memory) := ⟨{}, { faults, base := {} }⟩
  have hstart : start.shown.Orderly := ⟨Memory.wellStored_empty, .empty⟩
  have hs : s.shown.Orderly := Session.orderly_acts hstart actions
  have htexts : ∀ text ∈ texts, OneLine text := by
    intro text hm
    obtain ⟨piece, hpiece, rfl⟩ := List.mem_map.1 hm
    exact lf_notMem_statementOf hpiece
  rw [answer_eq]
  exact ⟨rfl, cut_replies_eq_iff _, Session.forall_responses_iff hs htexts⟩

def bytesOf (text : String) : List UInt8 := text.toList.map fun c => c.toNat.toUInt8

/-- A cell that is the end mark, in the one column that a scan shows, ends the reply early. -/
theorem not_cut_answer_eq :
    let s : Session (Faulty Memory) := (answer ⟨{}, { base := {} }⟩ (bytesOf
      "CREATE DATABASE d;\nUSE d;\nCREATE TABLE t (a);\nINSERT INTO t VALUES ('\x04');\n")).2
    let bytes := bytesOf "SELECT a FROM t;\n"
    s.responses ((pieces bytes).map statementOf) = ["[OK]\na\n\x04"] ∧
      (answer s bytes).1 = "[OK]\na\n\x04\n\x04\n" ∧ cut (answer s bytes).1 = ["[OK]\na", ""] := by
  decide +kernel

end Connection

end Tabular
