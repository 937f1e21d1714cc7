import Mathlib.Data.List.Infix
import Tabular.Proofs.Session.FileStatements

/-! Sessions over files respond as sessions over memory do, and keep the files of the memory. -/
namespace Tabular
open Files

theorem IsName.ne_empty {s : String} (h : IsName s) : s ≠ "" := by
  rintro rfl
  rcases h with h | ⟨h, -⟩
  · exact absurd h (by decide)
  · exact absurd h (by decide)

/-- The databases and the tables that a text names have short enough names for directories and
files. -/
def ShortNames (text : String) : Prop :=
  match Statement.ofText text with
  | .ok st => st.Names (fun d => (Text.Utf8.encode d).length ≤ 255) fun t =>
      (Text.Utf8.encode t).length ≤ 251
  | .error _ => True

instance {P Q : String → Prop} [DecidablePred P] [DecidablePred Q] (st : Statement) :
    Decidable (st.Names P Q) :=
  match st with
  | .use d | .createDatabase d | .dropDatabase d => inferInstanceAs (Decidable (P d))
  | .createTable t _ | .dropTable t | .alter t _ _ | .insert t _ | .select t _ _ | .update t _ _
      | .delete t _ =>
    inferInstanceAs (Decidable (Q t))
  | .join l r _ _ => inferInstanceAs (Decidable (Q l ∧ Q r))

instance (text : String) : Decidable (ShortNames text) :=
  match h : Statement.ofText text with
  | .ok st => decidable_of_iff (st.Names (fun d => (Text.Utf8.encode d).length ≤ 255)
      fun t => (Text.Utf8.encode t).length ≤ 251) (by rw [ShortNames, h])
  | .error _ => .isTrue (by rw [ShortNames, h]; trivial)

theorem ShortNames.names {text : String} (h : ShortNames text) {st : Statement}
    (hst : Statement.ofText text = .ok st) : st.Names FitsDatabase FitsTable := by
  rw [ShortNames, hst] at h
  have proper := (Statement.proper_of_ofText hst).names
  cases st with
  | use | createDatabase | dropDatabase => exact h
  | join => exact ⟨⟨proper.1.ne_empty, h.1⟩, ⟨proper.2.ne_empty, h.2⟩⟩
  | _ => exact ⟨proper.ne_empty, h⟩

namespace Session
variable {s : Session FileTree} {v : Session Memory}

theorem agrees_execute {text : String} (hv : v.Bounded)
    (hcount : v.context.marks.entries.length < 2 ^ 63) (h : ShortNames text) :
    Agrees (execute text) (execute text) v := by
  apply agrees_ofExcept_bind
  intro st hst
  exact Statement.agrees_execute hv hcount (h.names hst)

theorem Bounded.respond {text : String} (hv : v.Bounded) (h : ShortNames text) :
    (v.respond text).2.Bounded := by
  rcases effect_respond v text with hsame | ⟨st, r, hst, heffect⟩
  · rw [shown_eq, shown_eq] at hsame
    rwa [hsame]
  · rw [shown_eq, shown_eq] at heffect
    constructor
    · exact heffect.regular (h.names hst) hv.regular
    · exact heffect.wellStored (Statement.proper_of_ofText hst) hv.wellStored

theorem Mirrors.respond {text : String} (hs : s.Mirrors v) (hv : v.Bounded)
    (hcount : v.context.marks.entries.length < 2 ^ 63) (h : ShortNames text) :
    (s.respond text).1 = (v.respond text).1 ∧ (s.respond text).2.Mirrors (v.respond text).2 := by
  have hmatch := agrees_execute hv hcount h s hs
  rw [Session.respond, Session.respond]
  split
  · exact ⟨rfl, hs⟩
  · generalize execute text s = r, execute text v = r' at hmatch
    cases hmatch with
    | ok h => exact ⟨rfl, h⟩
    | error h => exact ⟨rfl, h⟩

theorem Mirrors.responses {texts : List String} (hs : s.Mirrors v) (hv : v.Bounded)
    (hcount : ∀ before, before <+: texts → (v.receive before).context.marks.entries.length < 2 ^ 63)
    (h : ∀ text ∈ texts, ShortNames text) :
    s.responses texts = v.responses texts ∧ (s.receive texts).Mirrors (v.receive texts) := by
  induction texts generalizing s v with
  | nil => exact ⟨rfl, hs⟩
  | cons text rest ih =>
    have hshort := h text (by simp)
    have hcount₀ : v.context.marks.entries.length < 2 ^ 63 := hcount [] List.nil_prefix
    have hcount₁ : ∀ before, before <+: rest →
        ((v.respond text).2.receive before).context.marks.entries.length < 2 ^ 63 := by
      intro before hbefore
      rw [← receive_cons]
      exact hcount (text :: before) (List.cons_prefix_cons.2 ⟨rfl, hbefore⟩)
    obtain ⟨hresponse, hafter⟩ := hs.respond hv hcount₀ hshort
    obtain ⟨hrest, hend⟩ := ih hafter (hv.respond hshort) hcount₁ fun t ht => h t (by simp [ht])
    rw [receive_cons, receive_cons, Session.responses, Session.responses, hresponse, hrest]
    exact ⟨rfl, hend⟩

/-- From empty storage, files give the responses of memory to all texts, and after each of them
they are the files of the memory. No collection is so large that `2 ^ 63` ids can be remembered at
once. -/
theorem files_refine_memory (texts : List String) (h : ∀ text ∈ texts, ShortNames text)
    (hcount : ∀ before, before <+: texts →
      (receive ⟨{}, ({} : Memory)⟩ before).context.marks.entries.length < 2 ^ 63) :
    responses ⟨{}, ({} : FileTree)⟩ texts = responses ⟨{}, ({} : Memory)⟩ texts ∧
      ∀ before, before <+: texts →
        Image (receive ⟨{}, ({} : FileTree)⟩ before).storage
          (receive ⟨{}, ({} : Memory)⟩ before).storage := by
  have hempty : Mirrors ⟨{}, {}⟩ ⟨{}, {}⟩ := ⟨rfl, image_empty⟩
  have hbounded : Bounded ⟨{}, {}⟩ := ⟨Regular.empty, Memory.wellStored_empty⟩
  constructor
  · exact (hempty.responses hbounded hcount h).1
  · intro before hbefore
    have hcount' : ∀ earlier, earlier <+: before →
        (receive ⟨{}, ({} : Memory)⟩ earlier).context.marks.entries.length < 2 ^ 63 :=
      fun earlier hearlier => hcount earlier (hearlier.trans hbefore)
    have hshort : ∀ text ∈ before, ShortNames text := fun text ht => h text (hbefore.subset ht)
    exact (hempty.responses hbounded hcount' hshort).2.image

/-- A row that is added and a table that is not there, over files as over memory. -/
theorem files_refine_memory_two_tables :
    responses ⟨{}, ({} : FileTree)⟩ ["CREATE DATABASE d;", "USE d;", "CREATE TABLE t;",
        "INSERT INTO t VALUES ('x');", "SELECT * FROM t;", "SELECT * FROM u;"] =
      responses ⟨{}, ({} : Memory)⟩ ["CREATE DATABASE d;", "USE d;", "CREATE TABLE t;",
        "INSERT INTO t VALUES ('x');", "SELECT * FROM t;", "SELECT * FROM u;"] := by
  let texts := ["CREATE DATABASE d;", "USE d;", "CREATE TABLE t;", "INSERT INTO t VALUES ('x');",
    "SELECT * FROM t;", "SELECT * FROM u;"]
  have hcount : ∀ before ∈ texts.inits,
      (receive ⟨{}, ({} : Memory)⟩ before).context.marks.entries.length < 2 ^ 63 := by
    decide +kernel
  exact (files_refine_memory texts (by decide +kernel) fun before hb =>
    hcount before ((List.mem_inits _ _).2 hb)).1

end Session

end Tabular
