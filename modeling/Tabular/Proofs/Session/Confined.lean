import Tabular.Proofs.Session.Calls
import Tabular.Proofs.Storage.PlainNames

/-! Sessions hand plain names alone to their storage, so that over files they touch nothing but the
paths of such names. -/
namespace Tabular

instance : DecidablePred (IdMarks.Names IsPlainName) := fun marks =>
  decidable_of_iff (∀ t ∈ marks.keys, IsPlainName t) <| by
    constructor
    · intro h t n hn
      refine h t ?_
      rw [SortedMap.mem_keys_iff, SortedMap.contains, hn]
      rfl
    · intro h t ht
      rw [SortedMap.mem_keys_iff, SortedMap.contains] at ht
      obtain ⟨n, hn⟩ := Option.isSome_iff_exists.1 ht
      exact h t n hn

instance {α : Type} : DecidablePred fun q : Query α => q.Within IsPlainName
  | .databaseExists d | .listTables d | .loadIdMarks d => inferInstanceAs (Decidable (IsPlainName d))
  | .tableExists d t | .readTable d t =>
    inferInstanceAs (Decidable (IsPlainName d ∧ IsPlainName t))

instance : DecidablePred fun c : Change => c.Within IsPlainName
  | .createDatabase d | .deleteDatabase d => inferInstanceAs (Decidable (IsPlainName d))
  | .createTable d t _ | .writeTable d t _ | .deleteTable d t =>
    inferInstanceAs (Decidable (IsPlainName d ∧ IsPlainName t))
  | .saveIdMarks d marks => inferInstanceAs (Decidable (IsPlainName d ∧ marks.Names IsPlainName))

/-- What a storage might do that is handed other names than plain ones. -/
structure Stray where
  ask {α : Type} : Query α → FileTree → Except Error α
  change : Change → EStateM Error FileTree Unit

/-- Files that go astray where other names than plain ones are handed over. -/
structure Straying (stray : Stray) where
  tree : FileTree := {}

def Straying.ofFiles {stray : Stray} (x : EStateM Error FileTree Unit) :
    EStateM Error (Straying stray) Unit := fun s =>
  match x s.tree with
  | .ok _ tree => .ok () { tree }
  | .error e tree => .error e { tree }

instance {stray : Stray} : Storage (Straying stray) where
  ask q s := if q.Within IsPlainName then Storage.ask q s.tree else stray.ask q s.tree
  change c := Straying.ofFiles (if c.Within IsPlainName then Storage.change c else stray.change c)

/-- Files that hold nothing at other paths than those of plain names, and the same files, which might
go astray. -/
def Straying.Over {stray : Stray} (s : Straying stray) (tree : FileTree) : Prop :=
  s.tree = tree ∧ tree.Tidy

theorem Straying.echoes (stray : Stray) :
    Echoes IsPlainName (Straying.Over : Straying stray → FileTree → Prop) where
  ask {s tree} _ q h hq := by
    obtain ⟨rfl, -⟩ := h
    exact if_pos hq
  listed {s tree d tables} h hd hask := by
    obtain ⟨rfl, htidy⟩ := h
    have hsame : Storage.ask (.listTables d) s = Files.ask (.listTables d) s.tree := if_pos hd
    rw [hsame] at hask
    exact htidy.isPlainName_of_listed hask
  change {s tree} c h hc := by
    obtain ⟨rfl, htidy⟩ := h
    have hafter := htidy.changed hc
    have hsame : Storage.change c s = Straying.ofFiles (Files.change c) s :=
      congrArg (Straying.ofFiles · s) (if_pos hc)
    have hfiles : Storage.change c s.tree = Files.change c s.tree := rfl
    rw [hsame, hfiles, Straying.ofFiles]
    cases hrun : Files.change c s.tree with
    | ok _ tree => exact .ok trivial ⟨rfl, by rwa [hrun] at hafter⟩
    | error e tree => exact .error ⟨rfl, by rwa [hrun] at hafter⟩

/-- The names of databases and tables in a statement that is read are plain. -/
theorem Statement.names_plain_of_ofText {text : String} {st : Statement} (h : ofText text = .ok st) :
    st.Names IsPlainName IsPlainName := by
  have hnames := (proper_of_ofText h).names
  cases st with
  | join => exact ⟨hnames.1.isPlainName, hnames.2.isPlainName⟩
  | _ => exact IsName.isPlainName hnames

namespace Sharing

def fresh {σ : Type} (base : σ) : Sharing σ := ⟨fun _ => {}, { base }⟩

/-- Sessions over empty files, and sessions over the same that might go astray. -/
theorem paired_straying (stray : Stray) (actions : List (Nat × Action)) :
    Paired IsPlainName Straying.Over
      ((fresh ({} : Straying stray)).acts actions) ((fresh ({} : FileTree)).acts actions) := by
  refine Paired.acts (Straying.echoes stray) (fun k => ?_)
    (fun _ _ => Statement.names_plain_of_ofText) actions
  constructor
  · rfl
  · intro d hd
    cases hd
  · exact IdMarks.names_empty
  · exact ⟨rfl, rfl, FileTree.Tidy.empty⟩

open CommandLine Files in
/-- Sessions that start with no files below a directory hand plain names alone to storage: whatever
is answered and done where other names are handed over, they respond, remember and store the same.
What is handed plain names is answered from what stands at their paths, and changes nothing
elsewhere. The places of these paths, and of any other file next to them, such as a temporary one,
are found through the directory and then through the names alone; no two tables, and no table and
no id marks, have one place. -/
theorem confined_to_plain_paths (dir : String) :
    (∀ (stray : Stray) (actions : List (Nat × Action)) (k : Nat) (text : String),
      let s := ((fresh ({} : Straying stray)).acts actions).session k
      let t := ((fresh ({} : FileTree)).acts actions).session k
      (s.respond text).1 = (t.respond text).1 ∧ s.context = t.context ∧
        s.storage.base.tree = t.storage.base) ∧
    (∀ (α : Type) (q : Query α), q.Within IsPlainName → (∀ path ∈ q.paths, IsPlainPath path) ∧
      ∀ tree tree', tree.SameAt q.paths tree' → ask q tree = ask q tree') ∧
    (∀ c : Change, c.Within IsPlainName → (∀ path ∈ c.paths, IsPlainPath path) ∧
      StaysAt c.paths (change c)) ∧
    (∀ path, IsPlainPath path → ∀ name ∈ path, IsFileName name) ∧
    (∀ path : Path, (∀ name ∈ path, IsFileName name) →
      (place dir path).toList.splitOn '/' = dir.toList.splitOn '/' ++ path.map String.toList) ∧
    (∀ d t d' t', IsPlainName d → IsPlainName t → IsPlainName d' → IsPlainName t' →
      place dir (tablePath d t) = place dir (tablePath d' t') → d = d' ∧ t = t') ∧
    (∀ d t d', IsPlainName d → IsPlainName t → IsPlainName d' →
      place dir (tablePath d t) ≠ place dir (marksPath d')) := by
  refine ⟨?_, ?_, ?_, ?_, ?_, ?_, ?_⟩
  · intro stray actions k text
    have hpaired := paired_straying stray actions k
    refine ⟨?_, hpaired.context, hpaired.storage.2.1⟩
    exact (hpaired.respond (Straying.echoes stray).faulty
      fun _ => Statement.names_plain_of_ofText).1
  · exact fun α q hq => ⟨fun _ => Query.isPlainPath_of_mem_paths hq, fun _ _ => ask_congr q⟩
  · exact fun c hc => ⟨fun _ => Change.isPlainPath_of_mem_paths hc, staysAt_change c⟩
  · exact fun _ => IsPlainPath.isFileName
  · exact fun _ => splitOn_place dir
  · intro d t d' t' hd ht hd' ht' heq
    exact tablePath_inj.1 <|
      place_inj (IsPlainPath.table hd ht).isFileName (IsPlainPath.table hd' ht').isFileName heq
  · intro d t d' hd ht hd' heq
    exact marksPath_ne_tablePath d' d t <|
      (place_inj (IsPlainPath.table hd ht).isFileName (IsPlainPath.marks hd').isFileName heq).symm

end Sharing

end Tabular
