import Tabular.Console
import Tabular.Proofs.Token.Breaks
import Tabular.Storage.Memory
import Tabular.Text.Utf8.RoundTrip

/-! A statement typed on several lines of the console has the response that its lines have as one
text. -/
namespace Tabular

section Lines
open Console

/-- What is typed after some lines, none of which completes a statement. -/
def Console.typedAfter (typed : String) (lines : List String) : String :=
  lines.foldl (fun typed line => extend typed (Text.trim line)) typed

/-- A line is typed without the white space around it, and has its tokens all the same. -/
theorem scan_extend {typed : String} (h : (scan typed).closed = true) (line : String) :
    scan (extend typed (Text.trim line)) = (scan typed).andThen (scan line) := by
  unfold extend
  split
  · next hempty =>
    obtain rfl : typed = "" := by simpa using hempty
    exact scan_trim line
  · have hspace : ∀ c ∈ (" " : String).toList, Text.isBlank c = true :=
      List.all_eq_true.1 (by decide)
    have hgap : AtGap (" " ++ Text.trim line).toList := by
      rw [String.toList_append]
      exact .blank (by decide)
    rw [String.append_assoc, scan_append h hgap, scan_blanks_append hspace, scan_trim]

/-- Lines with closed quotes are scanned one after the other, whatever is on the last one. -/
theorem scan_intercalate_cons {line : String} (h : (scan line).closed = true) (next : String)
    (rest : List String) :
    scan ("\n".intercalate (line :: next :: rest)) =
      (scan line).andThen (scan ("\n".intercalate (next :: rest))) := by
  have hfeed : ∀ c ∈ ("\n" : String).toList, Text.isBlank c = true :=
    List.all_eq_true.1 (by decide)
  have hgap : AtGap ("\n" ++ "\n".intercalate (next :: rest)).toList := by
    rw [String.toList_append]
    exact .blank (by decide)
  rw [String.intercalate_cons_cons, String.append_assoc, scan_append h hgap,
    scan_blanks_append hfeed]

/-- What is typed on several lines has the tokens of the text of these lines. -/
theorem scan_typedAfter {typed : String} (htyped : (scan typed).closed = true)
    {lines : List String} (hlines : ∀ line ∈ lines, (scan line).closed = true) (last : String) :
    scan (typedAfter typed (lines ++ [last])) =
      (scan typed).andThen (scan ("\n".intercalate (lines ++ [last]))) := by
  induction lines generalizing typed with
  | nil =>
    rw [List.nil_append, String.intercalate_singleton]
    exact scan_extend htyped last
  | cons line rest ih =>
    obtain ⟨hline, hrest⟩ := List.forall_mem_cons.1 hlines
    have hextend := scan_extend htyped line
    have hclosed : (scan (extend typed (Text.trim line))).closed = true := by
      rw [hextend]
      exact hline
    have hjoin : scan ("\n".intercalate (line :: (rest ++ [last]))) =
        (scan line).andThen (scan ("\n".intercalate (rest ++ [last]))) := by
      cases rest with
      | nil => exact scan_intercalate_cons hline last []
      | cons next rest => exact scan_intercalate_cons hline next (rest ++ [last])
    change scan (typedAfter (extend typed (Text.trim line)) (rest ++ [last])) = _
    rw [ih hclosed hrest, hextend, List.cons_append, hjoin, Scan.andThen_assoc]

end Lines

theorem Session.respond_congr {σ : Type} [Storage σ] (s : Session σ) {text text' : String}
    (h : scan text = scan text') : s.respond text = s.respond text' := by
  have hempty : (Text.trim text).isEmpty = (Text.trim text').isEmpty := by
    rw [Bool.eq_iff_iff, isEmpty_trim_iff, isEmpty_trim_iff, h]
  simp only [respond, execute, hempty, Statement.ofText_congr h]

namespace Console
variable {σ : Type} [Storage σ]

/-- Takes lines one after the other, unless one of them says to stop, with what is written for
each of them: the prompt before it and any response after it. -/
def enterAll (c : Console σ) : List String → Option (List String × Console σ)
  | [] => some ([], c)
  | line :: rest =>
    match c.enter line with
    | .stop => none
    | .go output c' =>
      (enterAll c' rest).map fun (written, last) => ((c.prompt ++ output) :: written, last)

theorem enterAll_append {c c' : Console σ} {lines written : List String}
    (h : c.enterAll lines = some (written, c')) (lines' : List String) :
    c.enterAll (lines ++ lines') =
      (c'.enterAll lines').map fun (written', last) => (written ++ written', last) := by
  induction lines generalizing c written with
  | nil =>
    cases h
    simp
  | cons line rest ih =>
    rw [enterAll] at h
    rw [List.cons_append, enterAll]
    cases hline : c.enter line with
    | stop => simp [hline] at h
    | go output next =>
      rw [hline] at h
      obtain ⟨⟨found, last⟩, hrest, hfound⟩ := Option.map_eq_some_iff.1 h
      cases hfound
      simp [ih hrest, Function.comp_def]

/-- A run begins with the lines that are taken. -/
theorem runLines_append {c c' : Console σ} {lines written : List String}
    (h : c.enterAll lines = some (written, c')) (rest : List (List UInt8)) :
    c.runLines (lines.map Text.Utf8.encode ++ rest) =
      { c'.runLines rest with
        output := String.join written ++ (c'.runLines rest).output } := by
  induction lines generalizing c written with
  | nil =>
    cases h
    simp
  | cons line lines ih =>
    rw [enterAll] at h
    rw [List.map_cons, List.cons_append, runLines, Text.Utf8.decode_encode]
    cases hline : c.enter line with
    | stop => simp [hline] at h
    | go output next =>
      rw [hline] at h
      obtain ⟨⟨found, last⟩, hrest, hfound⟩ := Option.map_eq_some_iff.1 h
      cases hfound
      simp [hline, ih hrest, String.append_assoc]

/-- No line says to stop before one that is not blank, where nothing is typed yet. -/
def GoesOn (typed : String) (lines : List String) : Prop :=
  typed = "" → ∀ line, lines.find? (fun line => !(Text.trim line).isEmpty) = some line →
    Text.trim line ≠ ".exit" ∧ Text.trim line ≠ ".quit"

section Steps
variable {typed line : String} {rest : List String} (h : GoesOn typed (line :: rest))
include h

theorem GoesOn.not_stops :
    (typed.isEmpty && (Text.trim line == ".exit" || Text.trim line == ".quit")) = false := by
  by_cases htyped : typed = ""
  · by_cases hblank : Text.trim line = ""
    · rw [hblank]
      simp
    · obtain ⟨hexit, hquit⟩ := h htyped line (by simp [hblank])
      simp [hexit, hquit]
  · simp [htyped]

theorem GoesOn.tail : GoesOn (extend typed (Text.trim line)) rest := by
  intro hextend
  unfold extend at hextend
  split at hextend
  · next hempty =>
    intro found hfound
    exact h (by simpa using hempty) found (by simp [hextend, hfound])
  · simp at hextend

/-- A line that completes no statement is typed. -/
theorem enter_of_getLast?_ne (s : Session σ) (hopen : (Text.trim line).toList.getLast? ≠ some ';') :
    enter ⟨s, typed⟩ line = .go "" ⟨s, extend typed (Text.trim line)⟩ := by
  simp [enter, h.not_stops, hopen]

/-- A line that completes a statement is answered, and leaves nothing typed. -/
theorem enter_of_getLast?_eq (s : Session σ) (hlast : (Text.trim line).toList.getLast? = some ';') :
    enter ⟨s, typed⟩ line =
      .go ((s.respond (extend typed (Text.trim line))).1 ++ "\n")
        ⟨(s.respond (extend typed (Text.trim line))).2, ""⟩ := by
  simp [enter, h.not_stops, hlast]

end Steps

omit [Storage σ] in
theorem prompt_cases (c : Console σ) : c.prompt = "tabdb> " ∨ c.prompt = "   ... " := by
  unfold prompt
  split
  · exact .inl rfl
  · exact .inr rfl

/-- Lines that complete no statement are typed, without any response. -/
theorem enterAll_of_getLast?_ne (s : Session σ) {lines rest : List String} {typed : String}
    (h : GoesOn typed (lines ++ rest))
    (hopen : ∀ line ∈ lines, (Text.trim line).toList.getLast? ≠ some ';') :
    GoesOn (typedAfter typed lines) rest ∧
      ∃ prompts : List String, prompts.length = lines.length ∧
        (∀ p ∈ prompts, p = "tabdb> " ∨ p = "   ... ") ∧
        enterAll ⟨s, typed⟩ lines = some (prompts, ⟨s, typedAfter typed lines⟩) := by
  induction lines generalizing typed with
  | nil => exact ⟨h, [], rfl, by simp, rfl⟩
  | cons line lines ih =>
    obtain ⟨hline, hlines⟩ := List.forall_mem_cons.1 hopen
    obtain ⟨hgoes, prompts, hlength, hprompts, hrun⟩ := ih h.tail hlines
    have henter := enter_of_getLast?_ne h s hline
    refine ⟨hgoes, prompt ⟨s, typed⟩ :: prompts, by simp [hlength],
      List.forall_mem_cons.2 ⟨prompt_cases _, hprompts⟩, ?_⟩
    rw [enterAll, henter]
    simp only [hrun, Option.map_some, String.append_empty]
    rfl

/-- Lines with closed quotes of which only the last one completes a statement are one statement:
its response and what it does are those of the lines as one text, it is answered after the last
line, and nothing is typed then. -/
theorem enterAll_statement (s : Session σ) (lines : List String) (last : String)
    (hquotes : ∀ line ∈ lines, Even (line.toList.count '\''))
    (hopen : ∀ line ∈ lines, (Text.trim line).toList.getLast? ≠ some ';')
    (hlast : (Text.trim last).toList.getLast? = some ';')
    (hgoes : ∀ line, (lines ++ [last]).find? (fun line => !(Text.trim line).isEmpty) = some line →
      Text.trim line ≠ ".exit" ∧ Text.trim line ≠ ".quit") :
    ∃ (prompts : List String) (prompt typed response : String) (s' : Session σ),
      s.respond ("\n".intercalate (lines ++ [last])) = (response, s') ∧
      prompts.length = lines.length ∧ (∀ p ∈ prompt :: prompts, p = "tabdb> " ∨ p = "   ... ") ∧
      enterAll ⟨s, ""⟩ lines = some (prompts, ⟨s, typed⟩) ∧
      enterAll ⟨s, ""⟩ (lines ++ [last]) =
        some (prompts ++ [prompt ++ (response ++ "\n")], ⟨s', ""⟩) ∧
      ∀ rest, runLines ⟨s, ""⟩ ((lines ++ [last]).map Text.Utf8.encode ++ rest) =
        { runLines ⟨s', ""⟩ rest with
          output := String.join prompts ++ prompt ++ response ++ "\n" ++
            (runLines ⟨s', ""⟩ rest).output } := by
  have hstart : GoesOn "" (lines ++ [last]) := fun _ => hgoes
  obtain ⟨hend, prompts, hlength, hprompts, hrun⟩ := enterAll_of_getLast?_ne s hstart hopen
  have hscan : scan (extend (typedAfter "" lines) (Text.trim last)) =
      scan ("\n".intercalate (lines ++ [last])) := by
    have hclosed : ∀ line ∈ lines, (scan line).closed = true := by
      intro line hm
      obtain ⟨texts, hscan, -⟩ := scan_of_even (hquotes line hm)
      rw [hscan]
    have htyped : scan (typedAfter "" (lines ++ [last])) =
        (scan "").andThen (scan ("\n".intercalate (lines ++ [last]))) :=
      scan_typedAfter rfl hclosed last
    rwa [typedAfter, List.foldl_append] at htyped
  -- Only the tokens of what is typed matter, so the response is that of the lines as one text.
  obtain ⟨⟨response, s'⟩, hresponse⟩ :
      ∃ outcome, s.respond ("\n".intercalate (lines ++ [last])) = outcome := ⟨_, rfl⟩
  have hall : enterAll ⟨s, ""⟩ (lines ++ [last]) =
      some (prompts ++ [prompt ⟨s, typedAfter "" lines⟩ ++ (response ++ "\n")], ⟨s', ""⟩) := by
    have henter := enter_of_getLast?_eq hend s hlast
    rw [s.respond_congr hscan, hresponse] at henter
    rw [enterAll_append hrun, enterAll, henter]
    rfl
  refine ⟨prompts, prompt ⟨s, typedAfter "" lines⟩, typedAfter "" lines, response, s', hresponse,
    hlength, List.forall_mem_cons.2 ⟨prompt_cases _, hprompts⟩, hrun, hall, fun rest => ?_⟩
  rw [runLines_append hall]
  simp [String.join_append, String.append_assoc]

/-- White space and semicolons within quotes are kept, and blank lines between tokens are not. -/
theorem enterAll_statement_broken :
    let s : Session Memory := ["CREATE DATABASE d;", "USE d;", "CREATE TABLE t (a);"].foldl
      (fun s text => (s.respond text).2) { storage := {} }
    let lines := ["", "INSERT INTO t", "", " \tVALUES ('a  b;'  "]
    ((s.respond ("\n".intercalate (lines ++ [" ); "]))).2.respond "SELECT * FROM t;").1 =
        "[OK]\nid\ta\n1\ta  b;" ∧
      ∃ (prompts : List String) (prompt typed response : String) (s' : Session Memory),
        s.respond ("\n".intercalate (lines ++ [" ); "])) = (response, s') ∧
        prompts.length = lines.length ∧
        (∀ p ∈ prompt :: prompts, p = "tabdb> " ∨ p = "   ... ") ∧
        enterAll ⟨s, ""⟩ lines = some (prompts, ⟨s, typed⟩) ∧
        enterAll ⟨s, ""⟩ (lines ++ [" ); "]) =
          some (prompts ++ [prompt ++ (response ++ "\n")], ⟨s', ""⟩) ∧
        ∀ rest, runLines ⟨s, ""⟩ ((lines ++ [" ); "]).map Text.Utf8.encode ++ rest) =
          { runLines ⟨s', ""⟩ rest with
            output := String.join prompts ++ prompt ++ response ++ "\n" ++
              (runLines ⟨s', ""⟩ rest).output } := by
  intro s lines
  have hfirst : (lines ++ [" ); "]).find? (fun line => !(Text.trim line).isEmpty) =
      some "INSERT INTO t" := by
    decide
  refine ⟨by decide +kernel, ?_⟩
  clear_value s
  refine enterAll_statement s lines " ); " (by decide) (by decide) (by decide) fun line hline => ?_
  obtain rfl : "INSERT INTO t" = line := Option.some.inj (hfirst.symm.trans hline)
  decide

end Console

end Tabular
