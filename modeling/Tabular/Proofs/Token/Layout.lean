import Tabular.Proofs.Token.Lexemes
import Tabular.Statement.Parser

/-! White space between tokens: any of it, wherever tokens meet, leaves them and the statement that
they write as they are. -/
namespace Tabular

/-- The end of a text, or white space. -/
inductive AtGap : List Char → Prop
  | nothing : AtGap []
  | blank {c : Char} {rest : List Char} (h : Text.isBlank c = true) : AtGap (c :: rest)

theorem AtGap.endsWord {rest : List Char} (h : AtGap rest) : EndsWord rest := by
  cases h with
  | nothing => exact .nothing
  | blank h => exact .blank h

theorem AtGap.head?_ne {rest : List Char} (h : AtGap rest) : rest.head? ≠ some '=' := by
  cases h with
  | nothing => simp
  | blank h =>
    rintro ⟨⟩
    exact absurd h (by decide)

theorem Lexeme.of_atGap {token rest gap : List Char} (h : Lexeme token rest) (hgap : AtGap gap) :
    Lexeme token gap := by
  cases h with
  | quoted h => exact .quoted h
  | compound h => exact .compound h
  | mark h => exact .mark h fun _ => hgap.head?_ne
  | word nonempty inside => exact .word nonempty inside (fun _ => hgap.head?_ne) hgap.endsWord

/-- The tokens of a text are whole tokens by themselves. -/
theorem lexeme_of_mem_scan {s text : String} (h : text ∈ (scan s).texts) :
    Lexeme text.toList [] := by
  obtain ⟨earlier, later, htexts⟩ := List.append_of_mem h
  obtain ⟨rest, hlexed⟩ := lexed_scan s
  rw [htexts] at hlexed
  obtain ⟨after, -, hafter⟩ := hlexed.exists_after
  exact hafter.of_atGap .nothing

/-- The white space before, between and after tokens. -/
structure Layout where
  before : String
  /-- What is after the token of an index, if more tokens follow. -/
  between : Nat → String
  after : String
  blank_before : ∀ c ∈ before.toList, Text.isBlank c = true
  blank_between : ∀ i, ∀ c ∈ (between i).toList, Text.isBlank c = true
  blank_after : ∀ c ∈ after.toList, Text.isBlank c = true
  between_ne : ∀ i, between i ≠ ""

namespace Layout
variable (l : Layout)

def join (i : Nat) : List String → String
  | [] => ""
  | [text] => text
  | text :: next :: texts => text ++ l.between i ++ join (i + 1) (next :: texts)

def text (texts : List String) : String := l.before ++ l.join 0 texts ++ l.after

def spaces : Layout where
  before := ""
  between _ := " "
  after := ""
  blank_before := List.all_eq_true.1 (by decide)
  blank_between _ := List.all_eq_true.1 (by decide)
  blank_after := List.all_eq_true.1 (by decide)
  between_ne _ := by decide

theorem text_spaces (texts : List String) : spaces.text texts = " ".intercalate texts := by
  have hjoin : ∀ i, spaces.join i texts = " ".intercalate texts := by
    induction texts with
    | nil => exact fun _ => rfl
    | cons text texts ih =>
      intro i
      cases texts with
      | nil => rw [join, String.intercalate_singleton]
      | cons next texts =>
        rw [join, ih, String.intercalate_cons_cons]
        rfl
  rw [text, hjoin]
  simp [spaces]

theorem atGap_between (i : Nat) (rest : List Char) : AtGap ((l.between i).toList ++ rest) := by
  cases hgap : (l.between i).toList with
  | nil => exact absurd (String.toList_eq_nil_iff.1 hgap) (l.between_ne i)
  | cons c gap =>
    refine .blank (l.blank_between i c ?_)
    rw [hgap]
    exact List.mem_cons_self

theorem atGap_after : AtGap l.after.toList := by
  cases hgap : l.after.toList with
  | nil => exact .nothing
  | cons c gap =>
    refine .blank (l.blank_after c ?_)
    rw [hgap]
    exact List.mem_cons_self

end Layout

theorem Lexed.blanks {gap cs rest : List Char} {texts : List String}
    (hgap : ∀ c ∈ gap, Text.isBlank c = true) (h : Lexed cs texts rest) :
    Lexed (gap ++ cs) texts rest := by
  induction gap with
  | nil => exact h
  | cons c gap ih => exact .blank (hgap c (by simp)) (ih fun d hd => hgap d (by simp [hd]))

section
variable {texts : List String} (h : ∀ text ∈ texts, Lexeme text.toList [])
include h

theorem Layout.lexed_join (l : Layout) (i : Nat) {rest : List Char} (hrest : AtGap rest) :
    Lexed ((l.join i texts).toList ++ rest) texts rest := by
  induction texts generalizing i with
  | nil => exact .nothing
  | cons text texts ih =>
    have htoken {gap : List Char} {found : List String} (hgap : AtGap gap)
        (hfound : Lexed gap found rest) : Lexed (text.toList ++ gap) (text :: found) rest := by
      have := Lexed.token ((h text (by simp)).of_atGap hgap) hfound
      rwa [String.ofList_toList] at this
    cases texts with
    | nil => exact htoken hrest .nothing
    | cons next texts =>
      rw [join, String.toList_append, String.toList_append, List.append_assoc, List.append_assoc]
      refine htoken (l.atGap_between i _) (.blanks (l.blank_between i) ?_)
      exact ih (fun t ht => h t (by simp [ht])) (i + 1)

/-- Whole tokens in any layout are the tokens of the text. -/
theorem Layout.scan_text (l : Layout) : scan (l.text texts) = ⟨texts, true⟩ := by
  have hlexed : Lexed (l.text texts).toList texts l.after.toList := by
    rw [text, String.toList_append, String.toList_append, List.append_assoc]
    exact .blanks l.blank_before (l.lexed_join h 0 l.atGap_after)
  rw [scan, hlexed.scanWord_eq, scanWord_of_isBlank l.blank_after, Scan.nothing, List.append_nil]

end

theorem Statement.ofText_congr {s s' : String} (h : scan s = scan s') : ofText s = ofText s' := by
  rw [ofText, ofText, Token.tokenize, Token.tokenize, h]

/-- A text has the same tokens, and writes the same statement or is refused for the same cause, in
any layout of its tokens. -/
theorem scan_layout (s : String) (h : (scan s).closed = true) :
    scan (" ".intercalate (scan s).texts) = scan s ∧
      Statement.ofText (" ".intercalate (scan s).texts) = Statement.ofText s ∧
      ∀ l : Layout, scan (l.text (scan s).texts) = scan s ∧
        Statement.ofText (l.text (scan s).texts) = Statement.ofText s := by
  have hlayout (l : Layout) : scan (l.text (scan s).texts) = scan s := by
    rw [l.scan_text fun _ => lexeme_of_mem_scan, ← h]
  have hspaces : scan (" ".intercalate (scan s).texts) = scan s := by
    rw [← Layout.text_spaces]
    exact hlayout .spaces
  exact ⟨hspaces, Statement.ofText_congr hspaces,
    fun l => ⟨hlayout l, Statement.ofText_congr (hlayout l)⟩⟩

/-- A space keeps an exclamation mark and an equals sign apart, and none keeps them together. -/
theorem scan_layout_unequal :
    let s := "SELECT a FROM t WHERE a!='b  c'OR b! = 1;"
    (scan s).closed = true ∧
      (scan s).texts.drop 5 = ["a", "!=", "'b  c'", "OR", "b!", "=", "1", ";"] ∧
      scan (" ".intercalate (scan s).texts) = scan s ∧
      Statement.ofText (" ".intercalate (scan s).texts) = Statement.ofText s ∧
      ∀ l : Layout, scan (l.text (scan s).texts) = scan s ∧
        Statement.ofText (l.text (scan s).texts) = Statement.ofText s := by
  intro s
  have hclosed : (scan s).closed = true := by decide +kernel
  exact ⟨hclosed, by decide +kernel, scan_layout s hclosed⟩

end Tabular
