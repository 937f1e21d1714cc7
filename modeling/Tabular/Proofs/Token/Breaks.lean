import Tabular.Proofs.Token.Layout

/-! White space outside of quotes breaks a text into parts that are scanned one after the other. -/
namespace Tabular

/-- The tokens of two parts of a text, of which the second one ends it. -/
def Scan.andThen (s s' : Scan) : Scan := ⟨s.texts ++ s'.texts, s'.closed⟩

namespace Scan

theorem andThen_nothing {s : Scan} (h : s.closed = true) : s.andThen nothing = s := by
  obtain ⟨texts, closed⟩ := s
  simp only at h
  simp [andThen, nothing, h]

theorem andThen_assoc (s s' s'' : Scan) :
    (s.andThen s').andThen s'' = s.andThen (s'.andThen s'') := by
  simp [andThen]

end Scan

section Joining
variable {cs gap : List Char} (hends : EndsWord gap) (hhead : gap.head? ≠ some '=')
include hends hhead

theorem Lexeme.append {token : List Char} (h : Lexeme token cs) : Lexeme token (cs ++ gap) := by
  have happend (hne : cs.head? ≠ some '=') : (cs ++ gap).head? ≠ some '=' := by
    cases cs with
    | nil => exact hhead
    | cons c cs => exact hne
  cases h with
  | quoted h => exact .quoted h
  | compound h => exact .compound h
  | mark h alone => exact .mark h fun ho => happend (alone ho)
  | word nonempty inside whole ends =>
    refine .word nonempty inside (fun hlast => happend (whole hlast)) ?_
    cases ends with
    | nothing => exact hends
    | blank h => exact .blank h
    | quote => exact .quote
    | mark h => exact .mark h
    | unequal => exact .unequal

/-- Tokens up to the end of a text are read before more characters at which a word ends. -/
theorem Lexed.append {texts texts' : List String} {rest : List Char} (h : Lexed cs texts [])
    (hgap : Lexed gap texts' rest) : Lexed (cs ++ gap) (texts ++ texts') rest := by
  generalize hleft : [] = left at h
  induction h with
  | nothing =>
    subst hleft
    exact hgap
  | blank h _ ih => exact .blank h (ih hleft)
  | token h _ ih =>
    rw [List.append_assoc]
    exact .token (h.append hends hhead) (ih hleft)

end Joining

/-- A text with closed quotes is scanned before more text that starts with white space. -/
theorem scan_append {s s' : String} (h : (scan s).closed = true) (hgap : AtGap s'.toList) :
    scan (s ++ s') = (scan s).andThen (scan s') := by
  have hscan : scan s = ⟨(scan s).texts, true⟩ := h ▸ rfl
  obtain ⟨left, hlexed, hleaves⟩ := scan_eq_iff.1 hscan
  obtain ⟨rest, hlexed', hleaves'⟩ := scan_eq_iff.1 (Eq.refl (scan s'))
  cases hleaves
  refine scan_eq_iff.2 ⟨rest, ?_, hleaves'⟩
  rw [String.toList_append]
  exact hlexed.append hgap.endsWord hgap.head?_ne hlexed'

section Blanks
variable {gap : String} (hgap : ∀ c ∈ gap.toList, Text.isBlank c = true)
include hgap

theorem scan_of_blanks : scan gap = Scan.nothing := scanWord_of_isBlank hgap

/-- White space before a text does not matter. -/
theorem scan_blanks_append (s : String) : scan (gap ++ s) = scan s := by
  obtain ⟨rest, hlexed, hleaves⟩ := scan_eq_iff.1 (Eq.refl (scan s))
  refine scan_eq_iff.2 ⟨rest, ?_, hleaves⟩
  rw [String.toList_append]
  exact hlexed.blanks hgap

/-- White space after a text does not matter, not even in a quoted span without an end. -/
theorem scan_append_blanks (s : String) : scan (s ++ gap) = scan s := by
  have hquote : '\'' ∉ gap.toList := fun hm => absurd (hgap _ hm) (by decide)
  rcases scan_cases s with ⟨texts, hscan, -⟩ | ⟨texts, before, after, hscan, hs, ha, hbefore⟩
  · have hclosed : (scan s).closed = true := by rw [hscan]
    have hstart : AtGap gap.toList := by
      cases h : gap.toList with
      | nil => exact .nothing
      | cons c rest => exact .blank (hgap c (h ▸ List.mem_cons_self))
    rw [scan_append hclosed hstart, scan_of_blanks hgap, Scan.andThen_nothing hclosed]
  · -- The span without an end takes the white space in, and no token is made of it.
    have hspan : '\'' ∉ after ++ gap.toList := by
      rw [List.mem_append, not_or]
      exact ⟨ha, hquote⟩
    have hlexed : Lexed (s ++ gap).toList texts ('\'' :: (after ++ gap.toList)) := by
      have hends : EndsWord ('\'' :: (after ++ gap.toList)) := .quote
      have happend := hbefore.append hends (by simp) .nothing
      rw [String.toList_append, hs, List.append_assoc, List.cons_append]
      rwa [List.append_nil] at happend
    rw [hscan]
    exact scan_eq_iff.2 ⟨_, hlexed, .unclosed hspan⟩

end Blanks

theorem scan_trim (s : String) : scan (Text.trim s) = scan s := by
  obtain ⟨before, after, hs, hbefore, hafter⟩ := Text.exists_around_trim s
  have hscan : scan (before ++ Text.trim s ++ after) = scan (Text.trim s) := by
    rw [scan_append_blanks hafter, scan_blanks_append hbefore]
  rw [← hscan, ← hs]

/-- Nothing but white space is scanned without a token and without an open quote. -/
theorem isEmpty_trim_iff {s : String} : (Text.trim s).isEmpty = true ↔ scan s = Scan.nothing := by
  constructor
  · exact fun h => scan_of_blanks fun c hc => Text.isBlank_of_isEmpty_trim h hc
  · intro h
    obtain ⟨rest, hlexed, hleaves⟩ := scan_eq_iff.1 h
    cases hleaves
    have hblank {cs : List Char} (hcs : Lexed cs [] []) : ∀ c ∈ cs, Text.isBlank c = true := by
      generalize htexts : [] = texts at hcs
      generalize hleft : [] = left at hcs
      induction hcs with
      | nothing => simp [← hleft]
      | blank h _ ih => exact List.forall_mem_cons.2 ⟨h, ih htexts hleft⟩
      | token => cases htexts
    have hnil : s.toList.dropWhile Text.isBlank = [] := List.dropWhile_eq_nil_iff.2 (hblank hlexed)
    rw [Text.trim, hnil]
    rfl

end Tabular
