import Tabular.Proofs.Table.Codec
import Tabular.Storage.Files
import Tabular.Text.Utf8.RoundTrip

/-! Lines written to a file: what is read back of them. -/
namespace Tabular

/-- A text that is one line: no line feed stands in it, and no carriage return at its end. -/
def IsLine (s : String) : Prop := '\n' ∉ s.toList ∧ s.toList.getLast? ≠ some '\r'

section Tables

theorem eq_or_mem_of_mem_intersperse {α : Type} {x y : α} {l : List α} (h : x ∈ l.intersperse y) :
    x = y ∨ x ∈ l := by
  induction l with
  | nil => cases h
  | cons a rest ih =>
    cases rest with
    | nil => exact .inr h
    | cons b rest =>
      rw [List.intersperse_cons_cons] at h
      rcases List.mem_cons.1 h with rfl | h
      · exact .inr (by simp)
      · rcases List.mem_cons.1 h with rfl | h
        · exact .inl rfl
        · exact (ih h).imp_right (List.mem_cons_of_mem a)

theorem mem_joinCells {c : Char} {cells : List String} (h : c ∈ (joinCells cells).toList) :
    c = '\t' ∨ ∃ cell ∈ cells, c ∈ cell.toList := by
  rw [joinCells, String.toList_intercalate, List.intercalate] at h
  obtain ⟨chars, hchars, hc⟩ := List.mem_flatten.1 h
  rcases eq_or_mem_of_mem_intersperse hchars with rfl | hcell
  · exact .inl (List.mem_singleton.1 hc)
  · obtain ⟨cell, hmem, rfl⟩ := List.mem_map.1 hcell
    exact .inr ⟨cell, hmem, hc⟩

theorem isLine_joinCells {cells : List String} (h : ∀ cell ∈ cells, IsCell cell) :
    IsLine (joinCells cells) := by
  have hbreak : ∀ c ∈ (joinCells cells).toList, c ≠ '\n' ∧ c ≠ '\r' := by
    intro c hc
    rcases mem_joinCells hc with rfl | ⟨cell, hcell, hm⟩
    · decide
    · have := h cell hcell c hm
      simp only [List.mem_cons, not_or] at this
      exact ⟨this.2.1, this.2.2.1⟩
  constructor
  · intro hfeed
    exact (hbreak _ hfeed).1 rfl
  · intro hreturn
    exact (hbreak _ (List.mem_of_getLast? hreturn)).2 rfl

/-- The lines of a sound table hold no line breaks. -/
theorem WellStored.isLine {lines : List String} (h : WellStored lines) :
    ∀ line ∈ lines, IsLine line := by
  obtain ⟨t, ht, rfl⟩ := h
  intro line hline
  rcases ht with rfl | ht
  · cases hline
  · rw [Table.toLines, if_neg (by simpa using ht.header_ne_nil)] at hline
    obtain ⟨cells, hcells, rfl⟩ := List.mem_map.1 hline
    apply isLine_joinCells
    rcases List.mem_cons.1 hcells with rfl | hrow
    · exact ht.header.cells
    · exact ht.cells cells hrow

end Tables

namespace Text
open Table (not_mem_of_mem_splitOn)

def chomp (s : String) : String :=
  if s.toList.getLast? = some '\r' then String.ofList s.toList.dropLast else s

theorem chomp_eq_self_iff {s : String} : chomp s = s ↔ s.toList.getLast? ≠ some '\r' := by
  unfold chomp
  split
  · next hreturn =>
    refine ⟨fun h => ?_, fun h => (h hreturn).elim⟩
    have hlength := congrArg (fun s => s.toList.length) h
    have hpos := List.length_pos_of_mem (List.mem_of_getLast? hreturn)
    simp only [String.toList_ofList, List.length_dropLast] at hlength
    omega
  · next hreturn => exact ⟨fun _ => hreturn, fun _ => rfl⟩

def parts (s : String) : List String := (s.toList.splitOn '\n').map String.ofList

theorem feed_not_mem_parts {s part : String} (h : part ∈ parts s) : '\n' ∉ part.toList := by
  obtain ⟨cs, hcs, rfl⟩ := List.mem_map.1 h
  rw [String.toList_ofList]
  exact not_mem_of_mem_splitOn hcs

theorem length_parts (s : String) : (parts s).length = s.toList.count '\n' + 1 := by
  rw [parts, List.length_map]
  induction s.toList with
  | nil => rfl
  | cons c cs ih =>
    rw [List.splitOn_eq_splitOnP] at ih ⊢
    rw [List.splitOnP_cons_eq_if_modifyHead, List.count_cons]
    split
    · rw [List.length_cons, ih]
    · rw [List.length_modifyHead, ih]

theorem flatMap_concat {α : Type} (x : α) {ls : List (List α)} (h : ls ≠ []) :
    ls.flatMap (· ++ [x]) = [x].intercalate ls ++ [x] := by
  induction ls with
  | nil => exact (h rfl).elim
  | cons l ls ih =>
    cases ls with
    | nil => simp
    | cons l' ls =>
      rw [List.flatMap_cons, ih (List.cons_ne_nil _ _),
        List.intercalate_cons_of_ne_nil (List.cons_ne_nil _ _)]
      simp

theorem flatMap_parts (s : String) :
    (parts s).flatMap (fun part => part.toList ++ ['\n']) = s.toList ++ ['\n'] := by
  have hne : s.toList.splitOn '\n' ≠ [] := List.splitOnP_ne_nil _ _
  have hparts := flatMap_concat '\n' hne
  rw [List.intercalate_splitOn] at hparts
  rw [← hparts, parts, List.flatMap_map]
  simp only [String.toList_ofList]

/-- Lines without line feeds are read back without carriage returns at their ends. -/
theorem lines_unlines_of_no_feeds {ls : List String} (h : ∀ l ∈ ls, '\n' ∉ l.toList) :
    lines (unlines ls) = ls.map chomp := by
  rw [lines, unlines, String.toList_ofList]
  induction ls with
  | nil => rfl
  | cons l ls ih =>
    obtain ⟨hl, hls⟩ := List.forall_mem_cons.1 h
    have hchomp : String.ofList (if l.toList.reverse.head? = some '\r' then l.toList.reverse.tail
        else l.toList.reverse).reverse = chomp l := by
      unfold chomp
      rw [List.head?_reverse]
      split
      · rw [List.tail_reverse, List.reverse_reverse]
      · rw [List.reverse_reverse, String.ofList_toList]
    rw [List.flatMap_cons, List.append_assoc, List.singleton_append, linesFrom_append _ _ _ _ _ hl,
      List.append_nil, List.map_cons, hchomp, ih hls, List.map_cons]

/-- Each text is read back as its parts between line feeds, each without a carriage return at its
end. -/
theorem lines_unlines_eq (ls : List String) :
    lines (unlines ls) = (ls.flatMap parts).map chomp := by
  -- As text, a line with line feeds in it is no other than its parts, each a line.
  have hunlines : unlines (ls.flatMap parts) = unlines ls := by
    rw [unlines, unlines, List.flatMap_assoc]
    exact congrArg String.ofList (List.flatMap_congr fun l _ => flatMap_parts l)
  rw [← hunlines]
  refine lines_unlines_of_no_feeds fun part hpart => ?_
  obtain ⟨l, -, hl⟩ := List.mem_flatMap.1 hpart
  exact feed_not_mem_parts hl

/-- Every line feed in a line makes one more of it. -/
theorem length_lines_unlines (ls : List String) : (lines (unlines ls)).length =
    ls.length + (ls.flatMap String.toList).count '\n' := by
  rw [lines_unlines_eq, List.length_map]
  induction ls with
  | nil => rfl
  | cons l ls ih =>
    rw [List.flatMap_cons, List.length_append, ih, length_parts, List.length_cons, List.flatMap_cons,
      List.count_append]
    omega

/-- Texts are read back exactly if each is one line. -/
theorem lines_unlines_iff {ls : List String} : lines (unlines ls) = ls ↔ ∀ l ∈ ls, IsLine l := by
  have hchomp (hls : ∀ l ∈ ls, '\n' ∉ l.toList) :
      lines (unlines ls) = ls ↔ ∀ l ∈ ls, l.toList.getLast? ≠ some '\r' := by
    have hself : ls.map chomp = ls.map id ↔ ∀ l ∈ ls, chomp l = l := List.map_eq_map_iff
    rw [List.map_id] at hself
    rw [lines_unlines_of_no_feeds hls, hself]
    exact forall₂_congr fun l _ => chomp_eq_self_iff
  constructor
  · intro h
    have hcount := length_lines_unlines ls
    rw [h] at hcount
    have hfeeds : '\n' ∉ ls.flatMap String.toList := List.count_eq_zero.1 (by omega)
    have hls : ∀ l ∈ ls, '\n' ∉ l.toList := fun l hl hfeed =>
      hfeeds (List.mem_flatMap.2 ⟨l, hl, hfeed⟩)
    exact fun l hl => ⟨hls l hl, (hchomp hls).1 h l hl⟩
  · intro h
    exact (hchomp fun l hl => (h l hl).1).2 fun l hl => (h l hl).2

end Text

namespace Files

theorem readLines_writeLines_eq (ls : List String) :
    readLines (writeLines ls) = .ok (Text.lines (Text.unlines ls)) := by
  rw [readLines, writeLines, Text.Utf8.decode_encode]

/-- Lines that are written to a file are read back. -/
theorem readLines_writeLines {ls : List String} (h : ∀ l ∈ ls, IsLine l) :
    readLines (writeLines ls) = .ok ls := by
  rw [readLines_writeLines_eq, Text.lines_unlines_iff.2 h]

end Files

end Tabular
