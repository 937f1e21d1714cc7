import Mathlib.Data.List.TakeWhile
import Tabular.Text.Blank

/-! Texts without the white space around them. -/
namespace Tabular.Text

theorem trim_sublist (s : String) : (trim s).toList.Sublist s.toList := by
  rw [trim, String.toList_ofList, dropRight]
  have hright : ((s.toList.dropWhile isBlank).reverse.dropWhile isBlank).Sublist
      (s.toList.dropWhile isBlank).reverse := List.dropWhile_sublist _
  have hreverse := List.reverse_sublist.2 hright
  rw [List.reverse_reverse] at hreverse
  exact hreverse.trans (List.dropWhile_sublist _)

/-- What is trimmed is white space at both ends. -/
theorem exists_around_trim (s : String) :
    ∃ before after : String, s = before ++ trim s ++ after ∧
      (∀ c ∈ before.toList, isBlank c = true) ∧ ∀ c ∈ after.toList, isBlank c = true := by
  let inner := s.toList.dropWhile isBlank
  refine ⟨.ofList (s.toList.takeWhile isBlank),
    .ofList (inner.reverse.takeWhile isBlank).reverse, ?_, ?_, ?_⟩
  · have hinner : dropRight isBlank inner ++ (inner.reverse.takeWhile isBlank).reverse = inner := by
      rw [dropRight, ← List.reverse_append, List.takeWhile_append_dropWhile, List.reverse_reverse]
    refine String.toList_injective ?_
    rw [trim, String.toList_append, String.toList_append, String.toList_ofList,
      String.toList_ofList, String.toList_ofList, List.append_assoc, hinner,
      List.takeWhile_append_dropWhile]
  · intro c hc
    rw [String.toList_ofList] at hc
    exact List.mem_takeWhile_imp hc
  · intro c hc
    rw [String.toList_ofList, List.mem_reverse] at hc
    exact List.mem_takeWhile_imp hc

theorem dropWhile_isBlank_eq_self {cs : List Char} (h : ∀ c ∈ cs, isBlank c = false) :
    cs.dropWhile isBlank = cs := by
  cases cs with
  | nil => rfl
  | cons c rest => rw [List.dropWhile_cons_of_neg (by simp [h c (by simp)])]

theorem trim_eq_of_around {s : String} {before inner after : List Char}
    (hs : s.toList = before ++ (inner ++ after)) (hbefore : ∀ c ∈ before, isBlank c = true)
    (hafter : ∀ c ∈ after, isBlank c = true) (hinner : ∀ c ∈ inner, isBlank c = false) :
    trim s = String.ofList inner := by
  rw [trim, hs, List.dropWhile_append_of_pos hbefore]
  congr 1
  cases inner with
  | nil =>
    rw [List.nil_append, List.dropWhile_eq_nil_iff.2 hafter]
    rfl
  | cons c rest =>
    have hfirst : ¬isBlank c = true := by simp [hinner c (by simp)]
    rw [List.cons_append, List.dropWhile_cons_of_neg hfirst, ← List.cons_append,
      dropRight_append_all isBlank (c :: rest) after hafter, dropRight,
      dropWhile_isBlank_eq_self fun d hd => hinner d (List.mem_reverse.1 hd), List.reverse_reverse]

theorem trim_eq_self {s : String} (h : ∀ c ∈ s.toList, isBlank c = false) : trim s = s := by
  have hs : s.toList = [] ++ (s.toList ++ []) := by rw [List.append_nil, List.nil_append]
  rw [trim_eq_of_around hs nofun nofun h, String.ofList_toList]

/-- A text has no white space around it if its ends are none. -/
theorem trim_eq_self_of_ends {s : String} {first last : Char} {cs : List Char}
    (hs : s.toList = first :: (cs ++ [last])) (hfirst : isBlank first = false)
    (hlast : isBlank last = false) : trim s = s := by
  have hleft : s.toList.dropWhile isBlank = s.toList := by
    rw [hs, List.dropWhile_cons_of_neg (by simp [hfirst])]
  have hright : dropRight isBlank s.toList = s.toList := by
    have hreverse : s.toList.reverse = last :: (cs.reverse ++ [first]) := by
      rw [hs, List.reverse_cons, List.reverse_append]
      rfl
    rw [dropRight, hreverse, List.dropWhile_cons_of_neg (by simp [hlast]), ← hreverse,
      List.reverse_reverse]
  rw [trim, hleft, hright, String.ofList_toList]

theorem isBlank_of_isEmpty_trim {s : String} (h : (trim s).isEmpty = true) {c : Char}
    (hc : c ∈ s.toList) : isBlank c = true := by
  obtain ⟨before, after, hs, hbefore, hafter⟩ := exists_around_trim s
  rw [String.isEmpty_iff.1 h] at hs
  rw [hs, String.toList_append, String.toList_append] at hc
  rcases List.mem_append.1 hc with hc | hc
  · exact hbefore c (by simpa using hc)
  · exact hafter c hc

end Tabular.Text
