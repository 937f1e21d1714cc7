import Mathlib.Data.List.Basic
import Tabular.Connection

/-! What a client makes of the replies that it receives, one after the other. -/
namespace Tabular.Connection

/-- The lines of a text: its stretches between line feeds. -/
def linesOf (text : String) : List (List Char) := text.toList.splitOn '\n'

/-- The texts that a client finds in what it has received: the lines before each line that is the
end mark alone. -/
def cut (received : String) : List String :=
  ((linesOf received).splitOn [endMark]).dropLast.map fun lines =>
    String.ofList (['\n'].intercalate lines)

theorem ofList_intercalate_linesOf (text : String) :
    String.ofList (['\n'].intercalate (linesOf text)) = text := by
  rw [linesOf, List.intercalate_splitOn, String.ofList_toList]

theorem toList_reply (response : String) :
    (reply response).toList = response.toList ++ '\n' :: endMark :: '\n' :: [] := by
  change (response ++ "\n" ++ String.singleton endMark ++ "\n").toList = _
  simp

theorem linesOf_replies (responses : List String) :
    linesOf (String.join (responses.map reply)) =
      (responses.flatMap fun r => linesOf r ++ [[endMark]]) ++ [[]] := by
  induction responses with
  | nil => rfl
  | cons r rest ih =>
    have hfeed : '\n' ∉ [endMark] := by decide
    have hmark (l : List Char) :
        (endMark :: '\n' :: l).splitOn '\n' = [endMark] :: l.splitOn '\n' :=
      List.splitOn_append_cons_self_of_not_mem hfeed l
    have hjoin : (String.join ((r :: rest).map reply)).toList =
        r.toList ++ '\n' :: endMark :: '\n' :: (String.join (rest.map reply)).toList := by
      simp [String.toList_join, toList_reply]
    rw [linesOf] at ih ⊢
    rw [hjoin, List.splitOn_append_cons_self, hmark, ih, List.flatMap_cons, linesOf]
    simp

theorem length_splitOn {α : Type} [BEq α] [LawfulBEq α] (a : α) (l : List α) :
    (l.splitOn a).length = l.count a + 1 := by
  induction l with
  | nil => rfl
  | cons b rest ih =>
    rw [List.splitOn_cons_eq_if_modifyHead, List.count_cons]
    split
    · rw [List.length_cons, ih]
    · rw [List.length_modifyHead, ih]

/-- Lines without the end mark are told apart from the lines after an end mark. -/
theorem splitOn_lines {responses : List String} (h : ∀ r ∈ responses, [endMark] ∉ linesOf r) :
    ((responses.flatMap fun r => linesOf r ++ [[endMark]]) ++ [[]]).splitOn [endMark] =
      responses.map linesOf ++ [[[]]] := by
  induction responses with
  | nil => rfl
  | cons r rest ih =>
    obtain ⟨hr, hrest⟩ := List.forall_mem_cons.1 h
    rw [List.flatMap_cons, List.append_assoc, List.append_assoc, List.singleton_append,
      List.splitOn_append_cons_self_of_not_mem hr, ih hrest, List.map_cons, List.cons_append]

/-- There are as many end marks as replies, besides those that are lines of responses. -/
theorem count_endMark (responses : List String) :
    ((responses.flatMap fun r => linesOf r ++ [[endMark]]) ++ [[]]).count [endMark] =
      (responses.flatMap linesOf).count [endMark] + responses.length := by
  induction responses with
  | nil => rfl
  | cons r rest ih =>
    rw [List.flatMap_cons, List.append_assoc, List.append_assoc, List.count_append, List.count_append,
      ih, List.count_singleton_self, List.flatMap_cons, List.count_append, List.length_cons]
    omega

/-- A client finds the responses in their replies, exactly if none of them has a line that is the end
mark alone. -/
theorem cut_replies_eq_iff (responses : List String) :
    cut (String.join (responses.map reply)) = responses ↔
      ∀ r ∈ responses, [endMark] ∉ linesOf r := by
  rw [cut, linesOf_replies]
  constructor
  · intro h
    have hlength := congrArg List.length h
    rw [List.length_map, List.length_dropLast, length_splitOn, Nat.add_sub_cancel, count_endMark,
      Nat.add_eq_right, List.count_eq_zero] at hlength
    exact fun r hr hm => hlength (List.mem_flatMap.2 ⟨r, hr, hm⟩)
  · intro h
    rw [splitOn_lines h, List.dropLast_concat, List.map_map]
    exact (List.map_congr_left fun r _ => ofList_intercalate_linesOf r).trans (List.map_id _)

end Tabular.Connection
