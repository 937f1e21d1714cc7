import Tabular.Connection
import Tabular.Proofs.Session.Run
import Tabular.Proofs.Text.Lossy

/-! What a connection makes of the bytes that it receives: a statement of each line. -/
namespace Tabular.Connection
open Text.Utf8

def extend (front : List UInt8) : List (List UInt8) → List (List UInt8)
  | [] => [front]
  | piece :: more => (front ++ piece) :: more

/-- The pieces of received bytes: each ends with a line feed, but the last, which is not empty, may
end without one. -/
def pieces : List UInt8 → List (List UInt8)
  | [] => []
  | b :: rest => if b = 10 then [b] :: pieces rest else extend [b] (pieces rest)

theorem flatten_extend (front : List UInt8) (more : List (List UInt8)) :
    (extend front more).flatten = front ++ more.flatten := by
  cases more <;> simp [extend]

theorem extend_extend (front next : List UInt8) (more : List (List UInt8)) :
    extend front (extend next more) = extend (front ++ next) more := by
  cases more <;> simp [extend]

/-- No byte is lost or added. -/
theorem flatten_pieces (bytes : List UInt8) : (pieces bytes).flatten = bytes := by
  induction bytes with
  | nil => rfl
  | cons b rest ih =>
    rw [pieces]
    split
    · rw [List.flatten_cons, ih]
      rfl
    · rw [flatten_extend, ih]
      rfl

/-- A piece has a line feed at its end alone. -/
theorem exists_of_mem_pieces {bytes piece : List UInt8} (h : piece ∈ pieces bytes) :
    ∃ line, 10 ∉ line ∧ (piece = line ++ [10] ∨ piece = line ∧ line ≠ []) := by
  induction bytes generalizing piece with
  | nil => cases h
  | cons b rest ih =>
    rw [pieces] at h
    split at h
    · next hb =>
      rcases List.mem_cons.1 h with rfl | h
      · exact ⟨[], List.not_mem_nil, .inl (by rw [hb]; rfl)⟩
      · exact ih h
    · next hb =>
      cases hrest : pieces rest with
      | nil =>
        rw [hrest] at h
        obtain rfl := List.mem_singleton.1 h
        exact ⟨[b], fun hm => hb (List.mem_singleton.1 hm).symm, .inr ⟨rfl, List.cons_ne_nil _ _⟩⟩
      | cons first more =>
        rw [hrest] at h ih
        rcases List.mem_cons.1 h with rfl | h
        · obtain ⟨line, hline, hpiece⟩ := ih (List.mem_cons_self ..)
          refine ⟨b :: line, fun hm => ?_, ?_⟩
          · rcases List.mem_cons.1 hm with hm | hm
            · exact hb hm.symm
            · exact hline hm
          · rcases hpiece with rfl | ⟨rfl, -⟩
            · exact .inl rfl
            · exact .inr ⟨rfl, List.cons_ne_nil _ _⟩
        · exact ih (List.mem_cons_of_mem _ h)

theorem statementOf_append_break {b : UInt8} (hb : b = 10 ∨ b = 13) (line : List UInt8) :
    statementOf (line ++ [b]) = statementOf line := by
  have hlt : b.toNat < 0x80 := by rcases hb with rfl | rfl <;> decide
  have hdecoded : (decodeLossy (line ++ [b])).toList =
      (decodeLossy line).toList ++ [Char.ofNat b.toNat] := by
    rw [toList_decodeLossy, toList_decodeLossy]
    exact shown_piecesFrom_append open_none hlt line []
  rw [statementOf, statementOf, hdecoded, Text.dropRight_append_all]
  intro c hc
  obtain rfl := List.mem_singleton.1 hc
  rcases hb with rfl | rfl <;> decide

theorem statementOf_line (line : List UInt8) :
    statementOf (if line.head? = some 13 then line.tail else line).reverse =
      statementOf (line.reverse ++ [10]) := by
  rw [statementOf_append_break (.inl rfl)]
  split
  · next hcr =>
    obtain ⟨rest, rfl⟩ : ∃ rest, line = 13 :: rest := List.head?_eq_some_iff.1 hcr
    rw [List.reverse_cons, statementOf_append_break (.inr rfl), List.tail_cons]
  · rfl

/-- The statements of the lines that are read, after the bytes of the first one read so far, are
those of the pieces. -/
theorem map_statementOf_linesFrom (line bytes : List UInt8) :
    (Text.linesFrom 10 13 line bytes).map statementOf =
      (if line.isEmpty then pieces bytes else extend line.reverse (pieces bytes)).map
        statementOf := by
  induction bytes generalizing line with
  | nil =>
    rw [Text.linesFrom]
    cases line <;> rfl
  | cons b rest ih =>
    rw [Text.linesFrom, pieces]
    by_cases hb : b = 10
    · rw [if_pos hb, if_pos hb, List.map_cons, statementOf_line, ih]
      cases line with
      | nil => rw [hb]; rfl
      | cons c before => rw [hb]; rfl
    · rw [if_neg hb, if_neg hb, ih]
      cases line with
      | nil => rfl
      | cons c before =>
        rw [extend_extend, List.reverse_cons]
        rfl

theorem map_statementOf_byteLines (bytes : List UInt8) :
    (Text.byteLines bytes).map statementOf = (pieces bytes).map statementOf :=
  map_statementOf_linesFrom [] bytes

/-- The statement of a piece has no line feed. -/
theorem lf_notMem_statementOf {bytes piece : List UInt8} (h : piece ∈ pieces bytes) :
    '\n' ∉ (statementOf piece).toList := by
  obtain ⟨line, hline, hpiece⟩ := exists_of_mem_pieces h
  have hstatement : statementOf piece = statementOf line := by
    rcases hpiece with rfl | ⟨rfl, -⟩
    · exact statementOf_append_break (.inl rfl) line
    · rfl
  rw [hstatement, statementOf, String.toList_ofList, Text.dropRight]
  intro hm
  have hdecoded : '\n' ∈ (decodeLossy line).toList := by
    have := (List.dropWhile_sublist _).subset (List.mem_reverse.1 hm)
    exact List.mem_reverse.1 this
  rw [toList_decodeLossy] at hdecoded
  exact hline (mem_of_mem_shown open_none (by decide) (by decide) hdecoded)

variable {σ : Type} [Storage σ]

/-- The text sent back is one reply for each line, in order, with the response to its statement. -/
theorem answer_eq (s : Session σ) (bytes : List UInt8) :
    answer s bytes =
      (String.join ((s.responses ((pieces bytes).map statementOf)).map reply),
        s.receive ((pieces bytes).map statementOf)) := by
  rw [answer, ← map_statementOf_byteLines]
  generalize Text.byteLines bytes = lines
  induction lines generalizing s with
  | nil => rfl
  | cons line rest ih =>
    rw [answerLines]
    dsimp only
    rw [ih, List.map_cons, Session.responses, List.map_cons, String.join_cons,
      Session.receive_cons]

end Tabular.Connection
