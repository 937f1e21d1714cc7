/-! Lines: stretches ended by a line feed, without a carriage return before it. -/
namespace Tabular.Text

/-- The stretches of a list ended by `lf`, after the elements of the first one read so far, last first.
One `cr` before an `lf` goes with it; a last stretch without `lf` is kept as it is unless it is empty. -/
def linesFrom {α : Type} [DecidableEq α] (lf cr : α) (line : List α) : List α → List (List α)
  | [] => if line.isEmpty then [] else [line.reverse]
  | a :: rest =>
    if a = lf then (if line.head? = some cr then line.tail else line).reverse :: linesFrom lf cr [] rest
    else linesFrom lf cr (a :: line) rest

/-- A line without line feeds is read up to the line feed after it. -/
theorem linesFrom_append {α : Type} [DecidableEq α] (lf cr : α) (line l rest : List α) (h : lf ∉ l) :
    linesFrom lf cr line (l ++ lf :: rest) =
      (if (l.reverse ++ line).head? = some cr then (l.reverse ++ line).tail else l.reverse ++ line).reverse ::
        linesFrom lf cr [] rest := by
  induction l generalizing line with
  | nil => rw [List.nil_append, linesFrom, if_pos rfl, List.reverse_nil, List.nil_append]
  | cons a l ih =>
    have ha : a ≠ lf := fun he => h (by simp [he])
    rw [List.cons_append, linesFrom, if_neg ha, ih _ fun hm => h (by simp [hm])]
    simp

def lines (s : String) : List String := (linesFrom '\n' '\r' [] s.toList).map String.ofList

def byteLines (bytes : List UInt8) : List (List UInt8) := linesFrom 10 13 [] bytes

def unlines (ls : List String) : String := String.ofList (ls.flatMap fun l => l.toList ++ ['\n'])

end Tabular.Text
