/-! White space, and text without the white space around it. -/
namespace Tabular.Text

/-- The characters with the White_Space property. -/
def isBlank (c : Char) : Bool :=
  let n := c.toNat
  (0x09 ≤ n && n ≤ 0x0D) || n == 0x20 || n == 0x85 || n == 0xA0 || n == 0x1680 ||
    (0x2000 ≤ n && n ≤ 0x200A) || n == 0x2028 || n == 0x2029 || n == 0x202F || n == 0x205F ||
    n == 0x3000

/-- The characters left when those satisfying `p` are dropped from the end. -/
def dropRight (p : Char → Bool) (cs : List Char) : List Char :=
  (cs.reverse.dropWhile p).reverse

def trim (s : String) : String :=
  String.ofList (dropRight isBlank (s.toList.dropWhile isBlank))

theorem dropRight_append_all (p : Char → Bool) (cs rest : List Char) (h : ∀ c ∈ rest, p c = true) :
    dropRight p (cs ++ rest) = dropRight p cs := by
  simp only [dropRight, List.reverse_append]
  congr 1
  rw [List.dropWhile_append_of_pos]
  simpa using h

end Tabular.Text
