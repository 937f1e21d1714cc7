import Mathlib.Algebra.Group.Nat.Defs
import Mathlib.Data.List.Basic
import Tabular.Storage.IdMarks
import Tabular.Text.Utf8.RoundTrip

/-! Encoded id marks are read back, whatever bytes come after them. -/
namespace Tabular.IdMarks

theorem ofLittleEndian_littleEndian (count n : Nat) (h : n < 256 ^ count) :
    ofLittleEndian (littleEndian count n) = n := by
  induction count generalizing n with
  | zero =>
    have hn : n = 0 := by simpa using h
    rw [hn]
    rfl
  | succ count ih =>
    have hdiv : n / 256 < 256 ^ count := by
      apply Nat.div_lt_of_lt_mul
      rwa [Nat.pow_succ, Nat.mul_comm] at h
    have hbyte : (UInt8.ofNat (n % 256)).toNat = n % 256 := by
      rw [UInt8.toNat_ofNat']
      omega
    change (UInt8.ofNat (n % 256)).toNat + 256 * ofLittleEndian (littleEndian count (n / 256)) = n
    rw [ih _ hdiv, hbyte]
    omega

theorem length_littleEndian (count n : Nat) : (littleEndian count n).length = count := by
  induction count generalizing n with
  | zero => rfl
  | succ count ih => rw [littleEndian, List.length_cons, ih]

theorem length_encodeNumber (n : Nat) : (encodeNumber n).length = 8 := length_littleEndian 8 n

theorem decodeNumber_encodeNumber {n : Nat} (h : n < 2 ^ 64) (rest : List UInt8) :
    decodeNumber (encodeNumber n ++ rest) = .ok (n, rest) := by
  have hlength := length_encodeNumber n
  have htake : (encodeNumber n ++ rest).take 8 = encodeNumber n := by rw [← hlength, List.take_left]
  have hdrop : (encodeNumber n ++ rest).drop 8 = rest := by rw [← hlength, List.drop_left]
  have hvalue : ofLittleEndian (encodeNumber n) = n := ofLittleEndian_littleEndian 8 n h
  have hlong : ¬(encodeNumber n ++ rest).length < 8 := by
    rw [List.length_append, hlength]
    omega
  rw [decodeNumber, if_neg hlong, htake, hdrop, hvalue]

private theorem ok_bind {ε α β : Type} (a : α) (f : α → Except ε β) : (Except.ok a >>= f) = f a :=
  rfl

theorem decodeEntry_encodeEntry {e : String × UInt64} (h : (Text.Utf8.encode e.1).length < 2 ^ 64)
    (rest : List UInt8) : decodeEntry (encodeEntry e ++ rest) = .ok (e, rest) := by
  obtain ⟨name, mark⟩ := e
  have hmark : mark.toNat < 2 ^ 64 := mark.toNat_lt
  have hbytes : encodeEntry (name, mark) ++ rest = encodeNumber (Text.Utf8.encode name).length ++
      (Text.Utf8.encode name ++ (encodeNumber mark.toNat ++ rest)) := by
    simp only [encodeEntry, List.append_assoc]
  have hlong : ¬(Text.Utf8.encode name ++ (encodeNumber mark.toNat ++ rest)).length <
      (Text.Utf8.encode name).length := by
    rw [List.length_append]
    omega
  rw [hbytes, decodeEntry, decodeNumber_encodeNumber h, ok_bind]
  dsimp only
  rw [if_neg hlong, List.take_left, List.drop_left, Text.Utf8.decode_encode, Except.mapError,
    ok_bind, decodeNumber_encodeNumber hmark, ok_bind, UInt64.ofNat_toNat]
  rfl

theorem decodeEntries_flatMap {entries : List (String × UInt64)}
    (h : ∀ e ∈ entries, (Text.Utf8.encode e.1).length < 2 ^ 64) (marks : IdMarks)
    (rest : List UInt8) :
    decodeEntries entries.length marks (entries.flatMap encodeEntry ++ rest) =
      .ok (entries.foldl (fun marks e => marks.insert e.1 e.2) marks) := by
  induction entries generalizing marks with
  | nil => rfl
  | cons e entries ih =>
    rw [List.length_cons, List.flatMap_cons, List.append_assoc, decodeEntries,
      decodeEntry_encodeEntry (h e (by simp))]
    exact ih (fun e he => h e (by simp [he])) _

end Tabular.IdMarks

namespace Tabular.SortedMap

/-- Entries that are added in order are found. -/
theorem get?_foldl_insert {α : Type} {l : List (String × α)} (h : l.Pairwise fun a b => a.1 < b.1)
    (m : SortedMap String α) (k : String) :
    (l.foldl (fun m e => m.insert e.1 e.2) m).get? k = (find k l).or (m.get? k) := by
  induction l generalizing m with
  | nil => rfl
  | cons e l ih =>
    obtain ⟨hlt, hl⟩ := List.pairwise_cons.1 h
    rw [List.foldl_cons, ih hl, get?_insert, find]
    by_cases hk : e.1 = k
    · have hnone : find k l = none :=
        find_eq_none fun e' he' h' => Std.lt_irrefl (h' ▸ hk ▸ hlt e' he')
      rw [hnone, if_pos hk, if_pos hk.symm]
      rfl
    · rw [if_neg hk, if_neg (Ne.symm hk)]

theorem foldl_insert_entries {α : Type} (m : SortedMap String α) :
    m.entries.foldl (fun m e => m.insert e.1 e.2) ∅ = m := by
  ext k
  rw [get?_foldl_insert m.sorted, get?_empty, Option.or_none]
  rfl

end Tabular.SortedMap

namespace Tabular.IdMarks

/-- Marks of fewer than `2 ^ 64` tables, whose names are shorter than that, can be read back. -/
theorem decode_encode_append {marks : IdMarks} (hcount : marks.entries.length < 2 ^ 64)
    (h : ∀ e ∈ marks.entries, (Text.Utf8.encode e.1).length < 2 ^ 64) (rest : List UInt8) :
    decode (encode marks ++ rest) = .ok marks := by
  rw [encode, List.append_assoc, decode, decodeNumber_encodeNumber hcount, ok_bind]
  dsimp only
  rw [decodeEntries_flatMap h, SortedMap.foldl_insert_entries]

section Cut
variable {bytes missing : List UInt8}

/-- Of two ways to part a list, the first part of the one goes on from that of the other. -/
theorem exists_of_append_eq {a b : List UInt8} (h : a ++ b = bytes ++ missing)
    (hlength : a.length ≤ bytes.length) : ∃ rest, bytes = a ++ rest ∧ b = rest ++ missing := by
  rcases List.append_eq_append_iff.1 h with hlong | ⟨rest, rfl, rfl⟩
  · exact hlong
  · have hrest : rest = [] := by
      rw [← List.length_eq_zero_iff]
      rw [List.length_append] at hlength
      omega
    subst hrest
    exact ⟨[], by simp, rfl⟩

theorem decodeNumber_of_lt (h : bytes.length < 8) : decodeNumber bytes = .error .truncated :=
  if_pos h

/-- A number of which some bytes are missing is not read. -/
theorem decodeNumber_cut {n : Nat} (h : encodeNumber n = bytes ++ missing) (hmissing : missing ≠ []) :
    decodeNumber bytes = .error .truncated := by
  have hlength := length_encodeNumber n
  have hpos := List.length_pos_iff.2 hmissing
  rw [h, List.length_append] at hlength
  exact decodeNumber_of_lt (by omega)

theorem decodeEntry_cut {e : String × UInt64} (hname : (Text.Utf8.encode e.1).length < 2 ^ 64)
    (h : encodeEntry e = bytes ++ missing) (hmissing : missing ≠ []) :
    ∃ fault, decodeEntry bytes = .error fault := by
  obtain ⟨name, mark⟩ := e
  rw [encodeEntry, List.append_assoc] at h
  -- The bytes break off in the length of the name, in the name, or in the mark.
  by_cases hnumber : bytes.length < 8
  · exact ⟨.truncated, by rw [decodeEntry, decodeNumber_of_lt hnumber]; rfl⟩
  have hlength : (encodeNumber (Text.Utf8.encode name).length).length ≤ bytes.length := by
    rw [length_encodeNumber]
    exact Nat.not_lt.1 hnumber
  obtain ⟨rest, rfl, hrest⟩ := exists_of_append_eq h hlength
  rw [decodeEntry, decodeNumber_encodeNumber hname, ok_bind]
  dsimp only
  by_cases hlong : rest.length < (Text.Utf8.encode name).length
  · exact ⟨.overlong, by rw [if_pos hlong]; rfl⟩
  obtain ⟨rest, rfl, hmark⟩ := exists_of_append_eq hrest (Nat.not_lt.1 hlong)
  refine ⟨.truncated, ?_⟩
  rw [if_neg hlong, List.take_left, List.drop_left, Text.Utf8.decode_encode, Except.mapError, ok_bind,
    decodeNumber_cut hmark hmissing]
  rfl

theorem decodeEntries_cut {entries : List (String × UInt64)}
    (hnames : ∀ e ∈ entries, (Text.Utf8.encode e.1).length < 2 ^ 64) (marks : IdMarks)
    (h : entries.flatMap encodeEntry = bytes ++ missing) (hmissing : missing ≠ []) :
    ∃ fault, decodeEntries entries.length marks bytes = .error fault := by
  induction entries generalizing bytes marks with
  | nil => exact (hmissing (List.append_eq_nil_iff.1 h.symm).2).elim
  | cons e entries ih =>
    obtain ⟨hname, hnames⟩ := List.forall_mem_cons.1 hnames
    rw [List.flatMap_cons] at h
    rw [List.length_cons, decodeEntries]
    -- The first entry is whole, and the cut is after it, or the cut is in it.
    by_cases hentry : (encodeEntry e).length ≤ bytes.length
    · obtain ⟨rest, rfl, hrest⟩ := exists_of_append_eq h hentry
      rw [decodeEntry_encodeEntry hname, ok_bind]
      exact ih hnames _ hrest
    · obtain ⟨missing', he, -⟩ := exists_of_append_eq h.symm (by omega)
      have hmissing' : missing' ≠ [] := by
        rintro rfl
        rw [he, List.append_nil] at hentry
        exact hentry (Nat.le_refl _)
      obtain ⟨fault, hfault⟩ := decodeEntry_cut hname he hmissing'
      exact ⟨fault, by rw [hfault]; rfl⟩

/-- Encoded marks of which some bytes are missing are not read. -/
theorem decode_cut {marks : IdMarks} (hcount : marks.entries.length < 2 ^ 64)
    (hnames : ∀ e ∈ marks.entries, (Text.Utf8.encode e.1).length < 2 ^ 64)
    (h : encode marks = bytes ++ missing) (hmissing : missing ≠ []) :
    ∃ fault, decode bytes = .error fault := by
  rw [encode] at h
  by_cases hnumber : bytes.length < 8
  · exact ⟨.truncated, by rw [decode, decodeNumber_of_lt hnumber]; rfl⟩
  have hlength : (encodeNumber marks.entries.length).length ≤ bytes.length := by
    rw [length_encodeNumber]
    exact Nat.not_lt.1 hnumber
  obtain ⟨rest, rfl, hrest⟩ := exists_of_append_eq h hlength
  rw [decode, decodeNumber_encodeNumber hcount, ok_bind]
  exact decodeEntries_cut hnames ∅ hrest hmissing

end Cut

end Tabular.IdMarks
