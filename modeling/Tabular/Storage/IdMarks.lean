import Tabular.Storage.Basic

/-! Encoded id marks: their number, then each name after its length, and its mark.
Numbers take eight bytes, the lowest first. -/
namespace Tabular.IdMarks

/-- The lowest `count` bytes of a number, the lowest first. -/
def littleEndian : Nat → Nat → List UInt8
  | 0, _ => []
  | count + 1, n => UInt8.ofNat (n % 256) :: littleEndian count (n / 256)

def encodeNumber (n : Nat) : List UInt8 := littleEndian 8 n

def encodeEntry (e : String × UInt64) : List UInt8 :=
  let name := Text.Utf8.encode e.1
  encodeNumber name.length ++ name ++ encodeNumber e.2.toNat

def encode (marks : IdMarks) : List UInt8 :=
  encodeNumber marks.entries.length ++ marks.entries.flatMap encodeEntry

def ofLittleEndian (bytes : List UInt8) : Nat := bytes.foldr (fun b n => b.toNat + 256 * n) 0

def decodeNumber (bytes : List UInt8) : Except MarksFault (Nat × List UInt8) :=
  if bytes.length < 8 then .error .truncated else .ok (ofLittleEndian (bytes.take 8), bytes.drop 8)

def decodeEntry (bytes : List UInt8) : Except MarksFault ((String × UInt64) × List UInt8) := do
  let (length, rest) ← decodeNumber bytes
  if rest.length < length then throw .overlong
  let name ← (Text.Utf8.decode (rest.take length)).mapError .badName
  let (mark, rest) ← decodeNumber (rest.drop length)
  pure ((name, UInt64.ofNat mark), rest)

/-- A number of entries added to marks; of two with one name the later stays. -/
def decodeEntries : Nat → IdMarks → List UInt8 → Except MarksFault IdMarks
  | 0, marks, _ => .ok marks
  | count + 1, marks, bytes => do
    let ((name, mark), rest) ← decodeEntry bytes
    decodeEntries count (marks.insert name mark) rest

/-- The id marks that bytes encode; bytes after them are ignored. -/
def decode (bytes : List UInt8) : Except MarksFault IdMarks := do
  let (count, rest) ← decodeNumber bytes
  decodeEntries count ∅ rest

end Tabular.IdMarks
