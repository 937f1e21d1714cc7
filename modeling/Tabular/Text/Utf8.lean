/-! UTF-8: encoding, and decoding that says where and how bytes are not text. -/
namespace Tabular.Text.Utf8

/-- A continuation byte carrying six bits of `n`. -/
def continuation (n : Nat) : UInt8 := UInt8.ofNat (0x80 + n % 0x40)

def encodeChar (c : Char) : List UInt8 :=
  let n := c.toNat
  if n < 0x80 then [UInt8.ofNat n]
  else if n < 0x800 then [UInt8.ofNat (0xC0 + n / 0x40), continuation n]
  else if n < 0x10000 then [UInt8.ofNat (0xE0 + n / 0x1000), continuation (n / 0x40), continuation n]
  else [UInt8.ofNat (0xF0 + n / 0x40000), continuation (n / 0x1000), continuation (n / 0x40), continuation n]

def encode (s : String) : List UInt8 := s.toList.flatMap encodeChar

/-- A character whose first `seen` bytes are read: `missing` more follow, the next between `low` and `high`. -/
structure Unfinished where
  value : Nat
  seen : Nat
  missing : Nat
  low : UInt8
  high : UInt8

/-- What a stretch of bytes decodes to. -/
inductive Piece where
  | char (c : Char)
  /-- Bytes that begin no character, as many as could have begun one. -/
  | broken (length : Nat)
  /-- The bytes end inside a character. -/
  | cut

/-- A first byte: a character, a byte that begins none, or the start of a longer character. -/
def start (b : UInt8) : List Piece × Option Unfinished :=
  let n := b.toNat
  if n < 0x80 then ([.char (Char.ofNat n)], none)
  else if n < 0xC2 then ([.broken 1], none)
  else if n < 0xE0 then ([], some ⟨n - 0xC0, 1, 1, 0x80, 0xBF⟩)
  else if n < 0xF0 then
    ([], some ⟨n - 0xE0, 1, 2, if n = 0xE0 then 0xA0 else 0x80, if n = 0xED then 0x9F else 0xBF⟩)
  else if n < 0xF5 then
    ([], some ⟨n - 0xF0, 1, 3, if n = 0xF0 then 0x90 else 0x80, if n = 0xF4 then 0x8F else 0xBF⟩)
  else ([.broken 1], none)

def piecesFrom : Option Unfinished → List UInt8 → List Piece
  | none, [] => []
  | some _, [] => [.cut]
  | none, b :: rest => (start b).1 ++ piecesFrom (start b).2 rest
  | some u, b :: rest =>
    if u.low ≤ b && b ≤ u.high then
      let value := u.value * 0x40 + (b.toNat - 0x80)
      if u.missing ≤ 1 then .char (Char.ofNat value) :: piecesFrom none rest
      else piecesFrom (some ⟨value, u.seen + 1, u.missing - 1, 0x80, 0xBF⟩) rest
    else .broken u.seen :: ((start b).1 ++ piecesFrom (start b).2 rest)

def pieces (bytes : List UInt8) : List Piece := piecesFrom none bytes

/-- The first place where bytes are not text. -/
inductive Fault where
  | broken (length index : Nat)
  | cut (index : Nat)
  deriving DecidableEq, Repr

/-- The characters of pieces without damage, the first of which stands at byte `index`. -/
def charsFrom (index : Nat) : List Piece → Except Fault (List Char)
  | [] => .ok []
  | .char c :: rest => (charsFrom (index + c.utf8Size) rest).map (c :: ·)
  | .broken length :: _ => .error (.broken length index)
  | .cut :: _ => .error (.cut index)

def decode (bytes : List UInt8) : Except Fault String :=
  (charsFrom 0 (pieces bytes)).map String.ofList

/-- The text of bytes with each damaged stretch replaced by U+FFFD. -/
def decodeLossy (bytes : List UInt8) : String :=
  String.ofList ((pieces bytes).map fun
    | .char c => c
    | _ => '\uFFFD')

def Fault.message : Fault → String
  | .broken length index => s!"invalid utf-8 sequence of {length} bytes from index {index}"
  | .cut index => s!"incomplete utf-8 byte sequence from index {index}"

end Tabular.Text.Utf8
