import Tabular.Session.Execution
import Tabular.Text.Lines
import Tabular.Text.Utf8

/-! Connections: each line received is a statement, each reply a response and a line with an end mark. -/
namespace Tabular.Connection
variable {σ : Type} [Storage σ]

/-- The character that stands alone on the last line of a reply. -/
def endMark : Char := '\x04'

/-- The statement in a received line; bytes that are not text are replaced. -/
def statementOf (line : List UInt8) : String :=
  String.ofList (Text.dropRight (fun c => c == '\n' || c == '\r') (Text.Utf8.decodeLossy line).toList)

def reply (response : String) : String := s!"{response}\n{endMark}\n"

/-- The text sent back for received lines, and the session after them. -/
def answerLines (s : Session σ) : List (List UInt8) → String × Session σ
  | [] => ("", s)
  | line :: rest =>
    let (response, s) := s.respond (statementOf line)
    let (replies, s) := answerLines s rest
    (reply response ++ replies, s)

def answer (s : Session σ) (bytes : List UInt8) : String × Session σ := answerLines s (Text.byteLines bytes)

def answerAll (s : Session σ) : List (List UInt8) → List String
  | [] => []
  | bytes :: rest =>
    let (text, s) := answer s bytes
    text :: answerAll s rest

end Tabular.Connection
