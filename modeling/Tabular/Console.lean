import Tabular.Session.Execution
import Tabular.Text.Lines
import Tabular.Text.Utf8

/-! The interactive console: lines are joined into statements, and a line that ends in a semicolon completes one. -/
namespace Tabular

/-- A session, and the part of a statement that is typed. -/
structure Console (σ : Type) where
  session : Session σ
  typed : String := ""

inductive Console.Next (σ : Type) where
  | stop
  /-- Goes on, after writing some text. -/
  | go (output : String) (console : Console σ)

namespace Console
variable {σ : Type} [Storage σ]

def prompt {σ : Type} (c : Console σ) : String := if c.typed.isEmpty then "tabdb> " else "   ... "

def extend (typed line : String) : String := if typed.isEmpty then line else typed ++ " " ++ line

def enter (c : Console σ) (line : String) : Next σ :=
  let input := Text.trim line
  if c.typed.isEmpty && (input == ".exit" || input == ".quit") then .stop
  else
    let typed := extend c.typed input
    if input.toList.getLast? = some ';' then
      let (response, session) := c.session.respond typed
      .go (response ++ "\n") { session }
    else .go "" { c with typed }

structure Outcome (σ : Type) where
  exitCode : Nat
  output : String
  session : Session σ

/-- Runs the console on lines of input until they end, a line is not text, or one says to stop. -/
def runLines (c : Console σ) : List (List UInt8) → Outcome σ
  | [] => ⟨0, c.prompt, c.session⟩
  | line :: rest =>
    match Text.Utf8.decode line with
    | .error _ => ⟨1, c.prompt, c.session⟩
    | .ok text =>
      match c.enter text with
      | .stop => ⟨0, c.prompt, c.session⟩
      | .go output c' =>
        let o := runLines c' rest
        { o with output := c.prompt ++ output ++ o.output }

/-- Runs the console on bytes of input, from a new session over storage. -/
def run (storage : σ) (input : List UInt8) : Outcome σ := runLines { session := { storage } } (Text.byteLines input)

end Console

end Tabular
