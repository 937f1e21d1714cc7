import Tabular.Text.Blank

/-! Splitting a text into the texts of its tokens.

Quoted spans are kept whole. Outside them compound operators and marks stand on their own, and white space
separates what is left into words. -/
namespace Tabular

/-- The texts of the tokens found, and whether the last quoted span is closed. -/
structure Scan where
  texts : List String
  closed : Bool
  deriving DecidableEq, Repr

namespace Scan

def nothing : Scan := ⟨[], true⟩

def unclosed : Scan := ⟨[], false⟩

def before (s : Scan) (token : List Char) : Scan := { s with texts := String.ofList token :: s.texts }

/-- A scan with the word read so far, last character first, in front. -/
def beforeWord (s : Scan) (word : List Char) : Scan := if word.isEmpty then s else s.before word.reverse

end Scan

/-- A character that is always a token or the start of one. -/
def isMark (c : Char) : Bool := c ∈ ['(', ')', ',', ';', '*', '=', '<', '>']

/-- A character that makes a compound operator with an equals sign after it. -/
def opensCompound (c : Char) : Bool := c ∈ ['<', '>', '=', '!']

mutual

/-- Scans outside quotes, after the characters of an unfinished word, last first. -/
def scanWord (word : List Char) : List Char → Scan
  | [] => Scan.nothing.beforeWord word
  | c :: rest =>
    if Text.isBlank c then (scanWord [] rest).beforeWord word
    else if c = '\'' then (scanQuoted [c] rest).beforeWord word
    else match rest with
      | '=' :: rest' =>
        if opensCompound c then ((scanWord [] rest').before [c, '=']).beforeWord word
        else if isMark c then ((scanWord [] ('=' :: rest')).before [c]).beforeWord word
        else scanWord (c :: word) ('=' :: rest')
      | rest' =>
        if isMark c then ((scanWord [] rest').before [c]).beforeWord word
        else scanWord (c :: word) rest'
  termination_by structural cs => cs

/-- Scans inside quotes, after the characters of the span so far, last first. -/
def scanQuoted (span : List Char) : List Char → Scan
  | [] => Scan.unclosed
  | c :: rest =>
    if c = '\'' then (scanWord [] rest).before (c :: span).reverse
    else scanQuoted (c :: span) rest
  termination_by structural cs => cs

end

def scan (s : String) : Scan := scanWord [] s.toList

end Tabular
