import XsdDerivation.Text.Reader

/-!
# Blanks, comments and line ends in TOML
-/

namespace XsdDerivation.Toml

open Text Text.Reader

/-- A space or a tab. -/
def isBlank (c : Char) : Bool :=
  c == ' ' || c == '\t'

/-- A character that may stand on a line: not a control character, except for the tab. -/
def isPrintable (c : Char) : Bool :=
  c == '\t' || (0x20 ≤ c.toNat && c.toNat ≤ 0x7E) || 0x80 ≤ c.toNat

/-- Reads spaces and tabs, if there are any. -/
def blanks : Reader Unit := do
  let _ ← takeWhile isBlank

/-- Reads the end of a line: a line feed, with or without a carriage return before it. -/
def newline : Reader Unit :=
  exactly '\n' <|> literal ['\r', '\n']

/-- Reads a comment up to the end of its line. -/
def comment : Reader Unit := do
  exactly '#'
  let _ ← takeWhile isPrintable

/-- Reads what may follow a statement on its line, and the end of the line or the text. -/
def lineEnd : Reader Unit := do
  blanks
  let _ ← optional comment
  newline <|> atEnd

/-- Reads the blanks, line ends and comments that may stand between the items of an array. -/
def spacing : Reader Unit := do
  let _ ← many (skip isBlank <|> newline <|> (do comment; newline))

end XsdDerivation.Toml
