import XsdDerivation.Decimal.Basic
import XsdDerivation.Toml.Blank

/-!
# Texts in TOML

Basic texts stand between double quotes and know escapes; literal texts stand between single
quotes and do not. Between three quotes a text may run over several lines.
-/

namespace XsdDerivation.Toml

open Text Text.Reader

/-- The character that a code point stands for. Surrogates stand for none. -/
def scalarValue? (code : Nat) : Option Char :=
  if code.isValidChar then some (Char.ofNat code) else none

/-- A hexadecimal digit. -/
def isHexDigit (c : Char) : Bool :=
  c.isDigit || ('a' ≤ c && c ≤ 'f') || ('A' ≤ c && c ≤ 'F')

/-- Reads a character given by this many hexadecimal digits. -/
def codePoint (digits : Nat) : Reader Char := do
  let code ← count isHexDigit digits
  match scalarValue? (Decimal.ofDigits 16 Decimal.digitValue code) with
  | some c => pure c
  | none => failure

/-- Reads an escape and gives the character that it stands for. -/
def escape : Reader Char := do
  exactly '\\'
  let c ← char fun _ => true
  match c with
  | 'b' => pure '\x08'
  | 'f' => pure '\x0c'
  | 'n' => pure '\n'
  | 'r' => pure '\r'
  | 't' => pure '\t'
  | '"' => pure '"'
  | '\\' => pure '\\'
  | 'u' => codePoint 4
  | 'U' => codePoint 8
  | _ => failure

/-- A character that stands for itself in a basic text. -/
def isBasic (c : Char) : Bool :=
  isPrintable c && c != '"' && c != '\\'

/-- A character that stands for itself in a literal text. -/
def isLiteral (c : Char) : Bool :=
  isPrintable c && c != '\''

/-- Reads a basic text on one line. -/
def basicText : Reader (List Char) := do
  exactly '"'
  let content ← many (char isBasic <|> escape)
  exactly '"'
  pure content

/-- Reads a literal text on one line. -/
def literalText : Reader (List Char) := do
  exactly '\''
  let content ← takeWhile isLiteral
  exactly '\''
  pure content

/-- Reads a backslash at the end of a line with all blanks and line ends after it. It stands
for nothing. -/
def continuation : Reader (List Char) := do
  exactly '\\'
  blanks
  newline
  let _ ← many (skip isBlank <|> newline)
  pure []

/-- Reads a line end inside a text. It stands for a line feed. -/
def lineFeed : Reader (List Char) := do
  newline
  pure ['\n']

/-- Reads the content of a text between three quotes. One or two quotes are content too,
before more content and before the three quotes that end the text. -/
def multilineContent (quote : Char) (item : Reader (List Char)) : Reader (List Char) := do
  let quotes (following : Reader Unit) : Reader (List Char) :=
    (do
      literal [quote, quote]
      lookAhead following
      pure [quote, quote]) <|>
    (do
      exactly quote
      lookAhead following
      pure [quote])
  let delimiter := literal [quote, quote, quote]
  let content ← many (item <|> quotes (do let _ ← item))
  let final ← optional (quotes delimiter)
  delimiter
  pure (content.flatten ++ final.getD [])

/-- Reads a text between three quotes. A line end right after the opening quotes is dropped. -/
def multiline (quote : Char) (item : Reader (List Char)) : Reader (List Char) := do
  literal [quote, quote, quote]
  let _ ← optional newline
  multilineContent quote item

/-- Reads a basic text over several lines. -/
def multilineBasicText : Reader (List Char) :=
  multiline '"' (takeWhile1 isBasic <|> continuation <|> (do let c ← escape; pure [c]) <|> lineFeed)

/-- Reads a literal text over several lines. -/
def multilineLiteralText : Reader (List Char) :=
  multiline '\'' (takeWhile1 isLiteral <|> lineFeed)

/-- Reads a text of any of the four kinds. -/
def text : Reader (List Char) :=
  multilineBasicText <|> basicText <|> multilineLiteralText <|> literalText

end XsdDerivation.Toml
