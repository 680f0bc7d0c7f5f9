/-!
# Readers

A reader takes characters from the front of a text and gives a value, or fails and takes
nothing. Readers are put together in sequence by `do`, as alternatives by `<|>`, and repeated.
-/

namespace XsdDerivation.Text

/-- A reader of values from a list of characters. The state is what has not been read. -/
abbrev Reader (α : Type) := StateT (List Char) Option α

namespace Reader

/-- Reads one character of a class. -/
def char (accept : Char → Bool) : Reader Char
  | [] => none
  | c :: rest => if accept c then some (c, rest) else none

/-- Reads one character of a class and forgets it. -/
def skip (accept : Char → Bool) : Reader Unit := do
  let _ ← char accept

/-- Reads this character. -/
def exactly (c : Char) : Reader Unit :=
  skip (· == c)

/-- Reads these characters. -/
def literal : List Char → Reader Unit
  | [] => pure ()
  | c :: rest => do
    exactly c
    literal rest

/-- Reads all characters up to the first one outside a class. -/
def takeWhile (accept : Char → Bool) : Reader (List Char) := fun input =>
  some (input.takeWhile accept, input.dropWhile accept)

/-- Reads at least one character, up to the first one outside a class. -/
def takeWhile1 (accept : Char → Bool) : Reader (List Char) := do
  let first ← char accept
  let rest ← takeWhile accept
  pure (first :: rest)

/-- Reads this many characters of a class. -/
def count (accept : Char → Bool) : Nat → Reader (List Char)
  | 0 => pure []
  | n + 1 => do
    let first ← char accept
    let rest ← count accept n
    pure (first :: rest)

/-- Succeeds where a reader would, and takes nothing. -/
def lookAhead {α : Type} (reader : Reader α) : Reader Unit := fun input =>
  (reader input).map fun _ => ((), input)

/-- Succeeds at the end of the text. -/
def atEnd : Reader Unit
  | [] => some ((), [])
  | _ :: _ => none

/-- Reads as often as possible, at most `limit` times. -/
def upTo {α : Type} (limit : Nat) (reader : Reader α) : Reader (List α) :=
  match limit with
  | 0 => pure []
  | limit + 1 =>
    (do
      let first ← reader
      let rest ← upTo limit reader
      pure (first :: rest)) <|> pure []

/-- Reads as often as possible. A reader that takes at least one character each time cannot
succeed more often than there are characters. -/
def many {α : Type} (reader : Reader α) : Reader (List α) := fun input =>
  upTo input.length reader input

/-- Reads one item or more with separators between them. -/
def separated1 {α : Type} (separator : Reader Unit) (item : Reader α) : Reader (List α) := do
  let first ← item
  let rest ← many (do
    separator
    item)
  pure (first :: rest)

/-- Reads items with separators between them, or nothing. -/
def separated {α : Type} (separator : Reader Unit) (item : Reader α) : Reader (List α) :=
  separated1 separator item <|> pure []

/-- The value that a reader gives for a whole text. -/
def run? {α : Type} (reader : Reader α) (input : List Char) : Option α :=
  match reader input with
  | some (value, []) => some value
  | _ => none

end Reader

end XsdDerivation.Text
