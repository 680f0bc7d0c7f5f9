import XsdDerivation.Toml.Moment
import XsdDerivation.Toml.Table

/-!
# TOML documents

A document is a sequence of statements, each on lines of its own: keys with values, headers of
tables, and headers of items of arrays of tables. What stands before the first header belongs
to the document itself, what follows a header to its table.
-/

namespace XsdDerivation.Toml

open Text Text.Reader

/-- A key may have fewer parts than this, and arrays and inline tables fewer levels. -/
def depthLimit : Nat := 80

/-- A character of a key without quotes. -/
def isBare (c : Char) : Bool :=
  c.isAlphanum || c == '_' || c == '-'

/-- Reads one part of a key. -/
def keyPart : Reader String := do
  let part ← basicText <|> literalText <|> takeWhile1 isBare
  pure (String.ofList part)

/-- Reads a dotted key: the parts before the last one, and the last one. -/
def dottedKey : Reader (List String × String) := do
  let parts ← separated1 (exactly '.') (do
    blanks
    let part ← keyPart
    blanks
    pure part)
  match parts.getLast? with
  | some key => if parts.length < depthLimit then pure (parts.dropLast, key) else failure
  | none => failure

/-- Reads a key and its value. -/
def assignment (value : Reader Value) : Reader Assignment := do
  let (path, key) ← dottedKey
  exactly '='
  blanks
  let value ← value
  pure ⟨path, key, value⟩

/-- Reads an array. -/
def array (item : Reader Value) : Reader Value := do
  exactly '['
  let items ← separated (exactly ',') (do
    spacing
    let value ← item
    spacing
    pure value)
  if !items.isEmpty then
    let _ ← optional (exactly ',')
  spacing
  exactly ']'
  pure (.array items)

/-- Reads an inline table. -/
def inlineTable (item : Reader Value) : Reader Value := do
  exactly '\x7b'
  let assignments ← separated (exactly ',') (do
    let pair ← assignment item
    blanks
    pure pair)
  blanks
  exactly '\x7d'
  match Entries.assignAll [] assignments with
  | some entries => pure (.table .inline entries)
  | none => failure

/-- Reads a truth value. -/
def boolean : Reader Bool :=
  (do literal ['t', 'r', 'u', 'e']; pure true) <|>
  (do literal ['f', 'a', 'l', 's', 'e']; pure false)

/-- Reads a value without parts. -/
def simpleValue : Reader Value :=
  (do let content ← text; pure (.string (String.ofList content))) <|>
  (do let truth ← boolean; pure (.boolean truth)) <|>
  (do let written ← moment; pure (.moment (String.ofList written))) <|>
  (do let number ← float; pure (.float number)) <|>
  (do let number ← integer; pure (.integer number))

/-- Reads a value with at most this many levels of arrays and inline tables. -/
def value : Nat → Reader Value
  | 0 => simpleValue
  | levels + 1 => simpleValue <|> array (value levels) <|> inlineTable (value levels)

/-- A statement of a document. -/
inductive Statement where
  /-- An empty line or one with nothing but a comment. -/
  | empty
  /-- A key with its value. -/
  | assignment (assignment : Assignment)
  /-- The header of a table. -/
  | table (path : List String) (key : String)
  /-- The header of an item of an array of tables. -/
  | item (path : List String) (key : String)

/-- Reads the header of an item of an array of tables. -/
def itemHeader : Reader Statement := do
  literal ['[', '[']
  let (path, key) ← dottedKey
  literal [']', ']']
  lineEnd
  pure (.item path key)

/-- Reads the header of a table. -/
def tableHeader : Reader Statement := do
  exactly '['
  let (path, key) ← dottedKey
  exactly ']'
  lineEnd
  pure (.table path key)

/-- Reads a key and its value on lines of their own. -/
def assignmentLine : Reader Statement := do
  let pair ← assignment (value (depthLimit - 1))
  lineEnd
  pure (.assignment pair)

/-- Reads a line without a statement. -/
def emptyLine : Reader Statement := do
  newline <|> (do
    comment
    newline <|> atEnd)
  pure .empty

/-- Reads the statements of a document. A byte order mark may stand before them. -/
def statements : Reader (List Statement) := do
  let _ ← optional (exactly '\ufeff')
  blanks
  many (do
    let statement ← emptyLine <|> itemHeader <|> tableHeader <|> assignmentLine
    blanks
    pure statement)

/-- The assignments before the first header, and the statements from there on. -/
def leadingAssignments : List Statement → List Assignment × List Statement
  | .assignment pair :: rest =>
    let (pairs, rest) := leadingAssignments rest
    (pair :: pairs, rest)
  | .empty :: rest => leadingAssignments rest
  | rest => ([], rest)

/-- The header of a table or an item and the assignments that follow it. -/
structure Section where
  /-- Whether the header is that of an item of an array of tables. -/
  isItem : Bool
  /-- The parts of the header before the last one. -/
  path : List String
  /-- The last part of the header. -/
  key : String
  /-- The assignments up to the next header. -/
  assignments : List Assignment

/-- The sections of a document after its first part. -/
def sections : List Statement → List Section
  | [] => []
  | .table path key :: rest => ⟨false, path, key, (leadingAssignments rest).1⟩ :: sections rest
  | .item path key :: rest => ⟨true, path, key, (leadingAssignments rest).1⟩ :: sections rest
  | _ :: rest => sections rest

/-- Adds a section to the entries of a document. -/
def addSection (entries : Entries) (part : Section) : Option Entries :=
  let fill (inner : Entries) := inner.assignAll part.assignments
  let add := if part.isItem then Entries.addItem else Entries.addTable
  entries.updateAt (add part.key fill) part.path

/-- The entries of the document that statements make up. -/
def ofStatements? (statements : List Statement) : Option Entries := do
  let entries ← Entries.assignAll [] (leadingAssignments statements).1
  (sections statements).foldlM addSection entries

/-- The entries of the document that a text is, unless it is not a TOML document. -/
def parse? (text : String) : Option Entries :=
  (statements.run? text.toList).bind ofStatements?

end XsdDerivation.Toml
