import XsdDerivation.Toml.Value

/-!
# Building tables

Every key of a table has one value. A dotted key enters tables inside the one it stands in and
makes those that are missing, but it adds to none that has a header or braces of its own. A
header opens a table once; the headers before it may have implied it.
-/

namespace XsdDerivation.Toml

namespace Entries

/-- The value of a key. -/
def get? (entries : Entries) (key : String) : Option Value :=
  entries.lookup key

/-- The entries with another value for a key that has one. -/
def set (entries : Entries) (key : String) (value : Value) : Entries :=
  entries.map fun entry => if entry.1 == key then (key, value) else entry

/-- The entries without a key. -/
def erase (entries : Entries) (key : String) : Entries :=
  entries.filter (·.1 != key)

/-- The entries with a value for a key that has none yet. -/
def add? (entries : Entries) (key : String) (value : Value) : Option Entries :=
  match entries.get? key with
  | none => some (entries ++ [(key, value)])
  | some _ => none

/-- Changes the last of the tables of an array, which is the one that later lines add to. -/
def updateLast (change : Entries → Option Entries) : List Value → Option (List Value)
  | [] => none
  | [.table origin entries] => do
    let entries ← change entries
    pure [.table origin entries]
  | item :: rest => do
    let rest ← updateLast change rest
    pure (item :: rest)

/-- Adds a value under a dotted key. `isOpen` tells whether a key without further parts may be
added at this place: it may in the table in which the dotted key stands and in tables that
dotted keys made. -/
def assign (isOpen : Bool) (key : String) (value : Value) :
    List String → Entries → Option Entries
  | [], entries => if isOpen then entries.add? key value else none
  | part :: path, entries =>
    match entries.get? part with
    | none => do
      let inner ← assign true key value path []
      pure (entries ++ [(part, .table .dotted inner)])
    | some (.table .dotted inner) => do
      let inner ← assign true key value path inner
      pure (entries.set part (.table .dotted inner))
    | some (.table .implied inner) => do
      let inner ← assign false key value path inner
      pure (entries.set part (.table .implied inner))
    | some (.tables items) => do
      let items ← updateLast (assign false key value path) items
      pure (entries.set part (.tables items))
    | some _ => none

/-- Changes the table that the parts of a header before the last one lead to. -/
def updateAt (change : Entries → Option Entries) : List String → Entries → Option Entries
  | [], entries => change entries
  | part :: path, entries =>
    match entries.get? part with
    | none => do
      let inner ← updateAt change path []
      pure (entries ++ [(part, .table .implied inner)])
    | some (.table .inline _) => none
    | some (.table origin inner) => do
      let inner ← updateAt change path inner
      pure (entries.set part (.table origin inner))
    | some (.tables items) => do
      let items ← updateLast (updateAt change path) items
      pure (entries.set part (.tables items))
    | some _ => none

/-- Puts the content of a table with a header into the table around it. `fill` gets what
earlier headers implied about the table. The table takes the last place. -/
def addTable (key : String) (fill : Entries → Option Entries) (entries : Entries) :
    Option Entries := do
  let implied ←
    match entries.get? key with
    | none => some []
    | some (.table .implied inner) => some inner
    | some _ => none
  let inner ← fill implied
  pure (entries.erase key ++ [(key, .table .header inner)])

/-- Adds a table to an array of tables in the table around it. -/
def addItem (key : String) (fill : Entries → Option Entries) (entries : Entries) :
    Option Entries := do
  let inner ← fill []
  match entries.get? key with
  | none => pure (entries ++ [(key, .tables [.table .header inner])])
  | some (.tables items) => pure (entries.set key (.tables (items ++ [.table .header inner])))
  | some _ => none

end Entries

/-- A dotted key with its value: the parts before the last one, the last one, the value. -/
structure Assignment where
  /-- The parts of the key before the last one. -/
  path : List String
  /-- The last part of the key. -/
  key : String
  /-- The value. -/
  value : Value

/-- Adds the values of several keys in turn. -/
def Entries.assignAll (entries : Entries) (assignments : List Assignment) : Option Entries :=
  assignments.foldlM (fun entries assignment =>
    Entries.assign true assignment.key assignment.value assignment.path entries) entries

end XsdDerivation.Toml
