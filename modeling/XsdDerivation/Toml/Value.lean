/-!
# TOML values

The values of a TOML document. A table remembers how it came to be, because that decides
whether a later line may add to it.
-/

namespace XsdDerivation.Toml

/-- How a table came to be. -/
inductive TableOrigin where
  /-- By a header of its own, or as the document itself. -/
  | header
  /-- By the header of a table inside it. -/
  | implied
  /-- By a dotted key. -/
  | dotted
  /-- Between braces. -/
  | inline
  deriving DecidableEq, Repr

/-- A value of a TOML document. -/
inductive Value where
  /-- A text. -/
  | string (text : String)
  /-- A whole number. -/
  | integer (number : Int)
  /-- A floating-point number. -/
  | float (number : Float)
  /-- A truth value. -/
  | boolean (truth : Bool)
  /-- A date, a time or both, as written. -/
  | moment (text : String)
  /-- An array between brackets. -/
  | array (items : List Value)
  /-- A table with its entries in order. -/
  | table (origin : TableOrigin) (entries : List (String × Value))
  /-- An array whose items are tables with headers of their own. -/
  | tables (items : List Value)

/-- The entries of a table, in order. -/
abbrev Entries := List (String × Value)

end XsdDerivation.Toml
