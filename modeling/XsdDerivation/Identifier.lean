import XsdDerivation.Text.CamelCase

/-!
# Generated identifiers

The identifier under which generated code knows a declared name. Two members whose names give
the same identifier collide.
-/

namespace XsdDerivation.Identifier

/-- The part of a name after its last colon, or all of it. -/
def unprefixed (name : List Char) : List Char :=
  (name.reverse.takeWhile (· ≠ ':')).reverse

/-- An identifier neither is empty nor starts with an ASCII digit: a capital X is put before a
text that does. -/
def guarded (text : List Char) : List Char :=
  match text with
  | [] => ['X']
  | c :: _ => if c.isDigit then 'X' :: text else text

/-- The characters of the identifier of a name: its unprefixed part in camel case. -/
def chars (name : List Char) : List Char :=
  guarded (Text.camelCase (unprefixed name))

/-- The identifier generated for a declared name. -/
def ofName (name : String) : String :=
  String.ofList (chars name.toList)

end XsdDerivation.Identifier
