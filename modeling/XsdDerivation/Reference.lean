import XsdDerivation.Text.Blank

/-!
# References

A reference is the text by which a schema document names a type: a local name, with a
namespace prefix and a colon before it or without. Blanks around it do not count.
-/

namespace XsdDerivation

/-- A reference taken apart. -/
structure Reference where
  /-- The namespace prefix, if the reference has one. -/
  qualifier : Option String
  /-- The name that the reference gives inside the namespace. -/
  localPart : String
  deriving DecidableEq, Repr

namespace Reference

/-- The text before the first colon, if there is a colon, and the text after it. -/
def splitAtColon (text : List Char) : Option (List Char) × List Char :=
  match text.dropWhile (· ≠ ':') with
  | [] => (none, text)
  | _ :: rest => (some (text.takeWhile (· ≠ ':')), rest)

/-- Takes a reference apart at its first colon. -/
def ofText (text : String) : Reference :=
  let (qualifier, localPart) := splitAtColon (Text.trim text.toList)
  ⟨qualifier.map String.ofList, String.ofList localPart⟩

/-- Whether a reference consists of blanks only. -/
def isBlank (text : String) : Bool :=
  text.toList.all Text.isBlank

end Reference

end XsdDerivation
