import Std.Data.TreeMap

/-!
# Qualified names

A name of a schema component: a namespace and a local part. Names are ordered by namespace,
then by local part, character by character.
-/

namespace XsdDerivation

/-- The namespace of XML Schema itself. -/
def xsdNamespace : String := "http://www.w3.org/2001/XMLSchema"

/-- A local name in a namespace. The empty namespace stands for none. -/
structure QualifiedName where
  /-- The namespace name, or the empty text. -/
  space : String
  /-- The name inside the namespace. -/
  localPart : String
  deriving DecidableEq, Repr

namespace QualifiedName

instance : Ord QualifiedName :=
  ⟨compareLex (compareOn (·.space)) (compareOn (·.localPart))⟩

instance : Std.TransOrd QualifiedName :=
  inferInstanceAs (Std.TransCmp (compareLex (compareOn space) (compareOn localPart)))

instance : Std.LawfulEqOrd QualifiedName where
  eq_of_compare {a b} h := by
    obtain ⟨hspace, hlocal⟩ := Ordering.then_eq_eq.1 h
    cases a
    cases b
    simp_all [compareOn]

/-- Whether the name is in no namespace. -/
def isUnqualified (name : QualifiedName) : Bool :=
  name.space == ""

/-- Whether the name is in the namespace of XML Schema. -/
def isXsd (name : QualifiedName) : Bool :=
  name.space == xsdNamespace

/-- The namespace between braces followed by the local part, or the local part alone. -/
def render (name : QualifiedName) : String :=
  if name.isUnqualified then name.localPart
  else "\x7b" ++ name.space ++ "\x7d" ++ name.localPart

/-- The names in ascending order, each once. -/
def sortUnique (names : List QualifiedName) : List QualifiedName :=
  (names.mergeSort (fun a b => (compare a b).isLE)).eraseReps

end QualifiedName

end XsdDerivation
