/-!
# Configuration
-/

namespace XsdDerivation

/-- What a user may choose about resolving. -/
structure Config where
  /-- The namespace prefixes that stand for XML Schema from the start. -/
  xsdPrefixes : List String
  /-- Whether resolving stops at the first fault. -/
  failFast : Bool
  deriving DecidableEq, Repr

/-- The choices taken where the user makes none. -/
def Config.standard : Config := ⟨["xsd", "xs"], true⟩

end XsdDerivation
