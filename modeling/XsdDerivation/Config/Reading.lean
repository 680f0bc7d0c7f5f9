import XsdDerivation.Config
import XsdDerivation.Decimal.Shortest
import XsdDerivation.Text.Quoted
import XsdDerivation.Toml.Document

/-!
# Reading a configuration

A configuration is a TOML document with at most the keys `xsd_prefixes` and `fail_fast`. A
document that is not TOML is refused as a whole; otherwise the first key that is unknown or has
a value of the wrong kind is reported.
-/

namespace XsdDerivation

/-- What a value of a configuration has to be. -/
inductive Expectation where
  /-- A truth value. -/
  | boolean
  /-- A list of values. -/
  | sequence
  /-- A text. -/
  | text
  deriving DecidableEq, Repr

/-- The wording of an expectation. -/
def Expectation.render : Expectation → String
  | boolean => "a boolean"
  | sequence => "a sequence"
  | text => "a string"

/-- The wording of a value that is not what it has to be. -/
def Toml.Value.describe : Toml.Value → String
  | .string text => "string " ++ Text.quote text
  | .integer number => "integer `" ++ toString number ++ "`"
  | .float number => "floating point `" ++ renderFloat number ++ "`"
  | .boolean truth => "boolean `" ++ toString truth ++ "`"
  | .moment _ => "map"
  | .array _ => "sequence"
  | .table _ _ => "map"
  | .tables _ => "sequence"

/-- Why a text is not a configuration. -/
inductive ConfigFault where
  /-- The text is not a TOML document. -/
  | malformed
  /-- A key has no meaning in a configuration. -/
  | unknownKey (key : String)
  /-- A value has the wrong kind. -/
  | wrongKind (found : Toml.Value) (expected : Expectation)

namespace ConfigFault

/-- What the wording of every such fault begins with. -/
def heading : String := "invalid resolver configuration"

/-- The wording of a fault in what a document says. How a text fails to be a document is not
worded. -/
def message? : ConfigFault → Option String
  | malformed => none
  | unknownKey key =>
    some ("unknown field `" ++ key ++ "`, expected `xsd_prefixes` or `fail_fast`")
  | wrongKind found expected =>
    some ("invalid type: " ++ found.describe ++ ", expected " ++ expected.render)

end ConfigFault

namespace Config

/-- The text that a value is. -/
def readText : Toml.Value → Except ConfigFault String
  | .string text => .ok text
  | found => .error (.wrongKind found .text)

/-- The list of texts that a value is. -/
def readTexts : Toml.Value → Except ConfigFault (List String)
  | .array items => items.mapM readText
  | .tables items => items.mapM readText
  | found => .error (.wrongKind found .sequence)

/-- The truth value that a value is. -/
def readBoolean : Toml.Value → Except ConfigFault Bool
  | .boolean truth => .ok truth
  | found => .error (.wrongKind found .boolean)

/-- Takes over what an entry of a document says. -/
def readEntry (config : Config) (entry : String × Toml.Value) : Except ConfigFault Config :=
  match entry.1 with
  | "xsd_prefixes" => do
    let xsdPrefixes ← readTexts entry.2
    pure { config with xsdPrefixes }
  | "fail_fast" => do
    let failFast ← readBoolean entry.2
    pure { config with failFast }
  | key => .error (.unknownKey key)

/-- The configuration that a text gives. What it does not mention is standard. -/
def ofToml (text : String) : Except ConfigFault Config :=
  match Toml.parse? text with
  | none => .error .malformed
  | some entries => entries.foldlM readEntry standard

end Config

end XsdDerivation
