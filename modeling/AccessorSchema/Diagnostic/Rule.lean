import AccessorSchema.Source.Span
import AccessorSchema.Diagnostic.Template

/-! # The catalog of rules

Every rule a schema can break, with its code, title, message template and description. -/

namespace AccessorSchema

inductive Rule where
  /-- A decoration or converter of a field names nothing usable. -/
  | unresolvedField
  /-- The same on a property. -/
  | unresolvedProperty
  /-- A member of an immutable type declares a write policy. -/
  | policyOnImmutable
  /-- A field of an immutable type is not private. -/
  | publicField
  /-- A property of an immutable type declares a setter that is not private. -/
  | publicSetter
  /-- A member is a mapping, which no view can show. -/
  | keyedMapping
  /-- An accessor name is exposed twice in a type and its base chain. -/
  | duplicateAccessor
  /-- A base is no declared data type. -/
  | unknownBase
  /-- A type is its own ancestor. -/
  | cyclicBase
  /-- A base gets the wrong number of type arguments. -/
  | baseArity
  /-- Fragments of one type name different bases. -/
  | conflictingBase
deriving DecidableEq, Repr, Inhabited

/-- How bad a broken rule is. -/
inductive Severity where
  | error
deriving DecidableEq

def Severity.noun : Severity → String
  | error => "error"

namespace Rule

/-- All rules in the order of their codes. -/
def all : List Rule :=
  [unresolvedField, unresolvedProperty, policyOnImmutable, publicField, publicSetter,
   keyedMapping, duplicateAccessor, unknownBase, cyclicBase,
   baseArity, conflictingBase]

def code : Rule → String
  | unresolvedField => "DATA_0001"
  | unresolvedProperty => "DATA_0002"
  | policyOnImmutable => "DATA_0003"
  | publicField => "DATA_0004"
  | publicSetter => "DATA_0005"
  | keyedMapping => "DATA_0006"
  | duplicateAccessor => "DATA_0007"
  | unknownBase => "DATA_0008"
  | cyclicBase => "DATA_0009"
  | baseArity => "DATA_0010"
  | conflictingBase => "DATA_0011"

def title : Rule → String
  | unresolvedField => "Invalid accessor decoration type"
  | unresolvedProperty => "Invalid storage decoration type"
  | policyOnImmutable => "Cannot apply a write policy to immutable data"
  | publicField => "Fields of immutable data must be private"
  | publicSetter => "Property setters of immutable data must be private"
  | keyedMapping => "Keyed mapping cannot be exposed"
  | duplicateAccessor => "Duplicate accessor name"
  | unknownBase => "Unknown base type"
  | cyclicBase => "Cyclic base chain"
  | baseArity => "Base generic arity mismatch"
  | conflictingBase => "Conflicting base types"

/-- The message, with the places of its arguments in braces. -/
def template : Rule → String
  | unresolvedField =>
    "The field \"\x7b0\x7d\" is using attribute \"\x7b1\x7d\" which was not recognized " ++
      "as a valid type (are you missing a use declaration?)"
  | unresolvedProperty =>
    "The property \"\x7b0\x7d\" is using attribute \"\x7b1\x7d\" which was not " ++
      "recognized as a valid type (are you missing a use declaration?)"
  | policyOnImmutable =>
    "\"\x7b0\x7d\" is immutable thus its members cannot declare a write policy (are " ++
      "you missing #[data(mutable)]?)"
  | publicField =>
    "\"\x7b0\x7d\" is immutable thus its fields must be private (are you missing " ++
      "#[data(mutable)]?)"
  | publicSetter =>
    "\"\x7b0\x7d\" is immutable thus its property setter must be private (are you " ++
      "missing #[data(mutable)]?)"
  | keyedMapping =>
    "The member \"\x7b0\x7d\" of \"\x7b1\x7d\" is a keyed mapping which cannot be " ++
      "exposed through a read-only view (mark it #[data(skip)])"
  | duplicateAccessor =>
    "\"\x7b0\x7d\" declares accessor \"\x7b1\x7d\" which is already exposed by " ++
      "\"\x7b2\x7d\""
  | unknownBase => "\"\x7b0\x7d\" extends \"\x7b1\x7d\" which is not a data type"
  | cyclicBase => "\"\x7b0\x7d\" takes part in a cyclic base chain"
  | baseArity =>
    "\"\x7b0\x7d\" extends \"\x7b1\x7d\" with \x7b2\x7d type argument(s) but the base " ++
      "declares \x7b3\x7d"
  | conflictingBase =>
    "Fragments of \"\x7b0\x7d\" declare different base types \"\x7b1\x7d\" and " ++
      "\"\x7b2\x7d\""

def description : Rule → String
  | unresolvedField =>
    "All decorations forwarded onto the generated accessor of a field must resolve to " ++
      "valid types."
  | unresolvedProperty =>
    "All decorations forwarded onto the generated storage of a property must resolve " ++
      "to valid types."
  | policyOnImmutable => "The data type must be mutable to carry per-field write policies."
  | publicField => "The data type must be mutable to have non-private fields."
  | publicSetter => "The data type must be mutable to have non-private property setters."
  | keyedMapping => "Only sequences, linear collections and sets can be exposed as views."
  | duplicateAccessor => "Exposed accessor names must be unique across a type and its base chain."
  | unknownBase => "A base type must be a data type declared in the same schema."
  | cyclicBase => "The base chain of a data type must end in a type without a base."
  | baseArity => "A base reference must supply one type argument per base type parameter."
  | conflictingBase => "All fragments of a data type must agree on its base type."

def severity (_ : Rule) : Severity := .error

end Rule

end AccessorSchema
