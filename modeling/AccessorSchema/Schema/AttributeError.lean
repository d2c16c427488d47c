import AccessorSchema.Decl
import AccessorSchema.Syntax.Reader
import AccessorSchema.Text.Similarity

/-! # Errors in attributes

What can be wrong with the attributes of a schema module, and how it is said.  An error inside the
value of an option knows the option. -/

namespace AccessorSchema

inductive AttributeFault where
  /-- The arguments have no such form. -/
  | malformed (fault : SyntaxFault)
  /-- An option is written as a word, a list or a literal and does not take that. -/
  | form (noun : String)
  /-- A value is of a kind that the option does not take. -/
  | valueKind (noun : String)
  | unknownOption (name : String) (known : List String)
  | repeated (name : String)
  | unknownValue (value : UnknownValue)
  /-- The base of a struct is no path. -/
  | unusableBase
  | unnamedFields
  | moduleWithoutBody
  | dataWithoutList
  | propertyWithValue
  /-- A field is marked as field and property. -/
  | bothSurfaces
  | skippedProperty
  | unknownDataOption
  | unknownPropertyOption

namespace AttributeFault

def quoted (s : String) : String := "`" ++ s ++ "`"

def unknownOptionText (name : String) (known : List String) : String :=
  "Unknown field: " ++ quoted name ++ ". " ++
    match Text.suggest? name known with
    | some other => "Did you mean " ++ quoted other ++ "?"
    | none =>
      let sorted := known.mergeSort fun a b => a ≤ b
      "Available values: " ++ ", ".intercalate (sorted.map quoted)

def message : AttributeFault → String
  | malformed fault => fault.message
  | form noun => "Unexpected meta-item format " ++ quoted noun
  | valueKind noun => "Unexpected type " ++ quoted noun
  | unknownOption name known => unknownOptionText name known
  | repeated name => "Duplicate field " ++ quoted name
  | unknownValue value => value.message
  | unusableBase => "`base` must name a data type, e.g. `base = \"Hero\"`"
  | unnamedFields => "data types must have named fields"
  | moduleWithoutBody => "#[data_schema] needs an inline module body"
  | dataWithoutList =>
    "expected `#[data(skip | converter = .. | policy = \"..\" | accessor(..))]`"
  | propertyWithValue => "expected `#[property]` or `#[property(..)]`"
  | bothSurfaces => "a member is either `#[data(..)]` or `#[property]`, not both"
  | skippedProperty => "`skip` cannot be combined with `#[property]`"
  | unknownDataOption => "unknown data option, expected: skip, converter, policy, accessor"
  | unknownPropertyOption =>
    "unknown property option, expected: setter, storage, converter, policy"

end AttributeFault

structure AttributeError where
  fault : AttributeFault
  span : Span
  /-- The option in whose value the error is. -/
  within : Option String

namespace AttributeError

def ofReading (e : SyntaxError) : AttributeError := ⟨.malformed e.fault, e.span, none⟩

/-- The message alone. -/
def message (e : AttributeError) : String := e.fault.message

/-- The message with the option it is about. -/
def located (e : AttributeError) : String :=
  match e.within with
  | some option => e.message ++ " at " ++ option
  | none => e.message

end AttributeError

end AccessorSchema
