import AccessorSchema.Syntax.Item

/-! # Declarations

A data type is declared with its members in order, possibly in several fragments.  A member is a
field, whose storage the user wrote, or a property, whose storage is generated.  Places in a source
are kept where a diagnostic may point at them. -/

namespace AccessorSchema

inductive Mode where
  | immutable
  | mutable
deriving DecidableEq, Inhabited

namespace Mode

def isMutable : Mode → Bool
  | mutable => true
  | immutable => false

def ofBool (isMutable : Bool) : Mode := if isMutable then mutable else immutable

end Mode

/-! ### Write policies -/

inductive WritePolicy where
  | readOnly
  | readWrite
deriving DecidableEq

/-- What becomes of the accessors of an invalid plan. -/
inductive InvalidPolicy where
  | skip
  | stub
deriving DecidableEq, Inhabited

/-- A policy word that names no policy. -/
structure UnknownValue where
  value : String

namespace UnknownValue

def message (e : UnknownValue) : String := "Unknown value: `" ++ e.value ++ "`"

end UnknownValue

def lowered (text : String) : String := String.ofList (Text.lower text.toList)

namespace WritePolicy

/-- Reads a policy in any case, its words joined by `_`, `-` or not at all. -/
def ofText? (text : String) : Except UnknownValue WritePolicy :=
  let word := String.ofList ((lowered text).toList.map fun c => if c == '-' then '_' else c)
  if ["read_only", "readonly"].contains word then .ok readOnly
  else if ["read_write", "readwrite"].contains word then .ok readWrite
  else .error ⟨text⟩

def noun : WritePolicy → String
  | readOnly => "read_only"
  | readWrite => "read_write"

end WritePolicy

namespace InvalidPolicy

def ofText? (text : String) : Except UnknownValue InvalidPolicy :=
  match lowered text with
  | "omit" => .ok skip
  | "stub" => .ok stub
  | _ => .error ⟨text⟩

def noun : InvalidPolicy → String
  | skip => "omit"
  | stub => "stub"

end InvalidPolicy

/-! ### Members -/

inductive Surface where
  | field (vis : Vis)
  /-- A property; `setter` is the visibility of its setter if it declares one. -/
  | property (vis : Vis) (setter : Option (Located Vis))
deriving Inhabited

namespace Surface

def isField : Surface → Bool
  | field _ => true
  | property _ _ => false

def noun : Surface → String
  | field _ => "field"
  | property _ _ => "property"

def vis : Surface → Vis
  | field v => v
  | property v _ => v

def setter? : Surface → Option (Located Vis)
  | field _ => none
  | property _ s => s

end Surface

/-- Where a decoration is put. -/
inductive Target where
  | accessor
  | storage
deriving DecidableEq

def Target.noun : Target → String
  | accessor => "accessor"
  | storage => "storage"

structure Decoration where
  target : Target
  content : Meta

structure MemberDecl where
  ident : Located Ident
  ty : Located Ty
  surface : Surface
  converter : Option (Located Path)
  policy : Option WritePolicy
  decorations : List Decoration
  attrs : List Attr

/-! ### Types -/

/-- A base type with the arguments for its type parameters. -/
structure BaseRef where
  ident : Ident
  args : List Ty
deriving DecidableEq

namespace BaseRef

/-- The base a written type names: the last segment of its path with those arguments that are
types. -/
def ofType? : Ty → Option BaseRef
  | .path p => p.last?.map fun s => ⟨s.ident, s.args.types⟩
  | _ => none

def withoutBlanks (text : String) : String := String.ofList (text.toList.filter (· != ' '))

/-- As shown in messages: arguments without blanks, separated by a comma and one. -/
def display (b : BaseRef) : String :=
  if b.args.isEmpty then b.ident.text
  else b.ident.text ++ "<" ++ ", ".intercalate (b.args.map fun t => withoutBlanks t.text) ++ ">"

end BaseRef

/-- A type declaration, or one fragment of it. -/
structure TypeDecl where
  ident : Ident
  generics : Generics
  base : Option (Located BaseRef)
  mode : Mode
  /-- Fragments of one type are merged in the order of their keys. -/
  fragment : Nat
  members : List MemberDecl

end AccessorSchema
