import AccessorSchema.AccessorName
import AccessorSchema.Decl
import AccessorSchema.Symbols

/-! # Plans and data types

A plan says how one member becomes accessors: under which names, of which kind, readable only or
writable too.  A data type holds the plans of its whole base chain, the inherited ones first; a plan
belongs to the type it originates from. -/

namespace AccessorSchema

/-- How a collection keeps its elements. -/
inductive Shape where
  | sequence
  | linear
  | set
  | keyed
deriving DecidableEq

namespace Shape

/-- A view can show it. -/
def isViewable (s : Shape) : Bool := s != keyed

def noun : Shape → String
  | sequence => "sequence"
  | linear => "linear"
  | set => "set"
  | keyed => "keyed"

end Shape

/-- What an accessor hands out. -/
inductive Kind where
  /-- The stored value itself. -/
  | scalar
  /-- The stored value put through a converter. -/
  | converted (converter : Path)
  /-- A view of the elements of a stored collection. -/
  | view (element : Ty) (shape : Shape)
deriving DecidableEq

namespace Kind

def noun : Kind → String
  | scalar => "scalar"
  | converted _ => "converted"
  | view _ _ => "view"

def isView : Kind → Bool
  | view _ _ => true
  | _ => false

/-- A view of a mapping. -/
def isKeyed : Kind → Bool
  | view _ .keyed => true
  | _ => false

end Kind

/-- A reference that the resolver refused. -/
structure Unresolved where
  path : Located Path
  role : Role
  verdict : Resolution

structure FieldPlan where
  backing : Located Ident
  name : AccessorName
  ty : Located Ty
  kind : Kind
  surface : Surface
  policy : Option WritePolicy
  /-- A setter is generated. -/
  writable : Bool
  storageAttrs : List Attr
  accessorAttrs : List Attr
  unresolved : List Unresolved
  /-- The type that declares the member. -/
  origin : Ident
  valid : Bool

namespace FieldPlan

def isInheritedBy (p : FieldPlan) (owner : Ident) : Bool := p.origin != owner

def getterVis (p : FieldPlan) : Vis :=
  match p.surface with
  | .field _ => .everywhere
  | .property vis _ => vis

def setterVis (p : FieldPlan) : Vis :=
  match p.surface with
  | .field _ => .everywhere
  | .property vis setter => (setter.map (·.value)).getD vis

end FieldPlan

structure DataType where
  ident : Ident
  generics : Generics
  /-- The base it inherits from. -/
  base : Option BaseRef
  mode : Mode
  plans : List FieldPlan
  validated : Bool

namespace DataType

def ownPlans (d : DataType) : List FieldPlan := d.plans.filter (!·.isInheritedBy d.ident)

def inheritedPlans (d : DataType) : List FieldPlan := d.plans.filter (·.isInheritedBy d.ident)

def validPlans (d : DataType) : List FieldPlan := d.plans.filter (·.valid)

/-- The first plan exposed under a name. -/
def plan? (d : DataType) (exposed : String) : Option FieldPlan :=
  d.plans.find? (·.name.exposed == exposed)

def accessorNames (d : DataType) : List String := d.plans.map (·.name.exposed)

end DataType

end AccessorSchema
