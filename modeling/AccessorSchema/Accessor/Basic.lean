import AccessorSchema.Plan.Basic

/-! # Accessors of a data type

Every valid plan yields a method that reads it and, if it is writable, one that writes it.  An
invalid plan yields nothing, or stubs under the names that no other method has. -/

namespace AccessorSchema

/-- What an accessor does with the field behind it. -/
inductive Action where
  /-- Hands out a reference to the value. -/
  | read (ty : Ty)
  /-- Hands out the converted value. -/
  | convert (raw : Ty) (converter : Path)
  /-- Hands out a view of the elements. -/
  | view (element : Ty)
  /-- Replaces the value. -/
  | write (ty : Ty)

namespace Action

def noun : Action → String
  | read _ => "read"
  | convert _ _ => "convert"
  | view _ => "view"
  | write _ => "write"

def isWrite : Action → Bool
  | write _ => true
  | _ => false

end Action

structure Accessor where
  /-- The name under which it is exposed. -/
  exposed : String
  method : Label
  owner : Ident
  vis : Vis
  attrs : List Attr
  backing : Ident
  action : Action
  /-- The base type that declares the member, if it is inherited. -/
  inheritedFrom : Option Ident
  /-- It exists by name only. -/
  stubbed : Bool

namespace Accessor

def isSetter (a : Accessor) : Bool := a.action.isWrite

def noun (a : Accessor) : String := if a.isSetter then "setter" else "getter"

end Accessor

namespace FieldPlan

variable (owner : Ident) (p : FieldPlan)

def readAction : Action :=
  match p.kind with
  | .scalar => .read p.ty.value
  | .converted c => .convert p.ty.value c
  | .view element _ => .view element

def inheritedFrom : Option Ident := if p.isInheritedBy owner then some p.origin else none

def getter (stubbed : Bool) : Accessor :=
  { exposed := p.name.exposed
    method := p.name.getter
    owner := owner
    vis := p.getterVis
    attrs := p.accessorAttrs
    backing := p.backing.value
    action := p.readAction
    inheritedFrom := p.inheritedFrom owner
    stubbed := stubbed }

def setter (stubbed : Bool) : Accessor :=
  { exposed := p.name.exposed
    method := p.name.setter
    owner := owner
    vis := p.setterVis
    attrs := []
    backing := p.backing.value
    action := .write p.ty.value
    inheritedFrom := p.inheritedFrom owner
    stubbed := stubbed }

/-- The methods of a plan: the getter, and the setter of a writable one. -/
def accessors (stubbed : Bool) : List Accessor :=
  p.getter owner stubbed :: if p.writable then [p.setter owner stubbed] else []

/-- Method names of a plan. -/
def methods : List Label := p.name.getter :: if p.writable then [p.name.setter] else []

end FieldPlan

namespace Accessor

/-- Those of `candidates` whose names are free, each name once. -/
def withFreeNames (taken : List Label) : List Accessor → List Accessor
  | [] => []
  | a :: rest =>
    if taken.contains a.method then withFreeNames taken rest
    else a :: withFreeNames (a.method :: taken) rest

end Accessor

namespace DataType

/-- Stubs and accessors of `plans`, when the methods in `taken` exist already. -/
def accessorsFrom (owner : Ident) (policy : InvalidPolicy) (taken : List Label) :
    List FieldPlan → List Accessor
  | [] => []
  | p :: rest =>
    if p.valid then p.accessors owner false ++ accessorsFrom owner policy taken rest
    else
      match policy with
      | .skip => accessorsFrom owner policy taken rest
      | .stub =>
        let stubs := Accessor.withFreeNames taken (p.accessors owner true)
        stubs ++ accessorsFrom owner policy (taken ++ stubs.map (·.method)) rest

/-- The accessors of a type in the order of its plans. -/
def accessors (d : DataType) (policy : InvalidPolicy) : List Accessor :=
  accessorsFrom d.ident policy (d.validPlans.flatMap (·.methods)) d.plans

end DataType

/-- The accessors generated for a type. -/
structure AccessorSet where
  owner : Ident
  generics : Generics
  members : List Accessor

namespace AccessorSet

def ofType (d : DataType) (policy : InvalidPolicy) : AccessorSet :=
  ⟨d.ident, d.generics, d.accessors policy⟩

/-- Names exposed for reading, stubs left out. -/
def getterNames (s : AccessorSet) : List String :=
  (s.members.filter fun a => !a.isSetter && !a.stubbed).map (·.exposed)

/-- Names exposed for writing, stubs left out. -/
def setterNames (s : AccessorSet) : List String :=
  (s.members.filter fun a => a.isSetter && !a.stubbed).map (·.exposed)

/-- The first getter or setter exposed under a name, stubs included. -/
def member? (s : AccessorSet) (exposed : String) (isSetter : Bool) : Option Accessor :=
  s.members.find? fun a => a.exposed == exposed && a.isSetter == isSetter

end AccessorSet

end AccessorSchema
