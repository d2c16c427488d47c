import AccessorSchema.Compilation.Substitution
import AccessorSchema.Diagnostic.Basic

/-! # Inheritance

A type with a usable base starts with the plans of the base, whose type parameters are replaced
by the arguments it gives, and goes on with its own.  An immutable type takes the permission to
write away from what it inherits. -/

namespace AccessorSchema

namespace DataType

/-- The type known under a name, the latest one if there are several. -/
def find? (known : List DataType) (x : Ident) : Option DataType :=
  (known.filter (·.ident == x)).getLast?

end DataType

namespace TypeDecl

/-- Why a declared base cannot be used. -/
inductive BaseFault where
  | cyclic
  | unknown
  | arity (expected : Nat)

/-- The base to inherit from, or what is wrong with the reference. -/
def checkBase (b : BaseRef) (cyclic : Bool) (known : List DataType) :
    Except BaseFault DataType :=
  if cyclic then .error .cyclic
  else
    match DataType.find? known b.ident with
    | none => .error .unknown
    | some base =>
      if base.generics.typeParams.length == b.args.length then .ok base
      else .error (.arity base.generics.typeParams.length)

/-- The complaint about a base. -/
def BaseFault.report (d : TypeDecl) (b : Located BaseRef) : BaseFault → Diagnostic
  | cyclic => ⟨.cyclicBase, d.ident.text, [d.ident.text], b.span⟩
  | unknown => ⟨.unknownBase, d.ident.text, [d.ident.text, b.value.display], b.span⟩
  | arity expected =>
    ⟨.baseArity, d.ident.text,
      [d.ident.text, b.value.display, toString b.value.args.length, toString expected], b.span⟩

end TypeDecl

/-- What is known about the base of a declaration. -/
inductive BaseState where
  | absent
  | usable (ref : BaseRef) (base : DataType)
  | faulty (report : Diagnostic)

namespace BaseState

def ofDecl (d : TypeDecl) (cyclic : Bool) (known : List DataType) : BaseState :=
  match d.base with
  | none => absent
  | some b =>
    match TypeDecl.checkBase b.value cyclic known with
    | .ok base => usable b.value base
    | .error fault => faulty (fault.report d b)

def report? : BaseState → Option Diagnostic
  | faulty d => some d
  | _ => none

def base? : BaseState → Option DataType
  | usable _ base => some base
  | _ => none

def ref? : BaseState → Option BaseRef
  | usable ref _ => some ref
  | _ => none

end BaseState

namespace DataType

/-- The parameters of a base with the arguments a reference gives them. -/
def arguments (base : DataType) (ref : BaseRef) : Substitution :=
  base.generics.typeParams.zip ref.args

/-- What a type of the given mode inherits from a base. -/
def inherit (base : DataType) (ref : BaseRef) (mode : Mode) : List FieldPlan :=
  base.plans.map fun p =>
    let q := p.subst (base.arguments ref)
    { q with writable := q.writable && mode.isMutable }

/-- The plans a declaration inherits. -/
def inherited (mode : Mode) : BaseState → List FieldPlan
  | .usable ref base => base.inherit ref mode
  | _ => []

/-- The type that a declaration makes with its own plans and what it inherits. -/
def resolve (d : TypeDecl) (own : List FieldPlan) (base : BaseState) : DataType :=
  { ident := d.ident
    generics := d.generics
    base := base.ref?
    mode := d.mode
    plans := inherited d.mode base ++ own
    validated := false }

end DataType

end AccessorSchema
