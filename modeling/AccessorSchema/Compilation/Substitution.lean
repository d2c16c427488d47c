import AccessorSchema.Plan.Basic

/-! # Substitution of type parameters

A substitution replaces every type that is nothing but the name of a parameter, all at once: what
it puts in is not looked at again.  Names in other positions, such as the head of a longer path,
are not types of their own and stay. -/

namespace AccessorSchema

/-- Parameters with their arguments; the first entry for a parameter counts. -/
abbrev Substitution := List (Ident × Ty)

mutual

def Ty.subst (s : Substitution) : Ty → Ty
  | .path p =>
    match p.ident?.bind (s.lookup ·) with
    | some arg => arg
    | none => .path (p.subst s)
  | .group t => .group (t.subst s)
  | .paren t => .paren (t.subst s)
  | .array t n => .array (t.subst s) (Code.subst s n)
  | .slice t => .slice (t.subst s)
  | .other code => .other (Code.subst s code)

/-- In a path only the arguments are types. -/
def Path.subst (s : Substitution) : Path → Path
  | .mk rooted segments => .mk rooted (Segment.substAll s segments)

def Segment.subst (s : Substitution) : Segment → Segment
  | .mk x args => .mk x (args.subst s)

def Segment.substAll (s : Substitution) : List Segment → List Segment
  | [] => []
  | a :: rest => a.subst s :: Segment.substAll s rest

def Args.subst (s : Substitution) : Args → Args
  | .none => .none
  | .angle turbofish args trailing => .angle turbofish (Arg.substAll s args) trailing
  | .call code => .call (Code.subst s code)

def Arg.subst (s : Substitution) : Arg → Arg
  | .lifetime x => .lifetime x
  | .type t => .type (t.subst s)
  | .other code => .other (Code.subst s code)

def Arg.substAll (s : Substitution) : List Arg → List Arg
  | [] => []
  | a :: rest => a.subst s :: Arg.substAll s rest

def Piece.subst (s : Substitution) : Piece → Piece
  | .atom text joint => .atom text joint
  | .group d body => .group d (Code.subst s body)
  | .type t => .type (t.subst s)
  | .path p => .path (p.subst s)

def Code.subst (s : Substitution) : List Piece → List Piece
  | [] => []
  | p :: rest => p.subst s :: Code.subst s rest

end

namespace Kind

def subst (s : Substitution) : Kind → Kind
  | scalar => scalar
  | converted c => converted (c.subst s)
  | view element shape => view (element.subst s) shape

end Kind

namespace FieldPlan

/-- The plan with its types substituted; its names and attributes stay. -/
def subst (s : Substitution) (p : FieldPlan) : FieldPlan :=
  { p with ty := p.ty.map (·.subst s), kind := p.kind.subst s }

end FieldPlan

end AccessorSchema
