import AccessorSchema.Plan.Collection

/-! # From members to plans

A member with a converter is converted, one whose type is a collection is viewed, any other is
handed out as it is.  Its decorations go to the storage or to the accessor if they resolve, and
make the plan invalid if they do not.  There is no plan where no methods can be named after the member:
`classify?` passes on why. -/

namespace AccessorSchema

/-- The kind of accessor for a converter and a collection that may or may not be there. -/
def Kind.decide (converter : Option Path) (collection : Option (Shape × Ty)) : Kind :=
  match converter, collection with
  | some c, _ => .converted c
  | none, some (shape, element) => .view element shape
  | none, none => .scalar

namespace Decoration

variable (resolver : Resolver)

def verdict (d : Decoration) : Resolution := resolver d.content.path.value .decoration

def isUsable (d : Decoration) : Bool := (d.verdict resolver).isResolved

/-- Attributes from the usable decorations for a target. -/
def attrsFor (target : Target) (ds : List Decoration) : List Attr :=
  (ds.filter fun d => d.isUsable resolver && d.target == target).map (Attr.ofMeta ·.content)

end Decoration

namespace MemberDecl

variable (resolver : Resolver) (m : MemberDecl)

def unresolvedDecorations : List Unresolved :=
  (m.decorations.filter fun d => !d.isUsable resolver).map fun d =>
    ⟨d.content.path, .decoration, d.verdict resolver⟩

def unresolvedConverter : List Unresolved :=
  match m.converter with
  | some c =>
    let verdict := resolver c.value .converter
    if verdict.isResolved then [] else [⟨c, .converter, verdict⟩]
  | none => []

/-- References the resolver refuses: decorations in order, then the converter. -/
def unresolved : List Unresolved :=
  m.unresolvedDecorations resolver ++ m.unresolvedConverter resolver

def kind : Kind := .decide (m.converter.map (·.value)) m.ty.value.collection?

/-- A setter may be generated in a type of the given mode. -/
def isWritable (mode : Mode) : Bool :=
  mode.isMutable && m.policy.getD .readWrite == .readWrite && !m.kind.isView

/-- Attributes the user wrote on the member that stay on its storage. -/
def storageAttrs : List Attr :=
  (if m.surface.isField then m.attrs else []) ++
    Decoration.attrsFor resolver .storage m.decorations

/-- Attributes of the accessor that reads the member. -/
def accessorAttrs : List Attr :=
  (if m.surface.isField then [] else m.attrs) ++
    Decoration.attrsFor resolver .accessor m.decorations

/-- The plan for a member of `owner` whose accessors have the given names. -/
def planNamed (name : AccessorName) (owner : Ident) (mode : Mode) : FieldPlan :=
  { backing := m.ident
    name := name
    ty := m.ty
    kind := m.kind
    surface := m.surface
    policy := m.policy
    writable := m.isWritable mode
    storageAttrs := m.storageAttrs resolver
    accessorAttrs := m.accessorAttrs resolver
    unresolved := m.unresolved resolver
    origin := owner
    valid := (m.unresolved resolver).isEmpty }

/-- The plan for a member of `owner`, if methods can be named after it. -/
def classify? (owner : Ident) (mode : Mode) : Except IdentFault FieldPlan := do
  let name ← AccessorName.derive? m.ident.value
  return m.planNamed resolver name owner mode

/-- The plan for a member of `owner` as `classify?` makes it if it makes one. -/
def classify (owner : Ident) (mode : Mode) : FieldPlan :=
  m.planNamed resolver (.derive m.ident.value) owner mode

end MemberDecl

end AccessorSchema
