import AccessorSchema.Accessor.Printer
import AccessorSchema.Schema.Lift

/-! # The module with its accessors

Every item of the module stays in its place.  A data struct gets the storage of what it inherits
in front of its own fields, loses the helper attributes, and is followed by its accessors and by
the constants that describe it.  Diagnostics stand at the end of the module.  A module that
cannot be read as a schema is left as it is but for the helper attributes. -/

namespace AccessorSchema

open Token

/-! ### Structs -/

def withoutHelpers (attrs : List Attr) : List Attr := attrs.filter (!·.isHelper)

namespace DataType

/-- The field that stores an inherited member: private unless the type is mutable and the member is
a field with a visibility of its own. -/
def inheritedStorage (d : DataType) (p : FieldPlan) : Field :=
  { attrs := p.storageAttrs
    vis := .nowhere (if d.mode.isMutable && p.surface.isField then p.surface.vis else .inherited)
    ident := p.backing
    ty := p.ty
    span := p.backing.span }

/-- A declared field as it stays in the struct: private if it stores a property. -/
def ownStorage (d : DataType) (f : Field) : Field :=
  match d.ownPlans.find? (·.backing.value == f.ident.value) with
  | some p =>
    { f with
      attrs := p.storageAttrs
      vis := if p.surface.isField then f.vis else .nowhere .inherited }
  | none => { f with attrs := withoutHelpers f.attrs }

/-- All fields of a struct: inherited ones that it does not declare itself, then its own. -/
def storage (d : DataType) (own : List Field) : List Field :=
  let missing := d.inheritedPlans.filter fun p => !own.any (·.ident.value == p.backing.value)
  missing.map d.inheritedStorage ++ own.map d.ownStorage

def storedFields (d : DataType) : Fields → Fields
  | .named own _ => .named (d.storage own) false
  | .unit => if d.inheritedPlans.isEmpty then .unit else .named (d.storage []) false
  | fields => fields

end DataType

namespace Struct

/-- The struct as the generated code needs it: the storage of every property, and no helper
attribute. -/
def withStorage (s : Struct) (d : DataType) : Struct :=
  { s with attrs := withoutHelpers s.attrs, fields := d.storedFields s.fields }

def stripFields : Fields → Fields
  | .named fields trailing =>
    .named (fields.map fun f => { f with attrs := withoutHelpers f.attrs }) trailing
  | .positional fields trailing =>
    .positional (fields.map fun f => { f with attrs := withoutHelpers f.attrs }) trailing
  | .unit => .unit

/-- A data struct without the helper attributes. -/
def strip (s : Struct) : Struct :=
  if s.isData then { s with attrs := withoutHelpers s.attrs, fields := stripFields s.fields } else s

end Struct

/-! ### Descriptions -/

/-- What the runtime can be told about a type: its name, the names that are exposed for reading and
for writing, and whether it is mutable. -/
structure Description where
  name : String
  accessors : List String
  writable : List String
  isMutable : Bool

namespace Description

def ofType (d : DataType) (s : AccessorSet) : Description :=
  ⟨d.ident.text, s.getterNames, s.setterNames, d.mode.isMutable⟩

def exposes (d : Description) (name : String) : Bool := d.accessors.contains name

def isWritable (d : Description) (name : String) : Bool := d.writable.contains name

def literals (names : List String) : List Token :=
  Listed.separated (.word ",") false (names.map fun s => [word (Text.stringLiteral s)])

def listConst (name : String) (values : List String) : List Token :=
  words "const" ++ word name :: words ": & 'static" ++ bracket (words "& 'static str") ::
    words "= &" ++ [bracket (literals values), word ";"]

def body (d : Description) : List Token :=
  words "const NAME : & 'static str =" ++ [word (Text.stringLiteral d.name), word ";"] ++
    listConst "ACCESSORS" d.accessors ++ listConst "WRITABLE" d.writable ++
    words "const MUTABLE : bool =" ++ [word (if d.isMutable then "true" else "false"), word ";"]

/-- The implementation that holds the description. -/
def tokens (d : Description) (runtime : Path) (s : AccessorSet) : List Token :=
  word "impl" :: s.generics.bounded ++ runtime.tokens ++ words ":: Data for" ++
    ident s.owner :: s.generics.applied ++ s.generics.whereTokens ++ [brace d.body]

end Description

/-! ### Modules -/

/-- What an item of the source becomes: itself, or a data struct with what is generated for it. -/
inductive Emitted where
  | kept (item : Item)
  | data (s : Struct) (accessors : AccessorSet) (description : Description)

namespace Emitted

def ofItem (r : Run) (policy : InvalidPolicy) (i : Item) : Emitted :=
  match i with
  | .struct s =>
    match if s.isData then r.type? s.ident.value.text else none with
    | some d =>
      let accessors := AccessorSet.ofType d policy
      data (s.withStorage d) accessors (.ofType d accessors)
    | none => kept i
  | _ => kept i

def tokens (runtime : Path) : Emitted → List Token
  | kept i => i.tokens
  | data s accessors description =>
    s.tokens ++ accessors.tokens runtime ++ description.tokens runtime accessors

end Emitted

namespace Module

def inner (m : Module) : List Attr := m.attrs.filter (·.inner)

def outer (m : Module) : List Attr := m.attrs.filter (!·.inner)

/-- The module with the given contents in its braces. -/
def tokensWith (m : Module) (content : List Token) : List Token :=
  m.outer.flatMap Attr.tokens ++ m.vis.tokens ++ (if m.isUnsafe then [word "unsafe"] else []) ++
    [word "mod", Token.ident m.ident] ++
    if m.items.isNone then [word ";"] else [brace (m.inner.flatMap Attr.tokens ++ content)]

def stripItem : Item → Item
  | .struct s => .struct s.strip
  | i => i

/-- The module without helper attributes. -/
def stripped (m : Module) : List Token :=
  m.tokensWith (((m.items.getD []).map stripItem).flatMap Item.tokens)

end Module

namespace Schema

/-- The items of the module with their generated code. -/
def emitted (s : Schema) (r : Run) : List Emitted :=
  s.items.map (.ofItem r s.options.invalid)

/-- The contents of the module: its items, then a failing line for each diagnostic. -/
def content (s : Schema) (r : Run) : List Token :=
  (s.emitted r).flatMap (·.tokens s.options.runtime) ++ r.diagnostics.flatMap (·.compileError)

end Schema

end AccessorSchema
