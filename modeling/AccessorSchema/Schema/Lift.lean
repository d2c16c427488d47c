import AccessorSchema.Schema.MemberOptions
import AccessorSchema.Schema.Options

/-! # Declarations of a schema module

A schema module holds data types among its items: the structs with a `data` attribute.  Reading
it goes through its options, then its structs with their fields, and finds every error on the
way; only a module without errors has declarations.  The symbols it knows are its own types and
converters and what its options add. -/

namespace AccessorSchema

/-- What a schema module declares. -/
structure Schema where
  options : SchemaOptions
  decls : List TypeDecl
  items : List Item

namespace Struct

def dataAttr? (s : Struct) : Option Attr := s.attrs.find? (·.isData)

def isData (s : Struct) : Bool := s.dataAttr?.isSome

def namedFields : Fields → List Field
  | .named fields _ => fields
  | _ => []

/-- The base in the options of a struct has to be a path. -/
def baseErrors (o : DataOptions) : List AttributeError :=
  match o.base with
  | some t =>
    if (BaseRef.ofType? t.value).isSome then [] else [⟨.unusableBase, t.span, none⟩]
  | none => []

/-- Errors in the fields; fields without names are one error. -/
def fieldErrors (s : Struct) : List AttributeError :=
  match s.fields with
  | .positional _ _ => [⟨.unnamedFields, s.ident.span, none⟩]
  | fields => (namedFields fields).flatMap (·.errors)

/-- The options of a data struct, and what is wrong with them. -/
def dataOptions (a : Attr) : DataOptions × List AttributeError :=
  match DataOptions.ofAttr a with
  | .ok o => (o, baseErrors o)
  | .error es => (.default, es)

def declWith (s : Struct) (o : DataOptions) : TypeDecl :=
  { ident := s.ident.value
    generics := s.generics
    base := o.base.bind fun t => (BaseRef.ofType? t.value).map (Located.mk · t.span)
    mode := .ofBool o.isMutable
    fragment := 0
    members := (namedFields s.fields).filterMap (·.member?) }

/-- The declaration of a struct with its errors, none if the struct is no data type. -/
def decl? (s : Struct) : Option (TypeDecl × List AttributeError) :=
  s.dataAttr?.map fun a =>
    let (o, errors) := dataOptions a
    (s.declWith o, errors ++ s.fieldErrors)

end Struct

namespace Item

def struct? : Item → Option Struct
  | struct s => some s
  | _ => none

/-- Adds what an item defines. -/
def addTo (s : Symbols) : Item → Symbols
  | struct t => s.addType (.ofIdent t.ident.value)
  | naming x _ => s.addType (.ofIdent x)
  | implementation trait (.path p) _ =>
    if trait.last?.any (·.ident.isWord "Converter") then s.addConverter p else s
  | _ => s

end Item

namespace Schema

/-- Declarations of the data types among the items, each with its errors. -/
def declsOf (items : List Item) : List (TypeDecl × List AttributeError) :=
  (items.filterMap (·.struct?)).filterMap (·.decl?)

/-- The options from the arguments of the module's attribute; errors leave the defaults. -/
def optionsOf (args : List TokenTree) : SchemaOptions × List AttributeError :=
  match SchemaOptions.read args with
  | .ok o => (o, [])
  | .error es => (.default, es)

/-- Reads a module under the arguments of its attribute. -/
def ofModule (args : List TokenTree) (m : Module) : Except (List AttributeError) Schema :=
  let (options, errors) := optionsOf args
  match m.items with
  | none => .error (errors ++ [⟨.moduleWithoutBody, m.span, none⟩])
  | some items =>
    let declared := declsOf items
    let all := errors ++ declared.flatMap (·.2)
    if all.isEmpty then .ok ⟨options, declared.map (·.1), items⟩ else .error all

/-- The symbols that members may refer to. -/
def symbols (s : Schema) : Symbols :=
  let known := s.items.foldl Item.addTo .empty
  let known := s.options.converters.foldl Symbols.addConverter known
  s.options.decorations.foldl Symbols.addDecoration known

/-- Compiles the declarations. -/
def run? (s : Schema) : Except IdentFault Run := Run.ofDecls? s.symbols.resolve s.decls

/-- The run of `run?` if it does not break off. -/
def run (s : Schema) : Run := .ofDecls s.symbols.resolve s.decls

end Schema

end AccessorSchema
