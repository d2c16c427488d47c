import AccessorSchema.Syntax.Equality
import AccessorSchema.Syntax.Expr
import AccessorSchema.Syntax.Printer

/-! # Attributes, visibilities, generics and items

Module items are kept apart as far as the compiler tells them apart: structs in full,
implementations with the trait and type they are about, other named types with their name, and
all else as code. -/

namespace AccessorSchema

/-! ### Attributes -/

inductive MetaArgs where
  | none
  | list (delim : Delim) (body : List TokenTree) (closing : Span)
  | value (e : Located Expr)

/-- The contents of an attribute: a path, alone or with arguments. -/
structure Meta where
  path : Located Path
  args : MetaArgs

structure Attr where
  inner : Bool
  content : Meta
  span : Span

namespace Meta

def code (m : Meta) : Code :=
  m.path.value.code ++
    match m.args with
    | .none => []
    | .list d body _ => [.group d (Piece.ofTokens (TokenTree.tokens body))]
    | .value e => .word "=" :: e.value.code

def tokens (m : Meta) : List Token := Code.tokens m.code

def isWord (m : Meta) (w : String) : Bool := m.path.value.isWord w

end Meta

namespace Attr

def code (a : Attr) : Code :=
  .word "#" :: (if a.inner then [.word "!"] else []) ++ [.group .bracket a.content.code]

def tokens (a : Attr) : List Token := Code.tokens a.code

def isWord (a : Attr) (w : String) : Bool := a.content.isWord w

/-- An outer attribute that no source holds. -/
def ofMeta (m : Meta) : Attr := ⟨false, m, m.path.span⟩

end Attr

/-! ### Visibility -/

inductive Vis where
  | inherited
  | everywhere
  | restricted (isIn : Bool) (path : Path)
deriving DecidableEq, Inhabited

namespace Vis

def code : Vis → Code
  | inherited => []
  | everywhere => [.word "pub"]
  | restricted isIn p =>
    [.word "pub", .group .paren ((if isIn then [.word "in"] else []) ++ p.code)]

def tokens (v : Vis) : List Token := Code.tokens v.code

/-- Private: not marked at all, or marked `pub(self)`. -/
def isPrivate : Vis → Bool
  | inherited => true
  | restricted isIn p => !isIn && p.isWord "self"
  | everywhere => false

end Vis

/-! ### Generics -/

inductive Param where
  | lifetime (attrs : Code) (name : String) (bounds : Code)
  | type (attrs : Code) (ident : Ident) (bounds fallback : Code)
  | const (attrs : Code) (ident : Ident) (type fallback : Code)

/-- Generic parameters with the where clause that goes with them. -/
structure Generics where
  params : List Param
  trailing : Bool
  whereClause : Option Code

instance : Inhabited Generics := ⟨⟨[], false, none⟩⟩

namespace Param

def isLifetime : Param → Bool
  | lifetime _ _ _ => true
  | _ => false

/-- The name of a type parameter. -/
def typeIdent? : Param → Option Ident
  | type _ x _ _ => some x
  | _ => none

def bound (bounds : Code) : Code := if bounds.isEmpty then [] else .word ":" :: bounds

def default (fallback : Code) : Code := if fallback.isEmpty then [] else .word "=" :: fallback

/-- As declared. -/
def declared : Param → Code
  | lifetime attrs x bounds => attrs ++ .word ("'" ++ x) :: bound bounds
  | type attrs x bounds fallback => attrs ++ .word x.text :: bound bounds ++ default fallback
  | const attrs x ty fallback =>
    attrs ++ .word "const" :: .word x.text :: .word ":" :: ty ++ default fallback

/-- Behind `impl`: without its default. -/
def bounded : Param → Code
  | lifetime attrs x bounds => attrs ++ .word ("'" ++ x) :: bound bounds
  | type attrs x bounds _ => attrs ++ .word x.text :: bound bounds
  | const attrs x ty _ => attrs ++ .word "const" :: .word x.text :: .word ":" :: ty

/-- As an argument: the name alone. -/
def applied : Param → Code
  | lifetime _ x _ => [.word ("'" ++ x)]
  | type _ x _ _ => [.word x.text]
  | const _ x _ _ => [.word x.text]

end Param

namespace Generics

def typeParams (g : Generics) : List Ident := g.params.filterMap (·.typeIdent?)

/-- The parameters between angle brackets, each printed by `f`; nothing if there are none. -/
def print (g : Generics) (f : Param → Code) : Code :=
  if g.params.isEmpty then []
  else
    .word "<" ::
      Listed.print (.word ",") (Listed.ofList g.trailing
        (g.params.map fun p => (p.isLifetime, f p))) ++ [.word ">"]

/-- The parameters as declared. -/
def code (g : Generics) : Code := g.print Param.declared

def whereCode (g : Generics) : Code := g.whereClause.getD []

def declared (g : Generics) : List Token := Code.tokens g.code

def bounded (g : Generics) : List Token := Code.tokens (g.print Param.bounded)

def applied (g : Generics) : List Token := Code.tokens (g.print Param.applied)

def whereTokens (g : Generics) : List Token := Code.tokens g.whereCode

end Generics

/-! ### Structs -/

structure Field where
  attrs : List Attr
  vis : Located Vis
  ident : Located Ident
  ty : Located Ty
  span : Span

/-- A field of a tuple struct. -/
structure Positional where
  attrs : List Attr
  code : Code

inductive Fields where
  | named (fields : List Field) (trailing : Bool)
  | positional (fields : List Positional) (trailing : Bool)
  | unit

structure Struct where
  attrs : List Attr
  vis : Vis
  ident : Located Ident
  generics : Generics
  fields : Fields

namespace Field

def code (f : Field) : Code :=
  f.attrs.flatMap Attr.code ++ f.vis.value.code ++
    [.word f.ident.value.text, .word ":", .type f.ty.value]

end Field

def Positional.fullCode (f : Positional) : Code := f.attrs.flatMap Attr.code ++ f.code

namespace Fields

/-- Fields with commas between them, in their delimiters. -/
def code : Fields → Code
  | named fields trailing =>
    [.group .brace (Listed.separated (.word ",") trailing (fields.map Field.code))]
  | positional fields trailing =>
    [.group .paren (Listed.separated (.word ",") trailing (fields.map Positional.fullCode))]
  | unit => []

end Fields

namespace Struct

/-- The fields with the where clause; only named fields stand behind it and need no semicolon. -/
def bodyCode (s : Struct) : Code :=
  match s.fields with
  | .named _ _ => s.generics.whereCode ++ s.fields.code
  | .positional _ _ | .unit => s.fields.code ++ s.generics.whereCode ++ [.word ";"]

def code (s : Struct) : Code :=
  s.attrs.flatMap Attr.code ++ s.vis.code ++ .word "struct" :: .word s.ident.value.text ::
    s.generics.code ++ s.bodyCode

def tokens (s : Struct) : List Token := Code.tokens s.code

end Struct

/-! ### Items -/

inductive Item where
  | struct (s : Struct)
  /-- An implementation of a trait. -/
  | implementation (trait : Path) (self : Ty) (code : Code)
  /-- An enumeration, a union or a type alias. -/
  | naming (ident : Ident) (code : Code)
  | other (code : Code)

namespace Item

def code : Item → Code
  | struct s => s.code
  | implementation _ _ code | naming _ code | other code => code

def tokens (i : Item) : List Token := Code.tokens i.code

end Item

/-- A module; `items` is absent when it has no body in braces. -/
structure Module where
  attrs : List Attr
  vis : Vis
  isUnsafe : Bool
  ident : Ident
  items : Option (List Item)
  span : Span

end AccessorSchema
