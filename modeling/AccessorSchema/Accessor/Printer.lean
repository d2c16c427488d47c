import AccessorSchema.Accessor.Basic
import AccessorSchema.Text.Quoted

/-! # The code of accessors

An accessor is printed as a method with a doc comment of its own unless one was forwarded; the
methods of a type make up one inherent implementation. -/

namespace AccessorSchema

open Token

namespace Accessor

variable (runtime : Path) (a : Accessor)

/-- The converter as an implementation of the runtime's conversion from `raw`. -/
def asConverter (raw : Ty) (converter : Path) : List Token :=
  word "<" :: converter.tokens ++ word "as" :: runtime.tokens ++
    words ":: Converter <" ++ raw.tokens ++ [atom ">>" false]

def signature : List Token :=
  [word "fn", ident a.method] ++
    match a.action with
    | .read ty => paren (words "& self") :: words "-> &" ++ ty.tokens
    | .convert raw converter =>
      paren (words "& self") :: word "->" :: asConverter runtime raw converter ++ words ":: Output"
    | .view element =>
      paren (words "& self") :: word "->" :: runtime.tokens ++ words ":: ReadView < '_ ," ++
        element.tokens ++ [word ">"]
    | .write ty => [paren (words "& mut self , value :" ++ ty.tokens)]

/-- A call that must never be reached. -/
def stubBody : List Token :=
  (if a.isSetter then words "let _ = value ;" else []) ++
    words ":: core :: unreachable !" ++
    [paren [word (Text.stringLiteral ("`" ++ a.owner.text ++ "::" ++ a.method.text ++
      "` was rejected by the data schema compiler"))]]

def body : List Token :=
  if a.stubbed then a.stubBody
  else
    match a.action with
    | .read _ => words "& self ." ++ [ident a.backing]
    | .convert raw converter =>
      asConverter runtime raw converter ++ words ":: convert" ++
        [paren (word "&" :: word "<" :: converter.tokens ++
          words "as :: core :: default :: Default > :: default" ++
          paren [] :: words ", & self ." ++ [ident a.backing, word ","])]
    | .view _ =>
      runtime.tokens ++ words ":: ReadView :: new" ++
        [paren (words "& self ." ++ [ident a.backing])]
    | .write _ => words "self ." ++ ident a.backing :: words "= value ;"

def docAttr (text : String) : List Token :=
  [word "#", bracket [word "doc", word "=", word (Text.stringLiteral text)]]

/-- The generated doc comment. -/
def doc : List Token :=
  if a.attrs.any (·.isWord "doc") then []
  else docAttr ((if a.isSetter then "Sets `" else "Returns `") ++ a.exposed ++ "`.")

def tokens : List Token :=
  a.doc ++ a.attrs.flatMap Attr.tokens ++ [word "#", bracket [word "inline"]] ++ a.vis.tokens ++
    a.signature runtime ++ [brace (a.body runtime)]

end Accessor

namespace AccessorSet

/-- The head of the inherent implementation. -/
def head (s : AccessorSet) : List Token :=
  word "impl" :: s.generics.bounded ++ ident s.owner :: s.generics.applied ++ s.generics.whereTokens

def tokens (runtime : Path) (s : AccessorSet) : List Token :=
  s.head ++ [brace (s.members.flatMap (·.tokens runtime))]

end AccessorSet

end AccessorSchema
