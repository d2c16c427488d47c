import AccessorSchema.Syntax.Members

/-! # Reading items and modules

An item is told by the words in front of it.  What the compiler's own grammar takes but the language
does not allow is kept as written, with its attributes. -/

namespace AccessorSchema.Grammar

open Reader TokenTree

variable (g : Grammar)

/-! ### Fields -/

def namedFieldsWith (field : Reader Field) : Reader Fields := do
  let (fs, trailing) ← within .brace (commaList field)
  return .named fs trailing

/-- A field with the reader for its type, which knows whether the field has a name. -/
def fieldWith (type : Bool → Reader Ty) : Reader Field := do
  let f ← located do
    let attrs ← g.outerAttrs
    let vis ← located visibility
    let blank ← looksAt (atWord "_")
    let x ← located (nameOr ["_"])
    let _ ← mark ":"
    return (attrs, vis, x, ← located (type blank))
  let (attrs, vis, x, t) := f.value
  return ⟨attrs, vis, x, t, f.span⟩

/-- Fields without a name of their own, in a field that has none. -/
def atInnerFields (ts : List TokenTree) : Bool :=
  atWord "struct" ts || (atWord "union" ts && atGroup .brace (behind ts))

/-- The type of a field; the fields inside a field without a name are kept as written. -/
def fieldTypeWith (fuel : Nat) (blank : Bool) : Reader Ty :=
  match fuel with
  | 0 => g.ty true
  | fuel + 1 => do
    let ts ← look
    if blank && atInnerFields ts then
      let _ ← anyIdent
      let _ ← namedFieldsWith (g.fieldWith (fieldTypeWith fuel))
      return .other (← keptSince ts)
    else g.ty true

def namedFields : Reader Fields := do
  let ts ← look
  namedFieldsWith (g.fieldWith (g.fieldTypeWith (sizeAll (ts.take 1) + 1)))

def positionalField : Reader Positional := do
  let attrs ← g.outerAttrs
  let vis ← visibility
  return ⟨attrs, vis.code ++ (← g.tyCode true)⟩

def positionalFields : Reader Fields := do
  let (fs, trailing) ← within .paren (commaList g.positionalField)
  return .positional fs trailing

/-! ### Types -/

def structItem (attrs : List Attr) (vis : Vis) : Reader Item := do
  let _ ← word "struct"
  let x ← located name
  let gs ← g.generics
  let build (clause : Option Code) (fields : Fields) : Item :=
    .struct ⟨attrs, vis, x, { gs with whereClause := clause }, fields⟩
  let w ← g.optWhere
  let unclaused := if w.isNone then ["`where`"] else []
  let ts ← look
  if w.isNone && atGroup .paren ts then
    let fs ← g.positionalFields
    let w ← g.optWhere
    if ← looksAt (atMark ";") then
      let _ ← mark ";"
      return build w fs
    else failExpected ((if w.isNone then ["`where`"] else []) ++ ["`;`"])
  else if atGroup .brace ts then return build w (← g.namedFields)
  else if atMark ";" ts then
    let _ ← mark ";"
    return build w .unit
  else
    failExpected (unclaused ++ (if w.isNone then ["parentheses"] else []) ++
      ["curly braces", "`;`"])

/-- A variant; a visibility in front of it is dropped. -/
def variant : Reader Code := do
  let attrs ← g.outerCode
  let _ ← visibility
  let x ← identCode name
  let ts ← look
  let fs ← if atGroup .brace ts then g.namedFields else if atGroup .paren ts then g.positionalFields
    else pure .unit
  let value ← optional (atMark "=") do
    let eq ← mark "="
    return eq ++ (← g.exprCode)
  return attrs ++ x ++ fs.code ++ value

def enumItem (lead : Code) : Reader Item := do
  let w ← word "enum"
  let x ← name
  let gs ← g.genericsCode
  let wh ← g.whereCode
  let body ← grouped .brace (commaCode g.variant)
  return .naming x (lead ++ w ++ .word x.text :: gs ++ wh ++ body)

def unionItem (lead : Code) : Reader Item := do
  let w ← word "union"
  let x ← name
  let gs ← g.genericsCode
  let wh ← g.whereCode
  let fs ← g.namedFields
  return .naming x (lead ++ w ++ .word x.text :: gs ++ wh ++ fs.code)

/-- A type alias; with bounds or without a type it is kept as written. -/
def aliasItem (lead : Code) : Reader (Option Item) := do
  let t ← g.typeDefinition .front
  if t.bounds.isSome || t.value.isEmpty then return none
  else return some (.naming t.ident (lead ++ t.head ++ t.whereClause ++ t.value ++ [.word ";"]))

/-! ### Functions, constants, variables -/

/-- A function; without a body it is kept as written. -/
def functionItem (lead : Code) : Reader (Option Item) := do
  let s ← g.signature
  if ← looksAt (atMark ";") then
    let _ ← mark ";"
    return none
  else return some (.other (lead ++ s ++ (← g.attributedBlock)))

/-- A variable; without a type or a value it is kept as written. -/
def staticItem (lead : Code) : Reader (Option Item) := do
  let w ← word "static"
  let m ← optWord "mut"
  let x ← identCode name
  if ← looksAt (atMark "=") then
    let _ ← mark "="
    let _ ← g.exprCode
    let _ ← mark ";"
    return none
  else
    let colon ← mark ":"
    let t ← g.tyCode true
    if ← looksAt (atMark ";") then
      let _ ← mark ";"
      return none
    else
      let eq ← mark "="
      let e ← g.exprCode
      return some (.other (lead ++ w ++ m ++ x ++ colon ++ t ++ eq ++ e ++ (← mark ";")))

def constItem (lead : Code) : Reader (Option Item) := do
  let _ ← word "const"
  let x ← constantName []
  let c ← g.constant x
  return if c.hasValue && !c.isGeneric then some (.other (lead ++ c.code)) else none

/-! ### Imports -/

/-- What an import is renamed to; `others` says what is wrong with anything else. -/
def newName (others : Reader Ident) : Reader Code := optional (atWord "as") do
  let w ← word "as"
  let ts ← look
  return w ++ (← identCode (if atName ts || atWord "_" ts then anyIdent else others))

/-- The tree of an import, `none` if it is kept as written.  Inside braces that no path leads to,
`mayRoot`, a tree may start with `::`; `fuel` bounds how deep the braces nest. -/
def useTree (fuel : Nat) (mayRoot : Bool) : Reader (Option Code) :=
  match fuel with
  | 0 => failExpected []
  | fuel + 1 => do
    let ts ← look
    if atMark "*" ts then return some (← mark "*")
    else if atGroup .brace ts then
      let (trees, trailing) ← within .brace (commaList do
        let rooted ← if mayRoot then optMark "::" else pure []
        let tree ← useTree fuel (mayRoot && rooted.isEmpty)
        return if rooted.isEmpty then tree else none)
      return (trees.mapM id).map fun all => [.group .brace (joinCode "," trailing all)]
    else
      unless atName ts || atAnyWord ["self", "super", "crate", "try"] ts do
        failExpected ["identifier", "`self`", "`super`", "`crate`", "`try`", "`*`", "curly braces"]
      let x ← identCode anyIdent
      if ← looksAt (atMark "::") then
        let sep ← mark "::"
        return (← useTree fuel false).map (x ++ sep ++ ·)
      else return some (x ++ (← newName (failExpected ["identifier or underscore"])))

def useItem (lead : Code) : Reader (Option Item) := do
  let w ← word "use"
  let rooted ← optMark "::"
  let tree ← useTree (sizeAll (← look) + 1) rooted.isEmpty
  let semi ← mark ";"
  return tree.map fun code => .other (lead ++ w ++ rooted ++ code ++ semi)

def externCrate (lead : Code) : Reader Item := do
  let e ← word "extern"
  let c ← word "crate"
  let x ← identCode (nameOr ["self"])
  let rename ← newName name
  return .other (lead ++ e ++ c ++ x ++ rename ++ (← mark ";"))

/-! ### Macros -/

/-- A macro with what it defines, if that has a name. -/
def macroItem (lead : Code) : Reader Item := do
  let p ← modulePath
  let bang ← mark "!"
  let x ← optional (fun ts => atName ts || atWord "try" ts) (identCode anyIdent)
  let (d, args) ← invocationArgs
  let semi ← if d == .brace then pure [] else mark ";"
  return .other (lead ++ p.code ++ bang ++ x ++ args ++ semi)

/-- A declarative macro with its own keyword, kept as written. -/
def macroDefinition : Reader (Option Item) := do
  let _ ← word "macro"
  let _ ← name
  let ts ← look
  let enclosed := atGroup .paren ts
  let _ ← if enclosed then grouped .paren verbatim else pure []
  if ← looksAt (atGroup .brace) then
    let _ ← grouped .brace verbatim
    return none
  else failExpected ((if enclosed then [] else ["parentheses"]) ++ ["curly braces"])

/-! ### Traits and implementations -/

/-- A trait behind its parameters. -/
def traitBody (lead : Code) : Reader Item := do
  let supers ← optional (atMark ":") do
    let colon ← mark ":"
    let bounds ← g.boundsUpTo (fun ts => atWord "where" ts || atGroup .brace ts) true
    return if bounds.isEmpty then [] else colon ++ bounds
  let wh ← g.whereCode
  return .other (lead ++ supers ++ wh ++ (← g.memberList g.traitMember))

/-- A name for bounds. -/
def traitAlias (lead : Code) : Reader Item := do
  let eq ← mark "="
  let bounds ← g.boundsUpTo (fun ts => atWord "where" ts || atMark ";" ts) false
  let wh ← g.whereCode
  return .other (lead ++ eq ++ bounds ++ wh ++ (← mark ";"))

/-- A trait; one that is neither unsafe nor automatic may be an alias. -/
def traitItem (lead : Code) : Reader Item := do
  let u ← optWord "unsafe"
  let a ← optWord "auto"
  let w ← word "trait"
  let x ← identCode name
  let gs ← g.genericsCode
  let head := lead ++ u ++ a ++ w ++ x ++ gs
  let ts ← look
  if !(u ++ a).isEmpty || atGroup .brace ts || atMark ":" ts || atWord "where" ts then
    g.traitBody head
  else if atMark "=" ts then g.traitAlias head
  else failExpected ["curly braces", "`:`", "`where`", "`=`"]

/-- A constant implementation, which is kept as written. -/
def constImpl : Reader Code :=
  optional (fun ts => atWord "const" (if atMark "?" ts then behind ts else ts)) do
    let question ← optMark "?"
    return question ++ (← word "const")

/-- An implementation.  It is kept as written with a visibility, when it is constant, and when what
it implements is no path. -/
def implItem (lead : Code) (visible : Bool) : Reader (Option Item) := do
  let d ← optWord "default"
  let u ← optWord "unsafe"
  let w ← word "impl"
  let gs ← if ← looksAt atGenerics then g.genericsCode else pure []
  let isConst := !(← constImpl).isEmpty
  let bang ← located (optional (fun ts => atMark "!" ts && !atGroup .brace (behind ts)) (mark "!"))
  let first ← g.ty true
  let head := lead ++ d ++ u ++ w ++ gs ++ bang.value
  let kept := visible || isConst
  if ← looksAt (atWord "for") then
    let f ← word "for"
    let self ← g.ty true
    let wh ← g.whereCode
    let body ← g.memberList g.implMember
    return match first with
      | .path p =>
        if kept then none
        else some (.implementation p self (head ++ p.code ++ f ++ .type self :: wh ++ body))
      | _ => none
  else
    unless bang.value.isEmpty do
      failAt .negativeInherent bang.span
    let wh ← g.whereCode
    let body ← g.memberList g.implMember
    return if kept then none else some (.other (head ++ .type first :: wh ++ body))

/-- A block of foreign items, from its `extern` on. -/
def foreignBlock (lead : Code) : Reader Item := do
  let e ← abi
  return .other (lead ++ e ++ (← g.memberList g.foreignMember))

/-! ### All items -/

/-- What an item can start with, in the words of the error that misses one; words that are there but
begin nothing here are left out. -/
def itemStarts (ts : List TokenTree) : List String :=
  (["fn", "extern", "use", "static", "const", "unsafe", "mod", "type", "struct", "enum", "union",
    "trait", "auto", "impl", "default", "macro"].filter (!atWord · ts)).map SyntaxFault.quoted

/-- The body of a module, or the semicolon in its place; attributes of the whole stand in front. -/
def moduleBody : Reader (Option (List Attr × List Item)) := do
  let ts ← look
  if atMark ";" ts then
    let _ ← mark ";"
    return none
  else if atGroup .brace ts then
    return some (← within .brace do
      let attrs ← g.innerAttrs
      let items ← many (!·.isEmpty) do
        let start ← look
        g.item start (← g.outerAttrs)
      return (attrs, items))
  else failExpected ["`;`", "curly braces"]

/-- The head of a module: whether it is unsafe, and its name. -/
def moduleHead : Reader (Bool × Ident) := do
  let u ← optWord "unsafe"
  let _ ← word "mod"
  return (!u.isEmpty, ← nameOr ["try"])

def nestedModule (lead : Code) : Reader Item := do
  let (isUnsafe, x) ← moduleHead
  let front := if isUnsafe then [.word "unsafe"] else []
  let head := lead ++ front ++ [.word "mod", .word x.text]
  match ← g.moduleBody with
  | none => return .other (head ++ [.word ";"])
  | some (attrs, items) =>
    return .other (head ++ [.group .brace (attrs.flatMap Attr.code ++ items.flatMap Item.code)])

/-- An item that starts with `extern` and is no function.  A foreign block has no visibility. -/
def externItem (lead : Code) (vis : Located Vis) : Reader Item := do
  let next := behind (← look)
  if atWord "crate" next then externCrate lead
  else
    let named := atLiteralOf Literal.isString next
    if atGroup .brace (if named then behind next else next) then
      unless vis.value == .inherited do
        failAt (.expected false ["`extern`"]) vis.span
      g.foreignBlock lead
    else
      let _ ← abi
      failExpected ((if named then [] else ["`crate`"]) ++ "curly braces" ::
        if named then [] else ["string literal"])

/-- An item that starts with `unsafe` and is no function. -/
def unsafeItem (lead : Code) (vis : Located Vis) : Reader (Option Item) := do
  let next := behind (← look)
  if atWord "trait" next || (atWord "auto" next && atWord "trait" (behind next)) then
    some <$> g.traitItem lead
  else if atWord "impl" next then g.implItem lead (vis.value != .inherited)
  else if atWord "extern" next then
    unless vis.value == .inherited do
      failAt (.expected false ["`extern`"]) vis.span
    let u ← word "unsafe"
    some <$> g.foreignBlock (lead ++ u)
  else if atWord "mod" next then some <$> g.nestedModule lead
  else
    let _ ← word "unsafe"
    failExpected (["`trait`"] ++ (if atWord "auto" next then [] else ["`auto`"]) ++
      ["`impl`", "`extern`", "`mod`"])

/-- An item behind its attributes; `none` if it is kept as written. -/
def itemOf (attrs : List Attr) : Reader (Option Item) := do
  let start ← here
  let vis ← located visibility
  let vis := ⟨vis.value, start⟩
  let visible := vis.value != .inherited
  let lead := attrs.flatMap Attr.code ++ vis.value.code
  let ts ← look
  let next := behind ts
  if atSignature false ts then g.functionItem lead
  else if atWord "extern" ts then some <$> g.externItem lead vis
  else if atWord "use" ts then useItem lead
  else if atWord "static" ts then g.staticItem lead
  else if atWord "const" ts then g.constItem lead
  else if atWord "unsafe" ts then g.unsafeItem lead vis
  else if atWord "mod" ts then some <$> g.nestedModule lead
  else if atWord "type" ts then g.aliasItem lead
  else if atWord "struct" ts then some <$> g.structItem attrs vis.value
  else if atWord "enum" ts then some <$> g.enumItem lead
  else if atWord "union" ts && atName next then some <$> g.unionItem lead
  else if atWord "trait" ts || (atWord "auto" ts && atWord "trait" next) then
    some <$> g.traitItem lead
  else if atWord "impl" ts || atDefault ts then g.implItem lead visible
  else if atWord "macro" ts then macroDefinition
  else if !visible && atMacroPath ts then some <$> macroItem lead
  else failExpected (itemStarts ts ++ if visible then [] else macroStarts)

def itemRule (start : List TokenTree) (attrs : List Attr) : Reader Item := do
  match ← g.itemOf attrs with
  | some i => return i
  | none => return .other (← keptSince start)

/-- A module that stands alone. -/
def moduleRule : Reader Module := do
  let start ← here
  let attrs ← g.outerAttrs
  let vis ← visibility
  let (isUnsafe, x) ← moduleHead
  let body ← located g.moduleBody
  let span := start.through body.span
  match body.value with
  | none => return ⟨attrs, vis, isUnsafe, x, none, span⟩
  | some (inner, items) => return ⟨attrs ++ inner, vis, isUnsafe, x, some items, span⟩

end AccessorSchema.Grammar
