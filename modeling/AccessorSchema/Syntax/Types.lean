import AccessorSchema.Syntax.Bounds

/-! # Reading types

Plain paths, groups in parentheses, arrays and slices are kept as such; all other forms are read
into code that still holds the types inside them.  A few forms are kept as written: a fat pointer
to an object, a receiver that can change, and what the compiler builds in. -/

namespace AccessorSchema

namespace TypeForm

/-- A type that cannot be the first of several bounds. -/
def alone (t : Ty) : TypeForm := ⟨t, none⟩

/-- A type that is nothing but the code of a bound. -/
def ofBound (code : Code) : TypeForm := ⟨.other code, some code⟩

def ofCode (code : Code) : TypeForm := alone (.other code)

end TypeForm

namespace Grammar

open Reader TokenTree

variable (g : Grammar)

/-- What a type can start with, in the words of the error that misses one. -/
def typeStarts : List String :=
  ["`for`", "parentheses", "`fn`", "`unsafe`", "`extern`", "identifier", "`::`", "`<`", "`dyn`",
   "square brackets", "`*`", "`&`", "`!`", "`impl`", "`_`", "lifetime"]

/-- What can follow the quantifier of a type. -/
def quantifiedStarts : List String :=
  ["identifier", "`fn`", "`unsafe`", "`extern`", "`super`", "`self`", "`Self`", "`crate`"]

/-! ### Function types -/

def abi : Reader Code := do
  let e ← word "extern"
  return e ++ (← optional (atLiteralOf Literal.isString) literalCode)

def optAbi : Reader Code := optional (atWord "extern") abi

/-- An argument that stands for any number of further ones. -/
def atVariadic (ts : List TokenTree) : Bool :=
  atMark "..." ts || ((atName ts || atWord "_" ts) && atMark ":" (behind ts) &&
    atMark "..." (behind (behind ts)))

/-- Any number of further arguments; they end the list. -/
def variadicArg : Reader Code := do
  let x ← optional atIdent do
    let x ← identCode anyIdent
    return x ++ (← mark ":")
  let dots ← mark "..."
  return x ++ dots ++ (← optMark ",")

/-- A receiver that can change, with what stands in front of it. -/
def atMutSelf (ts : List TokenTree) : Bool := atWord "mut" ts && atWord "self" (behind ts)

/-- The name of an argument in front of its type. -/
def atArgName (mayBeSelf : Bool) (ts : List TokenTree) : Bool :=
  (atName ts || atWord "_" ts || (mayBeSelf && atWord "self" ts)) && atColon (behind ts)

/-- An argument with its type.  The first one may be a receiver, and one that can change is kept
as written. -/
def typedArg (isFirst : Bool) : Reader Code := do
  let start ← look
  let canChange := isFirst && atMutSelf start
  let _ ← if canChange then word "mut" else pure []
  let named ← looksAt (atArgName isFirst)
  let isSelf := named && (← looksAt (atWord "self"))
  let x ← if named then do
      let x ← identCode anyIdent
      pure (x ++ (← mark ":"))
    else pure []
  let ts ← look
  if isFirst && !isSelf && atMutSelf ts then
    let _ ← word "mut"
    let _ ← word "self"
    keptSince start
  else if canChange && !named then
    let _ ← word "self"
    keptSince start
  else
    let t ← g.tyCode true
    if canChange then keptSince start else return x ++ t

def functionArg (before : List Code) : Reader (Code × Bool) := do
  let attrs ← g.outerCode
  if ← looksAt atVariadic then return (attrs ++ (← variadicArg), true)
  else return (attrs ++ (← g.typedArg before.isEmpty), false)

def functionType : Reader Code := do
  let u ← optWord "unsafe"
  let e ← optAbi
  let f ← word "fn"
  let (inputs, complaint) ← opened .paren (codeOf "," (series "," (·.isEmpty) g.functionArg))
  let out ← g.output false
  note complaint
  return u ++ e ++ f ++ .group .paren inputs :: out

/-! ### Parentheses and brackets -/

/-- The contents of parentheses in type position. -/
inductive Enclosed where
  | tuple (code : Code)
  /-- Bounds that start with a lifetime. -/
  | object (t : Ty)
  /-- An optional trait. -/
  | maybe (code : Code)
  | single (t : TypeForm)

def enclosed : Reader Enclosed := do
  let ts ← look
  if ts.isEmpty then return .tuple []
  else if atLifetime ts then return .object (← g.ty true)
  else if atMark "?" ts then return .maybe ((← g.traitBound false).getD [])
  else
    let first ← g.typeForm true
    if ← looksAt (atMark ",") then
      let comma ← mark ","
      return .tuple (.type first.ty :: comma ++ (← commaCode (g.tyCode true)))
    else return .single first

/-- A bound in parentheses with the bounds that follow it. -/
def enclosedBound (code : Code) : Reader TypeForm := do
  let whole ← g.furtherBounds [.group .paren code] fun _ => true
  return ⟨.other whole, if whole.length == 1 then some code else none⟩

def parenType (plus : Bool) : Reader TypeForm := do
  let (content, complaint) ← opened .paren g.enclosed
  let goesOn := plus && (← looksAt (atMark "+"))
  let form ← match content with
    | .tuple code => pure (.ofCode [.group .paren code])
    | .object t => pure (.alone (.paren t))
    | .maybe code => g.enclosedBound code
    | .single t =>
      match if goesOn then t.bound else none with
      | some code => g.enclosedBound code
      | none => pure (.alone (.paren t.ty))
  note complaint
  return form

def bracketType : Reader Ty := within .bracket do
  let t ← g.ty true
  if ← looksAt (atMark ";") then
    let _ ← mark ";"
    return .array t (← g.exprCode)
  else return .slice t

/-! ### Types that start with a path -/

def pathType (plus : Bool) (before : Code) : Reader TypeForm := do
  let p ← g.pathForm false
  let ts ← look
  if p.qualified then return .ofCode p.code
  else if atBang ts && namesMacro p then return .ofCode (← invocation p).2
  else if plus && atMark "+" ts then
    return .ofCode (← g.furtherBounds (before ++ p.code) (atBound false))
  else if !before.isEmpty then return .ofBound (before ++ p.code)
  else return ⟨.path p.path, some p.code⟩

/-! ### All types -/

def pointerType : Reader Code := do
  let star ← mark "*"
  let ts ← look
  let kind ← if atWord "const" ts then word "const" else if atWord "mut" ts then word "mut"
    else failExpected ["`const`", "`mut`"]
  return star ++ kind ++ (← g.tyCode false)

def referenceType : Reader Code := do
  let amp ← mark "&"
  let life ← optional atLifetime lifetime
  let m ← optWord "mut"
  return amp ++ life ++ m ++ (← g.tyCode false)

/-- An object; behind a star it is kept as written. -/
def objectType (plus : Bool) : Reader Code := do
  let ts ← look
  let start ← here
  let d ← word "dyn"
  let star ← optMark "*"
  let sum ← g.traitSum plus false .noObjectTrait start
  if star.isEmpty then return d ++ sum else keptSince ts

def implementedType (plus : Bool) : Reader Code := do
  let start ← here
  let i ← word "impl"
  return i ++ (← g.traitSum plus true .noTrait start)

/-- What the compiler builds in, in expressions and types. -/
def atBuiltin (ts : List TokenTree) : Bool := atWord "builtin" ts && atMark "#" (behind ts)

/-- A form that the compiler builds in, kept as written from `start` on. -/
def builtinForm (start : List TokenTree) : Reader Code := do
  let _ ← word "builtin"
  let _ ← mark "#"
  let _ ← name
  let _ ← within .paren verbatim
  keptSince start

/-- A type behind the quantifier `before`, which is in front at `start`. -/
def unquantified (plus : Bool) (start : List TokenTree) (before : Code) : Reader TypeForm := do
  let ts ← look
  if atGroup .paren ts then g.parenType plus
  else if atAnyWord ["fn", "unsafe", "extern"] ts then return .ofCode (before ++ (← g.functionType))
  else if atBuiltin ts then return .ofCode (← builtinForm start)
  else if atAnyPath ts then g.pathType plus before
  else if atWord "dyn" ts then return .ofCode (← g.objectType plus)
  else if atGroup .bracket ts then return .alone (← g.bracketType)
  else if atMark "*" ts then return .ofCode (← g.pointerType)
  else if atMark "&" ts then return .ofCode (← g.referenceType)
  else if atMark "!" ts then return .ofCode (← mark "!")
  else if atWord "impl" ts then return .ofCode (← g.implementedType plus)
  else if atWord "_" ts then return .ofCode (← word "_")
  else if atLifetime ts then return .ofCode (← g.traitSum true false .noObjectTrait (← here))
  else failExpected typeStarts

def typeRule (plus : Bool) : Reader TypeForm := do
  let start ← look
  let before ← g.quantifier
  let ts ← look
  if !before.isEmpty && !(atName ts || atPathWord ts || atAnyWord ["fn", "unsafe", "extern"] ts)
  then failExpected quantifiedStarts
  else g.unquantified plus start before

end Grammar

end AccessorSchema
