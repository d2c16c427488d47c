import AccessorSchema.Syntax.Functions

/-! # Reading members of traits, implementations and foreign blocks

Members are functions, constants, types and calls of macros.  What the compiler's own grammar takes
but the language does not allow is kept as written, such as a visibility in a trait. -/

namespace AccessorSchema

/-- A constant from its name on.  A generic one has angle brackets or a where clause. -/
structure Constant where
  code : Code
  isGeneric : Bool
  hasValue : Bool

/-- Where the where clause of a type definition may stand: in front of the equals sign, behind what
follows it, or at either place. -/
inductive WherePlace where
  | front
  | back
  | either
deriving DecidableEq

/-- The definition of a type from its name on, in parts. -/
structure TypeDefinition where
  ident : Ident
  generics : Code
  /-- What follows a colon. -/
  bounds : Option Code
  /-- The equals sign and the type. -/
  value : Code
  whereClause : Code

namespace TypeDefinition

/-- The parts in front of the others. -/
def head (d : TypeDefinition) : Code := .word "type" :: .word d.ident.text :: d.generics

/-- The colon with the bounds behind it, if there are any. -/
def boundsCode (d : TypeDefinition) : Code :=
  match d.bounds with
  | none | some [] => []
  | some code => .word ":" :: code

end TypeDefinition

namespace Grammar

open Reader TokenTree

variable (g : Grammar)

/-! ### Parts of members -/

/-- What a constant can be called; `further` names what else could follow `const`. -/
def constantName (further : List String) : Reader Ident := do
  let ts ← look
  if atName ts || atWord "_" ts then anyIdent else failExpected (["identifier", "`_`"] ++ further)

def constant (x : Ident) : Reader Constant := do
  let angled ← looksAt (atMark "<")
  let gs ← g.genericsCode
  let colon ← mark ":"
  let t ← g.tyCode true
  let value ← optional (atMark "=") do
    let eq ← mark "="
    return eq ++ (← g.exprCode)
  let wh ← g.optWhere
  let semi ← mark ";"
  let code := .word "const" :: .word x.text :: gs ++ colon ++ t ++ value ++ wh.getD [] ++ semi
  return ⟨code, angled || wh.isSome, !value.isEmpty⟩

def typeDefinition (place : WherePlace) : Reader TypeDefinition := do
  let _ ← word "type"
  let x ← name
  let gs ← g.genericsCode
  let colon ← optMark ":"
  let bounds ← if colon.isEmpty then pure none else do
    pure (some (← g.boundsUpTo (fun ts => atWord "where" ts || atAnyMark ["=", ";"] ts) true))
  let front ← if place == .back then pure none else g.optWhere
  let value ← optional (atMark "=") do
    let eq ← mark "="
    return eq ++ (← g.tyCode true)
  let back ← if place == .front || front.isSome then pure none else g.optWhere
  let _ ← mark ";"
  return ⟨x, gs, bounds, value, (front <|> back).getD []⟩

/-- The call of a macro among members; only one in braces needs no semicolon. -/
def macroMember : Reader Code := do
  let p ← modulePath
  let (d, code) ← invocation ⟨false, p, p.code⟩
  return code ++ (← if d == .brace then pure [] else mark ";")

/-- Words and marks that begin the path of a macro. -/
def atMacroPath (ts : List TokenTree) : Bool :=
  atName ts || atAnyWord ["self", "super", "crate"] ts || atMark "::" ts

/-- How `atMacroPath` is said in the error that misses an item. -/
def macroStarts : List String := ["identifier", "`self`", "`super`", "`crate`", "`::`"]

/-- Members up to the end of a group in braces, behind attributes of the whole. -/
def memberList (p : Reader Code) : Reader Code := grouped .brace do
  let attrs ← g.innerCode
  return attrs ++ (← manyCode (!·.isEmpty) p)

/-! ### Members of traits -/

def traitFunction : Reader Code := do
  let s ← g.signature
  let ts ← look
  if atGroup .brace ts then return s ++ (← g.attributedBlock)
  else if atMark ";" ts then return s ++ (← mark ";")
  else failExpected ["curly braces", "`;`"]

/-- A constant of a trait, or a function that is one; whether it stays as it is printed. -/
def traitConstant : Reader (Code × Bool) := do
  if ← looksAt fun ts => atAnyWord ("async" :: functionWords) (behind ts) then
    return (← g.traitFunction, true)
  else
    let _ ← word "const"
    let x ← constantName ["`async`", "`unsafe`", "`extern`", "`fn`"]
    let c ← g.constant x
    return (c.code, !c.isGeneric)

/-- A member of a trait.  A visibility or the word `default` in front keeps it as written. -/
def traitMember : Reader Code := do
  let start ← look
  let attrs ← g.outerCode
  let vis ← visibility
  let d ← optWord "default"
  let plain := vis == .inherited && d.isEmpty
  let ts ← look
  let (code, stays) ← if atSignature false ts then do pure (← g.traitFunction, true)
    else if atWord "const" ts then g.traitConstant
    else if atWord "type" ts then do
      let t ← g.typeDefinition .back
      pure (t.head ++ t.boundsCode ++ t.value ++ t.whereClause ++ [.word ";"], true)
    else if plain && atMacroPath ts then do pure (← macroMember, true)
    else failExpected (["`fn`", "`const`", "`type`"] ++ if plain then macroStarts else [])
  if plain && stays then return attrs ++ code else keptSince start

/-! ### Members of implementations -/

def implConstant : Reader (Code × Bool) := do
  let _ ← word "const"
  let x ← constantName []
  let c ← g.constant x
  return (c.code, c.hasValue && !c.isGeneric)

/-- A function of an implementation; without a body it is kept as written. -/
def implFunction : Reader (Code × Bool) := do
  let s ← g.signature
  if ← looksAt (atMark ";") then
    let _ ← mark ";"
    return (s, false)
  else return (s ++ (← g.attributedBlock), true)

/-- The word `default` in front of a member rather than the call of a macro with that name. -/
def atDefault (ts : List TokenTree) : Bool := atWord "default" ts && !atMark "!" (behind ts)

def implMember : Reader Code := do
  let start ← look
  let attrs ← g.outerCode
  let vis ← visibility
  let first ← look
  let d ← optional atDefault (word "default")
  let plain := vis == .inherited && d.isEmpty
  let ts ← look
  let (code, stays) ← if atSignature false ts then g.implFunction
    else if atWord "const" ts then g.implConstant
    else if atWord "type" ts then do
      let t ← g.typeDefinition .back
      pure (t.head ++ t.value ++ t.whereClause ++ [.word ";"], t.bounds.isNone && !t.value.isEmpty)
    else if plain && atMacroPath ts then do pure (← macroMember, true)
    else
      failExpected ((if atWord "default" first then [] else ["`default`"]) ++
        ["`fn`", "`const`", "`type`"] ++ if plain then macroStarts else [])
  if stays then return attrs ++ vis.code ++ d ++ code else keptSince start

/-! ### Members of foreign blocks -/

/-- A foreign function; one with a body or marked safe is kept as written. -/
def foreignFunction : Reader (Code × Bool) := do
  let (s, isSafe) ← g.signatureOf true
  if ← looksAt (atGroup .brace) then return (s ++ (← g.attributedBlock), false)
  else return (s ++ (← mark ";"), !isSafe)

def atForeignStatic (ts : List TokenTree) : Bool :=
  atWord "static" ts || (atAnyWord ["unsafe", "safe"] ts && atWord "static" (behind ts))

/-- A foreign variable; one with a value or marked safe or unsafe is kept as written. -/
def foreignStatic : Reader (Code × Bool) := do
  let u ← optWord "unsafe"
  let safe ← if u.isEmpty then optWord "safe" else pure []
  let w ← word "static"
  let m ← optWord "mut"
  let x ← identCode name
  let colon ← mark ":"
  let t ← g.tyCode true
  let value ← optional (atMark "=") do
    let eq ← mark "="
    return eq ++ (← g.exprCode)
  let semi ← mark ";"
  return (w ++ m ++ x ++ colon ++ t ++ semi, (u ++ safe ++ value).isEmpty)

def foreignMember : Reader Code := do
  let start ← look
  let attrs ← g.outerCode
  let vis ← visibility
  let plain := vis == .inherited
  let ts ← look
  let (code, stays) ← if atSignature true ts then g.foreignFunction
    else if atForeignStatic ts then g.foreignStatic
    else if atWord "type" ts then do
      let t ← g.typeDefinition .either
      pure (t.head ++ t.whereClause ++ [.word ";"], t.bounds.isNone && t.value.isEmpty)
    else if plain && atMacroPath ts then do pure (← macroMember, true)
    else failExpected (["`fn`", "`static`", "`type`"] ++ if plain then macroStarts else [])
  if stays then return attrs ++ vis.code ++ code else keptSince start

end Grammar

end AccessorSchema
