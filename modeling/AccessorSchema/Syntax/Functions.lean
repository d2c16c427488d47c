import AccessorSchema.Syntax.Statements

/-! # Reading functions

The signature of a function with its parameters.  A receiver comes first and there is one at most;
any number of further arguments end the parameters. -/

namespace AccessorSchema

/-- A parameter of a function. -/
structure Parameter where
  code : Code
  isReceiver : Bool

namespace Grammar

open Reader TokenTree

variable (g : Grammar)

/-! ### Parameters -/

/-- A receiver with the place of the word `self`. -/
def receiver : Reader (Located Code) := do
  let amp ← optMark "&"
  let life ← if amp.isEmpty then pure [] else optional atLifetime lifetime
  let m ← optWord "mut"
  let s ← located (word "self")
  let t ← if amp.isEmpty then optional (atMark ":") do
      let colon ← mark ":"
      return colon ++ (← g.tyCode true)
    else pure []
  return ⟨amp ++ life ++ m ++ s.value ++ t, s.span⟩

/-- The comma behind the last parameter, if the list goes on. -/
def lastComma : Reader Code := do
  if ← atEnd then return [] else mark ","

/-- Any number of further arguments. -/
def variadicParameter (lead : Code) : Reader (Parameter × Bool) := do
  let dots ← mark "..."
  return (⟨lead ++ dots ++ (← lastComma), false⟩, true)

/-- A pattern with its type; a type alone is that of an argument without a name. -/
def typedParameter (attrs : Code) : Reader (Parameter × Bool) := do
  let ts ← look
  if atName ts && atMark "<" (behind ts) then
    return (⟨attrs ++ .word "_" :: .word ":" :: (← g.tyCode true), false⟩, false)
  else
    let p ← g.pat
    let colon ← mark ":"
    let lead := attrs ++ p.code ++ colon
    if ← looksAt (atMark "...") then variadicParameter lead
    else return (⟨lead ++ (← g.tyCode true), false⟩, false)

/-- A parameter behind the ones given, and whether it is the last one. -/
def parameter (before : List Parameter) : Reader (Parameter × Bool) := do
  let attrs ← g.outerCode
  if ← looksAt (atMark "...") then variadicParameter attrs
  else
    match ← attempt g.receiver with
    | none => g.typedParameter attrs
    | some r =>
      if before.any (·.isReceiver) then failAt .secondReceiver r.span
      else if !before.isEmpty then failAt .lateReceiver r.span
      else return (⟨attrs ++ r.value, true⟩, false)

def parameters : Reader Code := do
  let (xs, trailing) ← series "," (·.isEmpty) g.parameter
  return joinCode "," trailing (xs.map Parameter.code)

/-! ### Signatures -/

def whereCode : Reader Code := do
  return (← g.optWhere).getD []

def genericsCode : Reader Code := do
  return (← g.generics).code

/-- The trees behind an `unsafe`, or a `safe` where that is allowed. -/
def skipSafety (allowSafe : Bool) (ts : List TokenTree) : List TokenTree :=
  if allowSafe && atWord "safe" ts then behind ts else skipWord "unsafe" ts

def skipAbi (ts : List TokenTree) : List TokenTree :=
  if atWord "extern" ts then
    let rest := behind ts
    if atLiteralOf Literal.isString rest then behind rest else rest
  else ts

/-- A function is in front, behind the words that may qualify it. -/
def atSignature (allowSafe : Bool) (ts : List TokenTree) : Bool :=
  atWord "fn" (skipAbi (skipSafety allowSafe (skipWord "async" (skipWord "const" ts))))

/-- A signature; where `safe` is allowed, whether it is marked so. -/
def signatureOf (allowSafe : Bool) : Reader (Code × Bool) := do
  let c ← optWord "const"
  let a ← optWord "async"
  let u ← optWord "unsafe"
  let safe ← optional (fun ts => allowSafe && u.isEmpty && atWord "safe" ts) (word "safe")
  let e ← optAbi
  let f ← word "fn"
  let x ← identCode name
  let gs ← g.genericsCode
  let (inputs, complaint) ← opened .paren g.parameters
  let out ← g.output true
  let wh ← g.whereCode
  note complaint
  let code := c ++ a ++ u ++ safe ++ e ++ f ++ x ++ gs ++ .group .paren inputs :: out ++ wh
  return (code, !safe.isEmpty)

def signature : Reader Code := do
  return (← g.signatureOf false).1

end Grammar

end AccessorSchema
