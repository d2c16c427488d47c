import AccessorSchema.Syntax.Attributes

/-! # Reading paths

The segments of a path may have generic arguments.  In expressions these need a `::` in front,
because `<` alone compares there.  A qualified path starts with a type, and perhaps a trait, in
angle brackets. -/

namespace AccessorSchema

/-- A path as it was read; what stands in front of a qualified one is in the code alone. -/
structure PathForm where
  qualified : Bool
  path : Path
  code : Code

namespace Grammar

open Reader TokenTree

variable (g : Grammar)

/-! ### Arguments -/

/-- A constant among generic arguments: a literal, a name or a block. -/
def constArg : Reader Code := do
  let ts ← look
  if atLiteral ts then literalCode
  else if atName ts then identCode name
  else if atGroup .brace ts then g.attributedBlock
  else failExpected []

/-- A literal or a block is in front, which no type starts with. -/
def atConst (ts : List TokenTree) : Bool := atLiteral ts || atGroup .brace ts

/-- An argument that names an associated item: a segment and what is said about it. -/
def associatedArg (s : Segment) : Reader Arg := do
  if ← looksAt (atMark "=") then
    let eq ← mark "="
    let value ← if ← looksAt atConst then g.constArg else g.tyCode true
    return .other (s.code ++ eq ++ value)
  else
    let colon ← mark ":"
    let (bounds, trailing) ← listOf "+" (atAnyMark [",", ">"]) (g.bound false true)
    return .other (s.code ++ colon ++ joinCode "+" trailing (bounds.map Bound.code))

/-- The only segment of a type that is a path with one segment. -/
def soleSegment? : Ty → Option Segment
  | .path (.mk false [s]) => some s
  | _ => none

def argument : Reader Arg := do
  let ts ← look
  if atLifetime ts && !atMark "+" (behind ts) then return .lifetime (← lifetimeName)
  else if atConst ts then return .other (← g.constArg)
  else
    let t ← g.ty true
    let next ← look
    match soleSegment? t with
    | some s => if atAnyMark ["=", ":"] next then g.associatedArg s else return .type t
    | none => return .type t

/-- Arguments between angle brackets, with the `::` in front of them if there is one. -/
def angleArgs : Reader Args := do
  let turbofish := !(← optMark "::").isEmpty
  let _ ← mark "<"
  let (args, trailing) ← listOf "," (atMark ">") g.argument
  let _ ← mark ">"
  return .angle turbofish args trailing

/-! ### Segments -/

/-- Arguments follow a segment. -/
def atAngleArgs (inExpr : Bool) (ts : List TokenTree) : Bool :=
  (!inExpr && atMarkBut "<" ["<=", "<<="] ts) || atSeparated (atMark "<") ts

/-- A segment; inside expressions its arguments need a `::` in front. -/
def segment (inExpr : Bool) : Reader Segment := do
  if ← looksAt (atAnyWord ["super", "self", "crate", "try"]) then return .bare (← anyIdent)
  else
    let x ← nameOr ["Self"]
    if ← looksAt (atAngleArgs inExpr) then return .mk x (← g.angleArgs) else return .bare x

def path (inExpr : Bool) : Reader Path := do
  let rooted := !(← optMark "::").isEmpty
  let first ← g.segment inExpr
  let rest ← many (fun ts => atMark "::" ts && !atSeparated (atGroup .paren) ts) do
    let _ ← mark "::"
    g.segment inExpr
  return .mk rooted (first :: rest)

/-- A path behind a self type; the segments of a trait in between belong to it. -/
def qualifiedPath (inExpr : Bool) : Reader PathForm := do
  let lt ← mark "<"
  let self ← g.tyCode true
  let isImplemented ← looksAt (atWord "as")
  let asWord ← optWord "as"
  let trait ← if isImplemented then g.path false else pure (.mk true [])
  let gt ← mark ">"
  let sep ← mark "::"
  let first ← g.segment inExpr
  let rest ← many (atMark "::") do
    let _ ← mark "::"
    g.segment inExpr
  let segments := first :: rest
  let front := if isImplemented then asWord ++ trait.code else []
  return ⟨true, .mk trait.rooted (trait.segments ++ segments),
    lt ++ self ++ front ++ gt ++ sep ++ Path.code (.mk false segments)⟩

/-- A path, qualified or not. -/
def pathForm (inExpr : Bool) : Reader PathForm := do
  if ← looksAt (atMark "<") then g.qualifiedPath inExpr
  else
    let p ← g.path inExpr
    return ⟨false, p, p.code⟩

/-- Words and marks that begin a path, besides names. -/
def atAnyPath (ts : List TokenTree) : Bool := atPathStart ts || atAnyMark ["::", "<"] ts

/-- The path can be that of a macro. -/
def namesMacro (p : PathForm) : Bool := !p.qualified && p.path.isPlain

/-- A call of the macro that `p` names, from its exclamation mark on. -/
def invocation (p : PathForm) : Reader (Delim × Code) := do
  let bang ← mark "!"
  let (d, args) ← invocationArgs
  return (d, p.code ++ bang ++ args)

end Grammar

end AccessorSchema
