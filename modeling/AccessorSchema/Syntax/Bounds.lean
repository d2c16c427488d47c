import AccessorSchema.Syntax.Paths

/-! # Reading bounds and generic parameters

A bound is a lifetime, a list of captured parameters or a trait, which may be quantified, optional
or marked `const`.  Parameters and predicates carry bounds; a colon without any leaves no trace
in a parameter and stays in a predicate. -/

namespace AccessorSchema.Grammar

open Reader TokenTree

variable (g : Grammar)

/-! ### Parameters -/

/-- Bounds as code, and what separates them. -/
def boundsCode (p : Reader (List Bound × Bool)) : Reader Code := do
  let (xs, trailing) ← p
  return joinCode "+" trailing (xs.map Bound.code)

/-- The bounds behind a colon, as long as a `+` follows. -/
def boundsUntil (stop : List TokenTree → Bool) : Reader Code :=
  boundsCode (sum stop (g.bound false true))

/-- Bounds each but the last of which a `+` has to follow. -/
def boundsUpTo (stop : List TokenTree → Bool) (allowConst : Bool) : Reader Code :=
  boundsCode (listOf "+" stop (g.bound false allowConst))

def lifetimeBounds (stop : List TokenTree → Bool) : Reader Code := codeOf "+" (sum stop lifetime)

/-- What stands behind a mark that is itself dropped, if the mark is there. -/
def behindMark (m : String) (p : Reader Code) : Reader Code := optional (atMark m) do
  let _ ← mark m
  p

def lifetimeParam (attrs : Code) : Reader Param := do
  let x ← lifetimeName
  let bounds ← behindMark ":" (lifetimeBounds fun ts => ts.isEmpty || atAnyMark [",", ">"] ts)
  return .lifetime attrs x bounds

def typeParam (attrs : Code) : Reader Param := do
  let x ← name
  let bounds ← behindMark ":" (g.boundsUntil fun ts => ts.isEmpty || atAnyMark [",", ">", "="] ts)
  return .type attrs x bounds (← behindMark "=" (g.tyCode true))

def constParam (attrs : Code) : Reader Param := do
  let _ ← word "const"
  let x ← name
  let _ ← mark ":"
  let t ← g.tyCode true
  return .const attrs x t (← behindMark "=" g.constArg)

/-- A parameter; `starts` names what it can start with. -/
def param (starts : List String) : Reader Param := do
  let attrs ← g.outerCode
  let ts ← look
  if atLifetime ts then lifetimeParam attrs
  else if atName ts then g.typeParam attrs
  else if atWord "const" ts then g.constParam attrs
  else failExpected starts

/-- A parameter of an item, which may be left blank. -/
def itemParam : Reader Param := do
  let blank ← attempt do
    let attrs ← g.outerCode
    let _ ← word "_"
    return Param.type attrs .underscore [] []
  match blank with
  | some p => return p
  | none => g.param ["lifetime", "identifier", "`const`"]

/-- Generic parameters, without a where clause. -/
def generics : Reader Generics := do
  if ← looksAt (atMark "<") then
    let _ ← mark "<"
    let (params, trailing) ← listOf "," (atMark ">") g.itemParam
    let _ ← mark ">"
    return ⟨params, trailing, none⟩
  else return default

/-- Angle brackets that hold parameters rather than a self type. -/
def atGenerics (ts : List TokenTree) : Bool :=
  let one := behind ts
  let two := behind one
  atMark "<" ts && (atAnyMark [">", "#"] one || atWord "const" one ||
    ((atLifetime one || atName one) && (atAnyMark [">", ",", "="] two || atColon two)))

/-- The parameters a bound, a type or a closure is quantified over. -/
def quantifier : Reader Code := optional (atWord "for") do
  let w ← word "for"
  let lt ← mark "<"
  let (xs, trailing) ← listOf "," (atMark ">") (g.param ["identifier", "lifetime", "`const`"])
  let gt ← mark ">"
  return w ++ lt ++ joinCode "," trailing (xs.map Param.declared) ++ gt

/-! ### Bounds -/

/-- The output of a function, if it has one. -/
def output (plus : Bool) : Reader Code := optional (atMark "->") do
  let arrow ← mark "->"
  return arrow ++ (← g.tyCode plus)

def atCallArgs (ts : List TokenTree) : Bool := atGroup .paren ts || atSeparated (atGroup .paren) ts

/-- Arguments in parentheses and the output of a function trait; a `::` in front is dropped. -/
def callArgs : Reader Code := do
  let _ ← optMark "::"
  let inputs ← grouped .paren (commaCode (g.tyCode true))
  return inputs ++ (← g.output false)

/-- A path without the arguments of its last segment, unless that segment has any. -/
def openPath? (p : Path) : Option (List Segment × Ident) :=
  match p.segments.getLast? with
  | some (.mk x .none) | some (.mk x (.angle _ [] _)) => some (p.segments.dropLast, x)
  | _ => none

/-- The path of a trait, which may be called like a function. -/
def traitPath : Reader Path := do
  let p ← g.path false
  match openPath? p with
  | none => return p
  | some (front, x) =>
    if ← looksAt atCallArgs then return .mk p.rooted (front ++ [.mk x (.call (← g.callArgs))])
    else return p

/-- The mark `const` in front of a trait, bare or in brackets; whether it is there. -/
def constMark (allowed : Bool) : Reader Bool := do
  let ts ← look
  let bracketed := atGroup .bracket ts
  if bracketed || atWord "const" ts then
    let w ← located (if bracketed then within .bracket (word "const") else word "const")
    unless allowed do
      failAt (.constBound bracketed) w.span
    return true
  else return false

/-- A trait with its marks; `none` if it is marked `const` and thus kept as written. -/
def traitBound (allowConst : Bool) : Reader (Option Code) := do
  let before ← g.quantifier
  let isConst ← constMark allowConst
  let question ← located (optMark "?")
  let after ← if before.isEmpty && !question.value.isEmpty then g.quantifier else pure []
  let p ← g.traitPath
  unless question.value.isEmpty || (before ++ after).isEmpty do
    failAt .quantifiedMaybe question.span
  return if isConst then none else some (question.value ++ before ++ p.code)

/-- Something that a captured parameter can be called. -/
def captured : Reader Arg := do
  let ts ← look
  if atLifetime ts then return .lifetime (← lifetimeName)
  else if atName ts || atWord "Self" ts then return .other (← identCode anyIdent)
  else failExpected ["lifetime", "identifier", "`>`"]

/-- The parameters that an implemented type captures, in the form of a path with arguments. -/
def capture : Reader Code := do
  let _ ← word "use"
  let _ ← mark "<"
  let (xs, trailing) ← series "," (atMark ">") fun _ => do
    let x ← captured
    unless ← looksAt (atAnyMark [",", ">"]) do
      failExpected ["`,`", "`>`"]
    return (x, false)
  let _ ← mark ">"
  return Segment.code (.mk (.plain "use") (.angle false xs trailing))

def boundRule (allowCapture allowConst : Bool) : Reader Bound := do
  let ts ← look
  if atLifetime ts then return ⟨← lifetime, false⟩
  else if atWord "use" ts then
    let c ← located capture
    unless allowCapture do
      failAt .capture c.span
    return ⟨c.value, false⟩
  else
    let enclosed := atGroup .paren ts
    let found ← if enclosed then within .paren (g.traitBound allowConst)
      else g.traitBound allowConst
    match found with
    | some code => return ⟨if enclosed then [.group .paren code] else code, true⟩
    | none => return ⟨← keptSince ts, true⟩

/-- A further bound may follow a `+`. -/
def atBound (allowConst : Bool) (ts : List TokenTree) : Bool :=
  atIdent ts || atAnyMark ["::", "?"] ts || atLifetime ts || atGroup .paren ts ||
    (allowConst && (atGroup .bracket ts || atWord "const" ts))

/-- Bounds behind a first one. -/
def furtherBounds (first : Code) (more : List TokenTree → Bool) : Reader Code := do
  let (rest, trailing) ← addends more (g.bound false false)
  return joinCode "+" trailing (first :: rest.map Bound.code)

/-- A sum of bounds for a type that starts at `start`; `fault` says that none of them is a trait. -/
def traitSum (plus allowCapture : Bool) (fault : SyntaxFault) (start : Span) : Reader Code := do
  let one := located (g.bound allowCapture true)
  let first ← one
  let (rest, trailing) ← if plus then addends (atBound true) one else pure ([], false)
  let all := first :: rest
  unless all.any (·.value.isTrait) do
    failAt fault (start.through ((rest.getLast?.getD first).span))
  return joinCode "+" trailing (all.map (·.value.code))

/-! ### Where clauses -/

/-- Where the predicates of a where clause, and the bounds of one, end. -/
def endsWhere (ts : List TokenTree) : Bool :=
  ts.isEmpty || atGroup .brace ts || atAnyMark [",", ";", "="] ts || atColon ts

def predicate : Reader Code := do
  let ts ← look
  if atLifetime ts && atMark ":" (behind ts) then
    let x ← lifetime
    let colon ← mark ":"
    return x ++ colon ++ (← lifetimeBounds fun ts => endsWhere ts || atMark ":" ts)
  else
    let before ← g.quantifier
    let t ← g.tyCode true
    let colon ← mark ":"
    return before ++ t ++ colon ++ (← g.boundsUntil endsWhere)

def predicatesWith (fuel : Nat) : Reader (List Code × Bool) :=
  match fuel with
  | 0 => pure ([], false)
  | fuel + 1 => do
    if ← looksAt endsWhere then return ([], true)
    else
      let first ← g.predicate
      if ← looksAt (atMark ",") then
        let _ ← mark ","
        let (rest, trailing) ← predicatesWith fuel
        return (first :: rest, trailing)
      else return ([first], false)

/-- A where clause; without predicates it leaves no trace. -/
def whereClause : Reader Code := do
  let w ← word "where"
  let ts ← look
  if atGenerics ts then fail .genericWhere
  else
    let (preds, trailing) ← g.predicatesWith (ts.length + 1)
    return if preds.isEmpty then [] else w ++ joinCode "," trailing preds

def optWhere : Reader (Option Code) := do
  if ← looksAt (atWord "where") then return some (← g.whereClause) else return none

end AccessorSchema.Grammar
