import AccessorSchema.Syntax.Types

/-! # Reading patterns

Patterns are read into code.  Of a range in a pattern both ends are looked at: the old mark of three
points is printed as the new one, and a range that lacks an end must not stand bare in a slice. -/

namespace AccessorSchema.Grammar

open Reader TokenTree

variable (g : Grammar)

/-- What a pattern can start with, in the words of the error that misses one. -/
def patternStarts (ts : List TokenTree) : List String :=
  ["identifier", "`::`", "`<`", "`_`", "literal", "`const`", "`ref`", "`mut`", "`&`", "parentheses",
    "square brackets"] ++ (if atMark ".." ts then [] else ["`..`"]) ++ ["`const`"]

/-! ### Alternatives -/

/-- A bar between alternatives. -/
def atBar : List TokenTree → Bool := atMarkBut "|" ["||", "|="]

/-- A pattern with alternatives, perhaps with a bar in front. -/
def alternatives : Reader Pattern := do
  let lead ← optMark "|"
  let first ← g.pat
  let rest ← manyCode atBar do
    let bar ← mark "|"
    return bar ++ (← g.pat).code
  if (lead ++ rest).isEmpty then return first else return .ofCode (lead ++ first.code ++ rest)

def patCode : Reader Code := do
  return (← g.alternatives).code

/-! ### Ranges -/

/-- The mark of a range; whether its end belongs to it.  Three points are an old form of it. -/
def rangeMark (mayBeOld : Bool) : Reader (Located Bool) := located do
  let ts ← look
  if atMark "..=" ts then
    let _ ← mark "..="
    return true
  else if !atMark "..." ts then
    let _ ← mark ".."
    return false
  else if mayBeOld then
    let _ ← mark "..."
    return true
  else failExpected ["`..=`"]

def rangeCode (closed : Bool) : Code := [.word (if closed then "..=" else "..")]

/-- The end of a range may be missing in front of these. -/
def endsPatternRange (ts : List TokenTree) : Bool :=
  ts.isEmpty || atAnyMark ["|", "=", ",", ";"] ts || atColon ts || atWord "if" ts

def constBlock : Reader Code := do
  let w ← word "const"
  return w ++ (← g.attributedBlock)

/-- Anything that can stand at the end of a range. -/
def rangeBound : Reader Code := do
  let ts ← look
  if endsPatternRange ts then return []
  else if atLiteral ts then literalCode
  else if atAnyPath ts then return (← g.pathForm true).code
  else if atWord "const" ts then g.constBlock
  else
    failExpected ["literal", "identifier", "`::`", "`<`", "`self`", "`Self`", "`super`", "`crate`",
      "`const`"]

/-- The end of a range; one whose end belongs to it needs it. -/
def rangeEnd (closed : Bool) : Reader Code := do
  let stop ← g.rangeBound
  if closed && stop.isEmpty then failExpected ["range upper bound"] else return stop

/-- A pattern that is `first`, or the range that starts with it. -/
def rangeFrom (first : Code) : Reader Pattern := do
  if ← looksAt (atMark "..") then
    let m ← rangeMark true
    let stop ← g.rangeEnd m.value
    return ⟨.range (if stop.isEmpty then some m.span else none), first ++ rangeCode m.value ++ stop⟩
  else return .ofCode first

/-- A range without a start, or the mark for the rest. -/
def rangeTo : Reader Pattern := do
  let m ← rangeMark false
  let stop ← g.rangeEnd m.value
  return ⟨if stop.isEmpty then .other else .range (some m.span), rangeCode m.value ++ stop⟩

/-! ### Patterns that start with a path -/

/-- A field of a struct pattern; the mark for the rest ends them. -/
def fieldPattern : Reader (Code × Bool) := do
  let attrs ← g.outerCode
  let start ← look
  if atMark ".." start then return (attrs ++ (← mark ".."), true)
  else
    let boxed ← optWord "box"
    let r ← optWord "ref"
    let m ← optWord "mut"
    let marks := boxed ++ r ++ m
    let (x, named) ← if marks.isEmpty then member else do pure (← identCode name, true)
    if !named || (marks.isEmpty && (← looksAt (atMark ":"))) then
      let colon ← mark ":"
      return (attrs ++ x ++ colon ++ (← g.patCode), false)
    else if boxed.isEmpty then return (attrs ++ r ++ m ++ x, false)
    else return (attrs ++ (← keptSince start), false)

def structPattern (p : Code) : Reader Code := do
  return p ++ (← grouped .brace (codeOf "," (series "," (·.isEmpty) fun _ => g.fieldPattern)))

def pathPattern : Reader Pattern := do
  let p ← g.pathForm true
  let ts ← look
  if atBang ts && namesMacro p then return .ofCode (← invocation p).2
  else if atGroup .brace ts then return .ofCode (← g.structPattern p.code)
  else if atGroup .paren ts then
    return .ofCode (p.code ++ (← grouped .paren (commaCode g.patCode)))
  else g.rangeFrom p.code

/-! ### All patterns -/

/-- A name that is bound, perhaps to what a further pattern matches. -/
def binding : Reader Code := do
  let r ← optWord "ref"
  let m ← optWord "mut"
  let x ← identCode (nameOr ["self"])
  let sub ← optional (atMark "@") do
    let sign ← mark "@"
    return sign ++ (← g.pat).code
  return r ++ m ++ x ++ sub

/-- A pattern in a slice, where a range needs both its ends. -/
def sliceElement : Reader Code := do
  let p ← g.alternatives
  match p.form with
  | .range (some gap) => failAt .openRangeInSlice gap
  | _ => return p.code

/-- A name, or the word `self`, that begins a longer path or another pattern. -/
def atPathPattern (ts : List TokenTree) : Bool :=
  let next := behind ts
  (atName ts && (atAnyMark ["::", "!", ".."] next || atGroup .brace next || atGroup .paren next)) ||
    (atWord "self" ts && atMark "::" next) || atAnyMark ["::", "<"] ts ||
    atAnyWord ["Self", "super", "crate"] ts

def patRule : Reader Pattern := do
  let ts ← look
  if atPathPattern ts then g.pathPattern
  else if atWord "_" ts then return .ofCode (← word "_")
  else if atWord "box" ts then
    let _ ← word "box"
    let _ ← g.pat
    return ⟨.kept, ← keptSince ts⟩
  else if atMark "-" ts || atLiteral ts || atWord "const" ts then g.rangeFrom (← g.rangeBound)
  else if atAnyWord ["ref", "mut", "self"] ts || atName ts then return .ofCode (← g.binding)
  else if atMark "&" ts then
    let amp ← mark "&"
    let m ← optWord "mut"
    return .ofCode (amp ++ m ++ (← g.pat).code)
  else if atGroup .paren ts then return .ofCode (← grouped .paren (commaCode g.patCode))
  else if atGroup .bracket ts then return .ofCode (← grouped .bracket (commaCode g.sliceElement))
  else if atMarkBut ".." ["..."] ts then g.rangeTo
  else failExpected (patternStarts ts)

end AccessorSchema.Grammar
