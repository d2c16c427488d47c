import AccessorSchema.Syntax.Operators

/-! # Reading expressions

Expressions are read into code; their form is kept at the top.  This module holds what starts an
expression, first the forms that end with a block, and what may stand behind a value or in front of
it.  Operators between values are read in their own module. -/

namespace AccessorSchema.Grammar

open Reader TokenTree

variable (g : Grammar)

/-! ### Forms that end with a block -/

/-- An expression in front of a block, which is not taken for a struct literal. -/
def condition : Reader Code := do
  return (← g.expr false).code

def ifClause : Reader Code := do
  let w ← word "if"
  let c ← g.condition
  return w ++ c ++ (← g.block)

def ifExpr : Reader Expr := do
  let first ← g.ifClause
  let more ← manyCode (fun ts => atWord "else" ts && atWord "if" (behind ts)) do
    let e ← word "else"
    return e ++ (← g.ifClause)
  let last ← optional (atWord "else") do
    let e ← word "else"
    if ← looksAt (atGroup .brace) then return e ++ (← g.block)
    else failExpected ["`if`", "curly braces"]
  return .ofNoun "if" (first ++ more ++ last)

def whileExpr : Reader Expr := do
  let w ← word "while"
  let c ← g.condition
  return .ofNoun "while" (w ++ c ++ (← g.attributedBlock))

def forExpr : Reader Expr := do
  let w ← word "for"
  let p ← g.patCode
  let i ← word "in"
  let c ← g.condition
  return .ofNoun "for_loop" (w ++ p ++ i ++ c ++ (← g.attributedBlock))

/-- The word `w` in front of a block that may have attributes. -/
def wordBlock (w noun : String) : Reader Expr := do
  let c ← word w
  return .ofNoun noun (c ++ (← g.attributedBlock))

def tryBlock : Reader Expr := do
  let w ← word "try"
  return .ofNoun "try_block" (w ++ (← g.block))

/-- One alternative of a `match`, with the comma it needs. -/
def arm : Reader Code := do
  let attrs ← g.outerCode
  let p ← g.patCode
  let guard ← optional (atWord "if") do
    let i ← word "if"
    return i ++ (← g.exprCode)
  let arrow ← mark "=>"
  let e ← g.body
  let comma ← if e.endsArm || (← atEnd) then optMark "," else mark ","
  return attrs ++ p ++ guard ++ arrow ++ e.code ++ comma

def matchExpr : Reader Expr := do
  let w ← word "match"
  let c ← g.condition
  let arms ← grouped .brace do
    let attrs ← g.innerCode
    return attrs ++ (← manyCode (!·.isEmpty) g.arm)
  return .ofNoun "match" (w ++ c ++ arms)

def blockExpr : Reader Expr := do
  return .ofNoun "block" (← g.attributedBlock)

/-- A loop or a block behind a label. -/
def labelled : Reader Expr := do
  let x ← lifetime
  let label := x ++ (← mark ":")
  let ts ← look
  let e ← if atWord "while" ts then g.whileExpr else if atWord "for" ts then g.forExpr
    else if atWord "loop" ts then g.wordBlock "loop" "loop"
    else if atGroup .brace ts then g.blockExpr
    else failExpected ["loop or block expression"]
  return { e with code := label ++ e.code }

/-- Words behind `for` tell a loop from a closure over parameters. -/
def atQuantified (ts : List TokenTree) : Bool := atWord "for" ts && atGenerics (behind ts)

/-- The form in front that is over behind its block, if there is one. -/
def blockForm? (ts : List TokenTree) : Option (Reader Expr) :=
  let next := behind ts
  if atWord "if" ts then some g.ifExpr
  else if atWord "while" ts then some g.whileExpr
  else if atWord "for" ts && !atQuantified ts then some g.forExpr
  else if atWord "loop" ts then some (g.wordBlock "loop" "loop")
  else if atWord "match" ts then some g.matchExpr
  else if atWord "try" ts && atGroup .brace next then some g.tryBlock
  else if atWord "unsafe" ts then some (g.wordBlock "unsafe" "unsafe")
  else if atWord "const" ts && atGroup .brace next then some (g.wordBlock "const" "const")
  else if atGroup .brace ts then some g.blockExpr
  else if atLifetime ts then some g.labelled
  else none

/-! ### Expressions that begin with a path -/

/-- A field of a struct literal; behind the mark for the rest no further one stands. -/
def fieldValue : Reader (Code × Bool) := do
  if ← looksAt (atMark "..") then
    let dots ← mark ".."
    return (dots ++ (← optional (!·.isEmpty) g.exprCode), true)
  else
    let attrs ← g.outerCode
    let (x, named) ← member
    if !named || (← looksAt (atMark ":")) then
      let colon ← mark ":"
      return (attrs ++ x ++ colon ++ (← g.exprCode), false)
    else return (attrs ++ x, false)

def pathExpr (mayBuild : Bool) : Reader Expr := do
  let p ← g.pathForm true
  let ts ← look
  if atBang ts && namesMacro p then
    let (d, code) ← invocation p
    return .leaf (.invocation (d == .brace)) code
  else if mayBuild && atGroup .brace ts then
    let fields ← grouped .brace (codeOf "," (series "," (·.isEmpty) fun _ => g.fieldValue))
    return .ofNoun "struct" (p.code ++ fields)
  else return .leaf (.path p.path) p.code

/-! ### Parentheses and brackets -/

/-- Elements behind the first one, each with a comma in front of it. -/
def furtherElements : Reader Code := do
  let comma ← mark ","
  return comma ++ (← commaCode g.exprCode)

def parenExpr : Reader Expr := within .paren do
  if ← atEnd then return .ofNoun "tuple" [.group .paren []]
  else
    let first ← g.exprCode
    if ← atEnd then return .ofNoun "paren" [.group .paren first]
    else return .ofNoun "tuple" [.group .paren (first ++ (← g.furtherElements))]

def bracketExpr : Reader Expr := within .bracket do
  if ← atEnd then return .ofNoun "array" [.group .bracket []]
  else
    let first ← g.exprCode
    let ts ← look
    if ts.isEmpty then return .ofNoun "array" [.group .bracket first]
    else if atMark "," ts then
      return .ofNoun "array" [.group .bracket (first ++ (← g.furtherElements))]
    else if atMark ";" ts then
      let semi ← mark ";"
      return .ofNoun "repeat" [.group .bracket (first ++ semi ++ (← g.exprCode))]
    else failExpected ["`,`", "`;`"]

/-! ### Closures -/

def closureArg : Reader Code := do
  let attrs ← g.outerCode
  let p ← g.pat
  if ← looksAt (atMark ":") then
    let colon ← mark ":"
    return attrs ++ p.code ++ colon ++ (← g.tyCode true)
  else return (p.withAttrs attrs).code

def closure (mayBuild : Bool) : Reader Expr := do
  let q ← g.quantifier
  let c ← optWord "const"
  let s ← optWord "static"
  let a ← optWord "async"
  let m ← optWord "move"
  let opening ← mark "|"
  let args ← codeOf "," (listOf "," (atMark "|") g.closureArg)
  let closing ← mark "|"
  let lead := q ++ c ++ s ++ a ++ m ++ opening ++ args ++ closing
  if ← looksAt (atMark "->") then
    let out ← g.output true
    return .ofNoun "closure" (lead ++ out ++ (← g.block))
  else return .ofNoun "closure" (lead ++ (← g.expr mayBuild).code)

def atClosure (ts : List TokenTree) : Bool :=
  let next := behind ts
  atMark "|" ts || atAnyWord ["move", "static"] ts || atQuantified ts ||
    (atWord "const" ts && !atGroup .brace next) ||
    (atWord "async" ts && (atMark "|" next || atWord "move" next))

def atAsyncBlock (ts : List TokenTree) : Bool :=
  atWord "async" ts && atGroup .brace (skipWord "move" (behind ts))

def asyncBlock : Reader Expr := do
  let w ← word "async"
  let m ← optWord "move"
  return .ofNoun "async" (w ++ m ++ (← g.block))

/-! ### Jumps -/

/-- An expression may follow: used where it is optional. -/
def atExpr (ts : List TokenTree) : Bool :=
  (atIdent ts && !atWord "as" ts) || atGroup .paren ts || atGroup .bracket ts ||
    atGroup .brace ts || atLiteral ts || atBang ts || atMarkBut "-" ["-=", "->"] ts ||
    atMarkBut "*" ["*="] ts || atMarkBut "|" ["|="] ts || atMarkBut "&" ["&="] ts ||
    atMarkBut "<" ["<=", "<<="] ts || atAnyMark ["..", "::", "#"] ts || atLifetime ts

/-- The value of a `break`.  A labelled form as its value needs parentheses, because the label would
be that of the jump. -/
def breakExpr (mayBuild : Bool) : Reader Expr := do
  let w ← word "break"
  let ts ← look
  if atLifetime ts && atMark ":" (behind ts) then
    let value ← located (g.expr true)
    failAt .bareLabelledValue value.span
  else
    let l ← optional atLifetime lifetime
    let value ← optional (fun ts => atExpr ts && (mayBuild || !atGroup .brace ts)) g.exprCode
    return .ofNoun "break" (w ++ l ++ value)

/-- A jump that may carry a value. -/
def valueJump (w : String) : Reader Expr := do
  let c ← word w
  return .ofNoun w (c ++ (← optional atExpr g.exprCode))

def continueExpr : Reader Expr := do
  let w ← word "continue"
  return .ofNoun "continue" (w ++ (← optional atLifetime lifetime))

/-- A call in place of what runs, kept as written. -/
def becomeExpr : Reader Expr := do
  let ts ← look
  let _ ← word "become"
  let _ ← g.expr true
  return .asWritten (← keptSince ts)

/-! ### Values -/

/-- A range without a start. -/
def rangeExpr (mayBuild : Bool) : Reader Expr := do
  let m ← rangeMark false
  return .leaf (.range m.span) (rangeCode m.value ++ (← g.rangeStop mayBuild m.value))

/-- A path is in front, or a macro with the name of a keyword. -/
def atPathExpr (ts : List TokenTree) : Bool :=
  atAnyPath ts || (atWord "try" ts && atAnyMark ["!", "::"] (behind ts))

/-- A value without anything in front of it or behind it, if it does not end with a block. -/
def plainValue (mayBuild : Bool) : Reader Expr := do
  let ts ← look
  if atGroup .paren ts then g.parenExpr
  else if atWord "break" ts then g.breakExpr mayBuild
  else if atWord "continue" ts then continueExpr
  else if atWord "return" ts then g.valueJump "return"
  else if atWord "become" ts then g.becomeExpr
  else if atGroup .bracket ts then g.bracketExpr
  else if atWord "let" ts then g.letExpr mayBuild
  else if atWord "yield" ts then g.valueJump "yield"
  else if atMark ".." ts then g.rangeExpr mayBuild
  else if atWord "_" ts then return .ofNoun "infer" (← word "_")
  else failExpected ["an expression"]

def value (mayBuild : Bool) : Reader Expr := do
  let ts ← look
  if atLiteral ts then return .ofLiteral (← literal)
  else if atAsyncBlock ts then g.asyncBlock
  else if atClosure ts then g.closure mayBuild
  else if atBuiltin ts then return .asWritten (← builtinForm ts)
  else if atPathExpr ts then g.pathExpr mayBuild
  else
    match g.blockForm? ts with
    | some form => form
    | none => g.plainValue mayBuild

/-! ### Postfix forms -/

/-- The members that a number with points names, and whether a point ends it. -/
def positions (l : Located Literal) : Reader (Code × Bool) := do
  let parts := l.value.parts
  let named := parts.filter (·.text != "")
  let codes ← named.mapM fun part => position ⟨part, l.span⟩
  return (joinCode "." (named.length < parts.length) codes, named.length < parts.length)

/-- Arguments of a call. -/
def callExprs : Reader Code := grouped .paren (commaCode g.exprCode)

/-- A member by name, which may be called, or by position. -/
def memberForm (front : Code) : Reader (String × Code) := do
  let ts ← look
  if atWord "await" ts then return ("await", front ++ (← word "await"))
  else if atName ts then
    let x ← name
    let args ← if ← looksAt (atMark "::") then g.angleArgs else pure .none
    let code := front ++ Segment.code (.mk x args)
    if !args.isNone || (← looksAt (atGroup .paren)) then
      return ("method_call", code ++ (← g.callExprs))
    else return ("field", code)
  else return ("field", front ++ (← member).1)

/-- One postfix form and its name. -/
def postfixForm : Reader (String × Code) := do
  let ts ← look
  if atGroup .paren ts then return ("call", ← g.callExprs)
  else if atGroup .bracket ts then return ("index", ← grouped .bracket g.exprCode)
  else if atMark "?" ts then return ("try", ← mark "?")
  else
    let point ← mark "."
    if ← looksAt (atLiteralOf Literal.isFloat) then
      let (code, goesOn) ← positions (← located literal)
      if goesOn then g.memberForm (point ++ code) else return ("field", point ++ code)
    else g.memberForm point

def atPostfix (ts : List TokenTree) : Bool :=
  atGroup .paren ts || atGroup .bracket ts || atMark "?" ts || atPoint ts

/-- The forms behind `e`; the last one names the whole.  Nothing is asked of a range. -/
def withPostfix (e : Expr) : Reader Expr := do
  if e.isRange then return e
  else
    let forms ← many atPostfix g.postfixForm
    return match forms.getLast? with
      | some (noun, _) => .ofNoun noun (e.code ++ forms.flatMap (·.2))
      | none => e

/-! ### Operators in front -/

/-- A raw reference rather than one to something called `raw`. -/
def atRaw (ts : List TokenTree) : Bool := atWord "raw" ts && atAnyWord ["mut", "const"] (behind ts)

def reference (mayBuild : Bool) : Reader Expr := do
  let amp ← mark "&"
  let raw ← optional atRaw (word "raw")
  let m ← optWord "mut"
  let c ← if !raw.isEmpty && m.isEmpty then word "const" else pure []
  let e ← g.unary mayBuild
  let noun := if raw.isEmpty then "reference" else "unknown"
  return .ofNoun noun (amp ++ raw ++ m ++ c ++ e.code)

def unaryMarks : List String := ["*", "!", "-"]

def unaryRule (mayBuild : Bool) : Reader Expr := do
  let start ← look
  let attrs ← g.outerCode
  let ts ← look
  if atMark "&" ts then return (← g.reference mayBuild).withAttrs attrs
  else
    match unaryMarks.find? (atMark · ts) with
    | some m =>
      let sign ← mark m
      return .ofNoun "unary" (attrs ++ sign ++ (← g.unary mayBuild).code)
    | none =>
      let e ← g.withPostfix (← g.value mayBuild)
      match e.form with
      | .kept => return .asWritten (← keptSince start)
      | .range place =>
        if attrs.isEmpty then return e else failAt .attributedRange place
      | _ => return e.withAttrs attrs

/-! ### Whole expressions -/

def exprRule (mayBuild : Bool) : Reader Expr := do
  g.operators mayBuild .any (← g.unary mayBuild)

def bodyRule : Reader Expr := do
  let attrs ← g.outerCode
  match g.blockForm? (← look) with
  | none => g.operators true .any ((← g.unary true).withAttrs attrs)
  | some form =>
    let e ← form
    if ← looksAt fun ts => atPoint ts || atMark "?" ts then
      g.operators true .any ((← g.withPostfix e).withAttrs attrs)
    else return e.withAttrs attrs

end AccessorSchema.Grammar
