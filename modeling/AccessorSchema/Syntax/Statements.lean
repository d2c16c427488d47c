import AccessorSchema.Syntax.Expressions

/-! # Reading statements

A statement is a local binding, an item or an expression.  An expression needs a semicolon unless
it ends with a block or the block around it ends. -/

namespace AccessorSchema.Grammar

open Reader TokenTree

variable (g : Grammar)

/-! ### Items among statements -/

/-- Words that begin an item wherever they stand. -/
def itemWords : List String :=
  ["pub", "extern", "use", "fn", "mod", "type", "struct", "enum", "trait", "impl", "macro"]

/-- Words that may stand in front of `fn`. -/
def functionWords : List String := ["unsafe", "extern", "fn"]

/-- A constant, not a block or a closure that is one. -/
def atConstItem (ts : List TokenTree) : Bool :=
  let next := behind ts
  atWord "const" ts && !(atGroup .brace next || atAnyWord ["static", "move"] next ||
    atMark "|" next || (atWord "async" next && !atAnyWord functionWords (behind next)))

/-- The beginning of an item, as the words in front of it tell. -/
def atItem (ts : List TokenTree) : Bool :=
  let next := behind ts
  atAnyWord itemWords ts || atConstItem ts ||
    (atWord "crate" ts && !atMark "::" next) ||
    (atWord "static" ts && (atName next || atWord "mut" next)) ||
    (atWord "unsafe" ts && !atGroup .brace next) ||
    (atWord "async" ts && atAnyWord functionWords next) ||
    (atWord "union" ts && atName next) ||
    (atWord "auto" ts && atWord "trait" next) ||
    (atWord "default" ts && atAnyWord ["unsafe", "impl"] next)

/-- What the call of a macro in front is where a statement is expected. -/
inductive CalledAs where
  | item
  | statement
  | expr

/-- A macro that defines something named is an item; one in braces is a statement unless it goes on
behind them. -/
def calledAs : Reader CalledAs := fun c =>
  match modulePath c with
  | .error _ => .ok (.expr, c)
  | .ok (_, behindPath) =>
    let ts := behindPath.trees
    let next := behind ts
    let rest := behind next
    if !atMark "!" ts then .ok (.expr, c)
    else if atName next || atWord "try" next then .ok (.item, c)
    else if atGroup .brace next && !(atPoint rest || atMark "?" rest) then .ok (.statement, c)
    else .ok (.expr, c)

/-! ### Statements -/

def macroStatement : Reader Code := do
  let p ← modulePath
  let (_, code) ← invocation ⟨false, p, p.code⟩
  return code ++ (← optMark ";")

/-- The tree in front of which the rest is read is a group in braces. -/
def endsWithBrace (ts : List TokenTree) : Bool := atGroup .brace ts.getLast?.toList

/-- A local binding.  A value that ends with a brace takes no `else`. -/
def localBinding : Reader Code := do
  let w ← word "let"
  let p ← g.pat
  let t ← optional (atMark ":") do
    let colon ← mark ":"
    return colon ++ (← g.tyCode true)
  let value ← optional (atMark "=") do
    let eq ← mark "="
    let start ← look
    let e ← g.exprCode
    let closed := endsWithBrace (← since start)
    let other ← optional (fun ts => !closed && atWord "else" ts) do
      let w ← word "else"
      return w ++ (← g.block)
    return eq ++ e ++ other
  return w ++ p.code ++ t ++ value ++ (← mark ";")

/-- A statement, and whether a further one needs a semicolon in front of it. -/
def statement : Reader (Code × Bool) := do
  let start ← look
  let attrs ← g.outerAttrs
  let lead := attrs.flatMap Attr.code
  let ts ← look
  match ← calledAs with
  | .statement => return (lead ++ (← macroStatement), false)
  | .item => return ((← g.item start attrs).code, false)
  | .expr =>
    if atWord "let" ts then return (lead ++ (← g.localBinding), false)
    else if atItem ts then return ((← g.item start attrs).code, false)
    else
      let e ← g.body
      let semi ← optMark ";"
      return ((e.withAttrs lead).code ++ semi, semi.isEmpty && !e.endsStatement)

def statementsRule : Reader Code := manyCode (!·.isEmpty) do
  if ← looksAt (atMark ";") then mark ";"
  else
    let (code, isOpen) ← g.statement
    if isOpen && !(← atEnd) then fail .unfinishedStatement else return code

end AccessorSchema.Grammar
