import AccessorSchema.Syntax.Patterns

/-! # Operators between values

An operator takes as its right side a value with everything behind it that binds more tightly.
Comparisons are not chained, and nothing goes on behind a range.  `Grammar.operatorsRule` reads one
operator with its right side and leaves the rest to the next level. -/

namespace AccessorSchema

namespace Precedence

def rank : Precedence → Nat
  | any => 0
  | assign => 1
  | range => 2
  | or => 3
  | and => 4
  | compare => 5
  | bitOr => 6
  | bitXor => 7
  | bitAnd => 8
  | shift => 9
  | sum => 10
  | product => 11
  | cast => 12

end Precedence

namespace Grammar

open Reader TokenTree

variable (g : Grammar)

/-- Operators with two operands; one that begins another stands behind it. -/
def binaryOperators : List (String × Precedence) :=
  [("+=", .assign), ("-=", .assign), ("*=", .assign), ("/=", .assign), ("%=", .assign),
   ("^=", .assign), ("&=", .assign), ("|=", .assign), ("<<=", .assign), (">>=", .assign),
   ("&&", .and), ("||", .or), ("<<", .shift), (">>", .shift), ("==", .compare), ("<=", .compare),
   ("!=", .compare), (">=", .compare), ("+", .sum), ("-", .sum), ("*", .product), ("/", .product),
   ("%", .product), ("^", .bitXor), ("&", .bitAnd), ("|", .bitOr), ("<", .compare),
   (">", .compare)]

def binaryOperator? (ts : List TokenTree) : Option (String × Precedence) :=
  binaryOperators.find? fun op => atMark op.1 ts

/-- How tightly what is in front binds to the value before it. -/
def precedenceOf (ts : List TokenTree) : Precedence :=
  match binaryOperator? ts with
  | some (_, p) => p
  | none =>
    if atAssign ts then .assign else if atMark ".." ts then .range
    else if atWord "as" ts then .cast else .any

/-- On the right side of `p` the operator in front belongs to that side. -/
def bindsRight (p : Precedence) (ts : List TokenTree) : Bool :=
  let next := precedenceOf ts
  p.rank < next.rank || (next == p && p == .assign)

def operandWith (fuel : Nat) (mayBuild : Bool) (p : Precedence) (e : Expr) : Reader Expr :=
  match fuel with
  | 0 => pure e
  | fuel + 1 => do
    let ts ← look
    if bindsRight p ts then
      let longer ← g.operators mayBuild (precedenceOf ts) e
      if (← look).length < ts.length then operandWith fuel mayBuild p longer else return longer
    else return e

/-- The right side of an operator. -/
def operand (mayBuild : Bool) (p : Precedence) : Reader Expr := do
  let e ← g.unary mayBuild
  g.operandWith ((← look).length + 1) mayBuild p e

/-! ### Ranges and casts -/

/-- The end of a range may be missing in front of these. -/
def endsRange (mayBuild : Bool) (ts : List TokenTree) : Bool :=
  ts.isEmpty || atPoint ts || (!mayBuild && atGroup .brace ts) || atWord "as" ts ||
    atAnyMark [",", ";", "?", "=>", "=", "+", "/", "%", "^", ">", "<=", "!=", "-=", "*=", "&=",
      "|=", "<<="] ts

def rangeStop (mayBuild closed : Bool) : Reader Code := do
  if !closed && (← looksAt (endsRange mayBuild)) then return []
  else return (← g.operand mayBuild .range).code

/-- What stands behind a cast although only a value could go on with it. -/
def behindCast? (ts : List TokenTree) : Option String :=
  let next := behind ts
  if atPoint ts then
    if atWord "await" next then some "`.await`"
    else if atName next && (atGroup .paren (behind next) || atMark "::" (behind next)) then
      some "a method call"
    else some "a field access"
  else if atMark "?" ts then some "`?`"
  else if atGroup .bracket ts then some "indexing"
  else if atGroup .paren ts then some "a function call"
  else none

/-- The type of a cast. -/
def castType : Reader Code := do
  let t ← g.tyCode false
  match behindCast? (← look) with
  | some thing => fail (.castFollowed thing)
  | none => return t

/-! ### One operator -/

def operatorsRule (mayBuild : Bool) (least : Precedence) (e : Expr) : Reader Expr := do
  let ts ← look
  if e.isRange || (precedenceOf ts).rank < least.rank then return e
  else
    match binaryOperator? ts with
    | some (op, p) =>
      if p == .compare && e.isComparison then fail .chainedComparison
      else
        let sign ← mark op
        let right ← g.operand mayBuild p
        let form := if p == .compare then .comparison else .other "binary"
        g.operators mayBuild least (e.behind form (sign ++ right.code))
    | none =>
      match precedenceOf ts with
      | .assign =>
        let sign ← mark "="
        let right ← g.operand mayBuild .assign
        g.operators mayBuild least (e.behind (.other "assign") (sign ++ right.code))
      | .range =>
        let m ← rangeMark false
        let stop ← g.rangeStop mayBuild m.value
        return .leaf (.range m.span) (e.code ++ rangeCode m.value ++ stop)
      | .cast =>
        let w ← word "as"
        let t ← g.castType
        g.operators mayBuild least (e.behind (.other "cast") (w ++ t))
      | _ => return e

/-- A pattern that a value is matched against; only comparisons and what binds more tightly belong
to the value. -/
def letExpr (mayBuild : Bool) : Reader Expr := do
  let w ← word "let"
  let p ← g.patCode
  let eq ← mark "="
  let first ← g.unary mayBuild
  let e ← g.operators mayBuild .compare first
  return .ofNoun "let" (w ++ p ++ eq ++ e.code)

end Grammar

end AccessorSchema
