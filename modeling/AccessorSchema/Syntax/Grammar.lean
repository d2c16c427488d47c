import AccessorSchema.Syntax.Item
import AccessorSchema.Syntax.Reader

/-! # The grammar, level by level

Types, expressions, patterns, statements and items contain each other.  A `Grammar` holds one reader
for each of them, and every rule is a function of the grammar that reads what is nested inside, so
no rule calls itself.  `Grammar.level` stacks the rules: level `n` reads all sources that are nested
at most `n` deep, and no source is nested deeper than four levels for each of its trees.

This module holds what a rule is made of: the grammar, what its readers answer with, and the
smallest rules. -/

namespace AccessorSchema

/-- A type as it was read.  A type that can be the first of several bounds has its code as one. -/
structure TypeForm where
  ty : Ty
  bound : Option Code

/-- A bound; lifetimes and captured parameters are no traits. -/
structure Bound where
  code : Code
  isTrait : Bool

inductive PatternForm where
  /-- A range; `gap` is the place of its mark if it lacks an end. -/
  | range (gap : Option Span)
  /-- Kept as written. -/
  | kept
  | other

structure Pattern where
  form : PatternForm
  code : Code

namespace Pattern

def ofCode (code : Code) : Pattern := ⟨.other, code⟩

/-- With attributes in front; they would go to the start of a range without parentheses, and what is
kept as written takes none. -/
def withAttrs (attrs : Code) (p : Pattern) : Pattern :=
  match p.form with
  | .range _ => if attrs.isEmpty then p else { p with code := attrs ++ [.group .paren p.code] }
  | .kept => p
  | .other => { p with code := attrs ++ p.code }

end Pattern

/-- How tightly an operator binds, from the loosest on. -/
inductive Precedence where
  | any
  | assign
  | range
  | or
  | and
  | compare
  | bitOr
  | bitXor
  | bitAnd
  | shift
  | sum
  | product
  | cast
deriving DecidableEq, Repr

structure Grammar where
  /-- A type; the flag allows a sum of bounds. -/
  typeForm : Bool → Reader TypeForm
  /-- A bound; the flags allow captured parameters and the mark `const`. -/
  bound : Bool → Bool → Reader Bound
  /-- An expression; the flag allows a struct literal. -/
  expr : Bool → Reader Expr
  /-- An operand with the operators in front of it and the forms behind it. -/
  unary : Bool → Reader Expr
  /-- What follows an operand, as far as it binds at least as tightly as given. -/
  operators : Bool → Precedence → Expr → Reader Expr
  /-- An expression that is over behind its first block, as statements are. -/
  body : Reader Expr
  /-- A pattern without alternatives at its top. -/
  pat : Reader Pattern
  /-- The statements of a block. -/
  statements : Reader Code
  /-- An item behind its attributes, from the trees it starts with. -/
  item : List TokenTree → List Attr → Reader Item

/-- The grammar that reads nothing. -/
instance : Inhabited Grammar :=
  ⟨⟨fun _ => default, fun _ _ => default, fun _ => default, fun _ => default,
    fun _ _ _ => default, default, default, default, fun _ _ => default⟩⟩

namespace Grammar

open Reader TokenTree

variable (g : Grammar)

def ty (plus : Bool) : Reader Ty := do
  return (← g.typeForm plus).ty

def tyCode (plus : Bool) : Reader Code := do
  return [.type (← g.ty plus)]

def exprCode : Reader Code := do
  return (← g.expr true).code

/-- A block with its braces. -/
def block : Reader Code := grouped .brace g.statements

/-! ### Paths of modules -/

/-- Keywords that are path segments all the same. -/
def pathWords : List String := ["super", "self", "crate", "Self"]

def atPathWord : List TokenTree → Bool := atAnyWord pathWords

def atPathStart (ts : List TokenTree) : Bool := atName ts || atPathWord ts

/-- A path whose segments have no arguments. -/
def modulePath : Reader Path := do
  let rooted := !(← optMark "::").isEmpty
  let first ← nameOr pathWords
  let rest ← many (atMark "::") do
    let _ ← mark "::"
    unless ← looksAt atPathStart do
      failExpected ["path segment after `::`"]
    anyIdent
  return .mk rooted ((first :: rest).map .bare)

/-- The arguments of a macro with their delimiters, as written. -/
def invocationArgs : Reader (Delim × Code) := do
  let (d, body, _) ← anyGroup
  return (d, [.group d (Piece.ofTokens (TokenTree.tokens body))])

/-! ### Members -/

/-- The number of a position. -/
def position (l : Located Literal) : Reader Code := do
  return [.word (toString (← require (l.map Literal.index)))]

/-- A name, or the number of a position; whether it is a name. -/
def member : Reader (Code × Bool) := do
  let ts ← look
  if atName ts then return (← identCode name, true)
  else if atLiteralOf Literal.isInt ts then return (← position (← located literal), false)
  else failExpected ["identifier or integer"]

end Grammar

end AccessorSchema
