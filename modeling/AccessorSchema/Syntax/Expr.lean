import AccessorSchema.Syntax.Literal

/-! # Expressions

An expression is code.  Besides, its form is kept at the top: what a misplaced value is called
depends on it, and so does what may follow the expression. -/

namespace AccessorSchema

inductive ExprForm where
  | literal (l : Literal)
  /-- A path; of a qualified one the part behind its self type. -/
  | path (p : Path)
  /-- A call of a macro. -/
  | invocation (braced : Bool)
  | comparison
  /-- A range, with the place of its mark. -/
  | range (mark : Span)
  /-- Kept as written. -/
  | kept
  | other (noun : String)

structure Expr where
  form : ExprForm
  code : Code
  /-- The first operand of all is kept as written. -/
  startsKept : Bool

namespace LiteralKind

/-- What a literal is called in messages. -/
def noun : LiteralKind → String
  | string => "string"
  | byteString => "byte string"
  | byte => "byte"
  | cString => "unknown"
  | char => "char"
  | bool => "bool"
  | int _ _ => "int"
  | float => "float"

end LiteralKind

namespace ExprForm

/-- What an expression is called in messages. -/
def noun : ExprForm → String
  | literal l =>
    match l.kind with
    | some k => k.noun
    | none => "verbatim"
  | path _ => "path"
  | invocation _ => "macro"
  | comparison => "binary"
  | range _ => "range"
  | kept => "verbatim"
  | other noun => noun

end ExprForm

namespace Expr

/-- An expression that does not start with an operand of its own. -/
def leaf (form : ExprForm) (code : Code) : Expr := ⟨form, code, false⟩

def ofNoun (noun : String) (code : Code) : Expr := leaf (.other noun) code

def ofLiteral (l : Literal) : Expr := leaf (.literal l) l.code

/-- An expression that is kept as written. -/
def asWritten (code : Code) : Expr := ⟨.kept, code, true⟩

/-- An expression that goes on behind `first`. -/
def behind (first : Expr) (form : ExprForm) (rest : Code) : Expr :=
  ⟨form, first.code ++ rest, first.startsKept⟩

def isRange (e : Expr) : Bool :=
  match e.form with
  | .range _ => true
  | _ => false

def isComparison (e : Expr) : Bool :=
  match e.form with
  | .comparison => true
  | _ => false

/-- With attributes in front.  They would go to the start of a range without parentheses, and an
operand that is kept as written takes none. -/
def withAttrs (attrs : Code) (e : Expr) : Expr :=
  match e.form with
  | .range _ => if attrs.isEmpty then e else { e with code := attrs ++ [.group .paren e.code] }
  | _ => if e.startsKept then e else { e with code := attrs ++ e.code }

/-- Forms that need nothing behind them where alternatives follow each other. -/
def endsArm (e : Expr) : Bool :=
  match e.form with
  | .other noun =>
    ["if", "match", "block", "unsafe", "while", "loop", "for_loop", "try_block",
      "const"].contains noun
  | _ => false

/-- Forms that need nothing behind them where statements follow each other. -/
def endsStatement (e : Expr) : Bool :=
  match e.form with
  | .invocation braced => braced
  | _ => e.endsArm

end Expr

end AccessorSchema
