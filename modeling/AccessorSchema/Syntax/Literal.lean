import AccessorSchema.Source.Lexeme
import AccessorSchema.Syntax.Basic
import AccessorSchema.Syntax.Fault
import AccessorSchema.Text.Quoted

/-! # Literals

A literal is kept as written; `Literal.kind` says what it is.  A number that goes on behind its
digits with a point or with an exponent is no integer; whatever else follows them is a suffix. -/

namespace AccessorSchema

/-- A literal as written, but for the minus sign in front of a number. -/
structure Literal where
  isNegative : Bool
  text : String

inductive LiteralKind where
  | string
  | byteString
  | byte
  | cString
  | char
  | bool
  | int (value : Nat) (suffix : String)
  | float
deriving DecidableEq, Repr

namespace Literal

/-- A sign is a token of its own. -/
def code (l : Literal) : Code := (if l.isNegative then [.word "-"] else []) ++ [.word l.text]

/-- The number that digits of a base spell; underscores do not count. -/
def value (base : Nat) (digits : List Char) : Nat :=
  (digits.filter (· != '_')).foldl (fun n c => n * base + Lexeme.hexValue c) 0

/-- An exponent, from behind its letter: a digit or a sign behind any underscores. -/
def startsExponent (text : List Char) : Bool :=
  (text.dropWhile (· == '_')).head?.any fun c => Text.isDigit c || c == '+' || c == '-'

/-- What follows the digits of a decimal number and makes it no integer. -/
def startsFraction : List Char → Bool
  | '.' :: _ => true
  | 'e' :: rest | 'E' :: rest => startsExponent rest
  | _ => false

def isDigitOf (base : Nat) (c : Char) : Bool :=
  c == '_' || Text.isDigit c || (base == 16 && Lexeme.isHex c)

def numberKind (text : List Char) : LiteralKind :=
  let (base, rest) := Lexeme.baseOf text
  let behind := rest.dropWhile (isDigitOf base)
  if base == 10 && startsFraction behind then .float
  else .int (value base (rest.takeWhile (isDigitOf base))) (String.ofList behind)

def kindOf? : List Char → Option LiteralKind
  | '"' :: _ | 'r' :: _ => some .string
  | 'b' :: '\'' :: _ => some .byte
  | 'b' :: _ => some .byteString
  | 'c' :: _ => some .cString
  | '\'' :: _ => some .char
  | 't' :: _ | 'f' :: _ => some .bool
  | '(' :: _ => none
  | text => some (numberKind text)

/-- What the literal is, unless it stands for one that could not be read. -/
def kind (l : Literal) : Option LiteralKind := kindOf? l.text.toList

def isString (l : Literal) : Bool := l.kind == some .string

def isInt (l : Literal) : Bool :=
  match l.kind with
  | some (.int _ _) => true
  | _ => false

def isFloat (l : Literal) : Bool := l.kind == some .float

/-- The position that an integer names; it has no sign and no suffix, and fits in 32 bits. -/
def index (l : Literal) : Except SyntaxFault Nat :=
  match l.kind with
  | some (.int n suffix) =>
    if suffix != "" then .error .suffixedIndex
    else if l.isNegative then .error .badDigit
    else if n < UInt32.size then .ok n
    else .error .tooLarge
  | _ => .error (.expected false ["integer literal"])

/-- The numbers between the points of a literal; the sign goes with the first. -/
def parts (l : Literal) : List Literal :=
  match l.text.splitOn "." with
  | [] => []
  | first :: rest => ⟨l.isNegative, first⟩ :: rest.map (Literal.mk false)

end Literal

end AccessorSchema
