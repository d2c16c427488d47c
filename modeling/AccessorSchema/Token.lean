import AccessorSchema.Ident

/-! # Tokens of generated code and their printed form

Code is printed as a sequence of tokens with one blank between them.  A *joint* token is followed
by the next one directly.  Groups print their delimiters, braces with blanks inside. -/

namespace AccessorSchema

inductive Delim where
  | paren
  | bracket
  | brace
  | invisible
deriving DecidableEq, Repr, Inhabited

inductive Token where
  | atom (text : String) (joint : Bool)
  | group (delim : Delim) (body : List Token)
deriving Inhabited

namespace Delim

def opening : Delim → String
  | paren => "("
  | bracket => "["
  | brace => "\x7b "
  | invisible => ""

def closing : Delim → String
  | paren => ")"
  | bracket => "]"
  | brace => "\x7d"
  | invisible => ""

end Delim

namespace Token

def word (text : String) : Token := atom text false

def ident (x : Label) : Token := word x.text

/-- The tokens of a text that separates them by blanks. -/
def words (text : String) : List Token := (text.splitOn " ").map word

def paren (body : List Token) : Token := group .paren body

def bracket (body : List Token) : Token := group .bracket body

def brace (body : List Token) : Token := group .brace body

def isJoint : Token → Bool
  | atom _ joint => joint
  | group _ _ => false

mutual

def text : Token → String
  | atom s _ => s
  | group d body =>
    d.opening ++ render body ++ (if d == .brace && !body.isEmpty then " " else "") ++ d.closing

/-- The printed form of a token sequence. -/
def render : List Token → String
  | [] => ""
  | [t] => t.text
  | t :: u :: rest => t.text ++ (if t.isJoint then "" else " ") ++ render (u :: rest)

end

end Token

end AccessorSchema
