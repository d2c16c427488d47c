import AccessorSchema.Token
import AccessorSchema.Source.Span

/-! # Token trees of a source text

Leaves and delimited groups, each with its place.  A punctuation character is joint when another
one follows it directly. -/

namespace AccessorSchema

inductive TokenTree where
  | ident (name : Ident) (span : Span)
  | punct (char : Char) (joint : Bool) (span : Span)
  | literal (text : String) (span : Span)
  | group (delim : Delim) (body : List TokenTree) (opening closing : Span)
deriving Inhabited

namespace TokenTree

def span : TokenTree → Span
  | ident _ s => s
  | punct _ _ s => s
  | literal _ s => s
  | group _ _ o c => o.through c

/-- Where an error at this tree points: a group is named by its opening delimiter. -/
def head : TokenTree → Span
  | group _ _ o _ => o
  | t => t.span

mutual

/-- The tree as a token that keeps the spacing of the source. -/
def token : TokenTree → Token
  | ident x _ => .ident x
  | punct c joint _ => .atom (String.singleton c) joint
  | literal s _ => .word s
  | group d body _ _ => .group d (tokens body)

def tokens : List TokenTree → List Token
  | [] => []
  | t :: rest => t.token :: tokens rest

end

mutual

/-- The same tree with every place replaced by `s`; the delimiters of a group get its ends. -/
def moveTo (s : Span) : TokenTree → TokenTree
  | ident x _ => ident x s
  | punct c joint _ => punct c joint s
  | literal t _ => literal t s
  | group d body _ _ => group d (moveAllTo s body) s.first s.last

def moveAllTo (s : Span) : List TokenTree → List TokenTree
  | [] => []
  | t :: rest => t.moveTo s :: moveAllTo s rest

end

mutual

/-- Number of leaves and groups. -/
def size : TokenTree → Nat
  | group _ body _ _ => sizeAll body + 1
  | _ => 1

def sizeAll : List TokenTree → Nat
  | [] => 0
  | t :: rest => t.size + sizeAll rest

end

end TokenTree

end AccessorSchema
