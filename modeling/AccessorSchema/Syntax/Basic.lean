import AccessorSchema.Token

/-! # Types and paths

A type is kept in as much detail as the compiler looks into: plain paths with their generic
arguments, groups, arrays and slices.  Every other form, and every expression inside a type, is a
run of *pieces*: printed tokens interleaved with the types and paths that occur between them, so
that a substitution still reaches each type. -/

namespace AccessorSchema

mutual

inductive Ty where
  | path (p : Path)
  | group (inner : Ty)
  | paren (inner : Ty)
  | array (elem : Ty) (length : List Piece)
  | slice (elem : Ty)
  | other (code : List Piece)

inductive Path where
  | mk (rooted : Bool) (segments : List Segment)

inductive Segment where
  | mk (ident : Ident) (args : Args)

inductive Args where
  | none
  | angle (turbofish : Bool) (args : List Arg) (trailing : Bool)
  | call (code : List Piece)

inductive Arg where
  | lifetime (name : String)
  | type (t : Ty)
  | other (code : List Piece)

inductive Piece where
  | atom (text : String) (joint : Bool)
  | group (delim : Delim) (body : List Piece)
  | type (t : Ty)
  /-- A path that is no type, such as that of a trait; its arguments still hold types. -/
  | path (p : Path)

end

/-- Tokens interleaved with types and paths. -/
abbrev Code := List Piece

instance : Inhabited Path := ⟨.mk false []⟩

instance : Inhabited Ty := ⟨.path default⟩

namespace Piece

def word (text : String) : Piece := atom text false

mutual

/-- A token as a piece. -/
def ofToken : Token → Piece
  | .atom s joint => atom s joint
  | .group d body => group d (ofTokens body)

def ofTokens : List Token → List Piece
  | [] => []
  | t :: rest => ofToken t :: ofTokens rest

end

end Piece

namespace Segment

def ident : Segment → Ident
  | mk x _ => x

def args : Segment → Args
  | mk _ a => a

def bare (x : Ident) : Segment := mk x .none

/-- A segment that stands alone. -/
def code (s : Segment) : Code := [.path (.mk false [s])]

end Segment

namespace Args

/-- The arguments that are types, in order. -/
def types : Args → List Ty
  | angle _ args _ => args.filterMap fun
    | .type t => some t
    | _ => Option.none
  | _ => []

def isNone : Args → Bool
  | none => true
  | _ => false

end Args

namespace Path

def rooted : Path → Bool
  | mk r _ => r

def segments : Path → List Segment
  | mk _ s => s

def code (p : Path) : Code := [.path p]

def ofIdent (x : Ident) : Path := mk false [.bare x]

/-- The identifier of a path that is nothing but one. -/
def ident? : Path → Option Ident
  | mk false [.mk x .none] => some x
  | _ => none

def isWord (p : Path) (w : String) : Bool := p.ident?.any (·.isWord w)

def last? (p : Path) : Option Segment := p.segments.getLast?

/-- No segment has arguments. -/
def isPlain (p : Path) : Bool := p.segments.all (·.args.isNone)

end Path

end AccessorSchema
