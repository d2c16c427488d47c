import AccessorSchema.Syntax.Basic

/-! # Printing types and paths

Operators are single tokens here, so the printed form does not depend on the spacing of the source.
Generic arguments come out with the lifetimes first. -/

namespace AccessorSchema

/-- An element of a comma separated list, with its own comma if it has one. -/
structure Listed (α : Type) where
  isLifetime : Bool
  body : List α
  comma : Bool

namespace Listed

variable {α : Type}

def own (comma : α) (x : Listed α) : List α := x.body ++ if x.comma then [comma] else []

/-- Lifetimes in front, each element with its own comma; a lifetime that was last gets one. -/
def print (comma : α) (xs : List (Listed α)) : List α :=
  let front := xs.filter (·.isLifetime)
  let back := xs.filter (!·.isLifetime)
  front.flatMap (own comma) ++
    (if front.getLast?.any (!·.comma) && !back.isEmpty then [comma] else []) ++
    back.flatMap (own comma)

/-- Every element but the last is followed by a comma, the last one if `trailing`. -/
def ofList (trailing : Bool) : List (Bool × List α) → List (Listed α)
  | [] => []
  | [x] => [⟨x.1, x.2, trailing⟩]
  | x :: y :: rest => ⟨x.1, x.2, true⟩ :: ofList trailing (y :: rest)

/-- Elements with `sep` between them, and one behind the last if `trailing`. -/
def separated (sep : α) (trailing : Bool) : List (List α) → List α
  | [] => []
  | [x] => x ++ if trailing then [sep] else []
  | x :: rest => x ++ sep :: separated sep trailing rest

end Listed

def Arg.isLifetime : Arg → Bool
  | .lifetime _ => true
  | _ => false

mutual

def Ty.tokens : Ty → List Token
  | .path p => p.tokens
  | .group t => [.group .invisible t.tokens]
  | .paren t => [.paren t.tokens]
  | .array t n => [.bracket (t.tokens ++ .word ";" :: Code.tokens n)]
  | .slice t => [.bracket t.tokens]
  | .other code => Code.tokens code

def Path.tokens : Path → List Token
  | .mk rooted segments => (if rooted then [.word "::"] else []) ++ Path.segmentTokens segments

/-- Segments separated by `::`. -/
def Path.segmentTokens : List Segment → List Token
  | [] => []
  | [s] => s.tokens
  | s :: t :: rest => s.tokens ++ .word "::" :: Path.segmentTokens (t :: rest)

def Segment.tokens : Segment → List Token
  | .mk x args => .ident x :: args.tokens

def Args.tokens : Args → List Token
  | .none => []
  | .angle turbofish args trailing =>
    (if turbofish then [.word "::"] else []) ++ .word "<" ::
      Listed.print (.word ",") (Listed.ofList trailing (Args.listTokens args)) ++ [.word ">"]
  | .call code => Code.tokens code

def Args.listTokens : List Arg → List (Bool × List Token)
  | [] => []
  | a :: rest => (a.isLifetime, a.tokens) :: Args.listTokens rest

def Arg.tokens : Arg → List Token
  | .lifetime name => [.word ("'" ++ name)]
  | .type t => t.tokens
  | .other code => Code.tokens code

def Piece.tokens : Piece → List Token
  | .atom s joint => [.atom s joint]
  | .group d body => [.group d (Code.tokens body)]
  | .type t => t.tokens
  | .path p => p.tokens

def Code.tokens : List Piece → List Token
  | [] => []
  | p :: rest => p.tokens ++ Code.tokens rest

end

def Ty.text (t : Ty) : String := Token.render t.tokens

def Path.text (p : Path) : String := Token.render p.tokens

end AccessorSchema
