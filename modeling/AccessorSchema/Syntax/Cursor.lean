import AccessorSchema.Syntax.Literal

/-! # Looking at token trees

A cursor holds the trees still to be read and where errors point.  What stands in front of them can
be looked at without taking it. -/

namespace AccessorSchema

namespace TokenTree

/-- The plain word `w` is in front. -/
def atWord (w : String) : List TokenTree → Bool
  | ident x _ :: _ => x.isWord w
  | _ => false

def atAnyWord (ws : List String) (trees : List TokenTree) : Bool := ws.any (atWord · trees)

/-- Some identifier is in front, keyword or not. -/
def atIdent : List TokenTree → Bool
  | ident _ _ :: _ => true
  | _ => false

/-- A name is in front: an identifier that is no keyword. -/
def atName : List TokenTree → Bool
  | ident x _ :: _ => x.isName
  | _ => false

def atGroup (d : Delim) : List TokenTree → Bool
  | group e _ _ _ :: _ => d == e
  | _ => false

/-- The characters of a mark are in front, all but the last joint. -/
def atChars : List Char → List TokenTree → Bool
  | [], _ => false
  | [c], punct d _ _ :: _ => c == d
  | c :: cs, punct d joint _ :: rest => c == d && joint && atChars cs rest
  | _, _ => false

def atMark (mark : String) (trees : List TokenTree) : Bool := atChars mark.toList trees

def atAnyMark (marks : List String) (trees : List TokenTree) : Bool := marks.any (atMark · trees)

/-- The mark is in front and is not the beginning of one of the longer ones. -/
def atMarkBut (mark : String) (longer : List String) (trees : List TokenTree) : Bool :=
  atMark mark trees && !atAnyMark longer trees

/-- A single colon, not the path separator. -/
def atColon : List TokenTree → Bool := atMarkBut ":" ["::"]

/-- A point in front of a member, not the mark of a range. -/
def atPoint : List TokenTree → Bool := atMarkBut "." [".."]

/-- The exclamation mark of an invocation, not that of an inequality. -/
def atBang : List TokenTree → Bool := atMarkBut "!" ["!="]

/-- The sign that assigns, not the arrow of an alternative. -/
def atAssign : List TokenTree → Bool := atMarkBut "=" ["=>"]

def atLifetime : List TokenTree → Bool
  | punct '\'' _ _ :: ident _ _ :: _ => true
  | _ => false

/-- The literal in front with its last tree and what follows it; a minus sign counts as part of a
number. -/
def literal? : List TokenTree → Option (Literal × Span × List TokenTree)
  | literal s p :: rest => some (⟨false, s⟩, p, rest)
  | ident x p :: rest => if x.isWord "true" || x.isWord "false" then some (⟨false, x.name⟩, p, rest)
      else none
  | punct '-' _ _ :: literal s p :: rest =>
    if s.toList.head?.any Text.isDigit then some (⟨true, s⟩, p, rest) else none
  | _ => none

/-- A literal of the kind `f` is in front. -/
def atLiteralOf (f : Literal → Bool) (trees : List TokenTree) : Bool :=
  (literal? trees).any fun found => f found.1

def atLiteral (trees : List TokenTree) : Bool := (literal? trees).isSome

/-- The trees behind the first one, a lifetime counted as one. -/
def behind : List TokenTree → List TokenTree
  | punct '\'' true _ :: ident _ _ :: rest => rest
  | _ :: rest => rest
  | [] => []

/-- The trees behind the word `w`, if it is in front. -/
def skipWord (w : String) (trees : List TokenTree) : List TokenTree :=
  if atWord w trees then behind trees else trees

/-- The path separator with `f` behind it. -/
def atSeparated (f : List TokenTree → Bool) (trees : List TokenTree) : Bool :=
  atMark "::" trees && f (behind (behind trees))

end TokenTree

/-- The trees still to be read, the place an error at their end points at, the place of the last
tree taken, and the first complaint about a group that was not read to its end. -/
structure Cursor where
  trees : List TokenTree
  closing : Span
  passed : Span
  leftover : Option SyntaxError

namespace Cursor

def start (trees : List TokenTree) (closing : Span) : Cursor := ⟨trees, closing, closing, none⟩

/-- The place an error in front points at. -/
def place (c : Cursor) : Span :=
  match c.trees with
  | [] => c.closing
  | t :: _ => t.head

/-- The complaint about what is left between delimiters of which `closing` is awaited. -/
def rest? (c : Cursor) (closing : Option Delim) : Option SyntaxError :=
  c.trees.head?.map fun t => ⟨.leftover closing, t.span⟩

/-- What is wrong where everything should have been read. -/
def complaint? (c : Cursor) : Option SyntaxError := c.leftover <|> c.rest? none

/-- Without the first `n` trees. -/
def drop (c : Cursor) (n : Nat) : Cursor :=
  { c with
    trees := c.trees.drop n
    passed := ((c.trees.drop (n - 1)).head?.map TokenTree.span).getD c.passed }

end Cursor

end AccessorSchema
