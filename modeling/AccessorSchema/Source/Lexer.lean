import AccessorSchema.Source.TokenTree
import AccessorSchema.Source.Lexeme
import AccessorSchema.Text.Quoted

/-! # Reading token trees

`TokenTree.readAt` turns a text into token trees in two passes: lexemes in a row, then groups.  A
text that holds an unknown character, an unfinished literal or an unmatched delimiter has no
reading; the first such place is the answer instead. -/

namespace AccessorSchema

/-- A lexeme in a row: a delimiter, a finished leaf, or the place where no lexeme starts. -/
inductive Lexeme.Flat where
  | unreadable (place : Pos)
  | opening (delim : Delim) (span : Span)
  | closing (delim : Delim) (span : Span)
  | leaves (trees : List TokenTree)

namespace TokenTree

open Lexeme (Flat)

def openingOf? : Char → Option Delim
  | '(' => some .paren
  | '[' => some .bracket
  | '\x7b' => some .brace
  | _ => none

def closingOf? : Char → Option Delim
  | ')' => some .paren
  | ']' => some .bracket
  | '\x7d' => some .brace
  | _ => none

/-- A documentation comment is the attribute it stands for. -/
def ofDoc (d : Lexeme.Doc) (s : Span) : List TokenTree :=
  let body := [ident (.plain "doc") s, punct '=' false s,
    literal (Text.stringLiteral (String.ofList d.contents)) s]
  punct '#' false s :: (if d.inner then [punct '!' false s] else []) ++
    [group .bracket body s.first s.last]

/-- The leaf in front of a text and what is left behind it. -/
def leaf? (text : List Char) (place : Pos) : Option (TokenTree × List Char) :=
  let spanTo (rest : List Char) : Span := ⟨place, place.advance (Lexeme.upTo text rest)⟩
  match Lexeme.literal? text with
  | some rest => some (literal (String.ofList (Lexeme.upTo text rest)) (spanTo rest), rest)
  | none =>
    match Lexeme.punct? text with
    | some (c, joint) => some (punct c joint (spanTo text.tail), text.tail)
    | none =>
      (Lexeme.ident? text).bind fun rest =>
        (Ident.ofText? (String.ofList (Lexeme.upTo text rest))).map fun x => (ident x (spanTo rest), rest)

/-- The next lexeme, if the text does not start with a blank or a comment. -/
def flat? (text : List Char) (place : Pos) : Option (Flat × List Char) :=
  match Lexeme.doc? text with
  | some (d, rest) =>
    some (.leaves (ofDoc d ⟨place, place.advance (Lexeme.upTo text rest)⟩), rest)
  | none =>
    match text with
    | [] => none
    | c :: rest =>
      match (openingOf? c).filter fun _ => (Lexeme.unreadable? text).isNone with
      | some d => some (.opening d ⟨place, place.next c⟩, rest)
      | none =>
        match closingOf? c with
        | some d => some (.closing d ⟨place, place.next c⟩, rest)
        | none => (leaf? text place).map fun (t, behind) => (.leaves [t], behind)

/-- All lexemes of a text; at the first place where none starts the rest is given up. -/
def flatten (text : List Char) (place : Pos) : List Flat :=
  if text.isEmpty then []
  else
    match Lexeme.blank? text with
    | some rest =>
      if rest.length < text.length then flatten rest (place.advance (Lexeme.upTo text rest))
      else [.unreadable place]
    | none =>
      match flat? text place with
      | some (flat, rest) =>
        if rest.length < text.length then
          flat :: flatten rest (place.advance (Lexeme.upTo text rest))
        else [.unreadable place]
      | none => [.unreadable place]
termination_by text.length

/-- An open group: its delimiter, its place and the trees in front of it, last first. -/
structure Pending where
  delim : Delim
  span : Span
  before : List TokenTree

/-- Builds the groups; `done` holds the trees of the innermost open group, last first. -/
def nest (stack : List Pending) (done : List TokenTree) : List Flat → Except Pos (List TokenTree)
  | [] =>
    match stack with
    | [] => .ok done.reverse
    | p :: _ => .error p.span.start
  | .unreadable place :: _ => .error place
  | .leaves trees :: rest => nest stack (trees.reverse ++ done) rest
  | .opening d s :: rest => nest (⟨d, s, done⟩ :: stack) [] rest
  | .closing d s :: rest =>
    match stack with
    | [] => .error s.start
    | p :: outer =>
      if p.delim == d then nest outer (group d done.reverse p.span s :: p.before) rest
      else .error s.start

/-- The token trees of a source text, or the place where it cannot be read.  A byte order mark in
front is skipped; it takes up a column. -/
def readAt (source : String) : Except Pos (List TokenTree) :=
  nest [] [] <|
    match source.toList with
    | '\uFEFF' :: text => flatten text (Pos.origin.next '\uFEFF')
    | text => flatten text .origin

/-- The token trees of a source text. -/
def read (source : String) : Option (List TokenTree) := (readAt source).toOption

end TokenTree

end AccessorSchema
