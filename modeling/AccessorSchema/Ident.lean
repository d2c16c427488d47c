import AccessorSchema.Text.Quoted

/-! # Identifiers

A label is any text that something may be called by, plain or raw, as it is written with `r#` in front.  The
two spellings name different things, so `raw` takes part in equality.  An identifier is a label that the
language accepts, so there is none of a wrong form; `Label.fault?` says what keeps a label from being one. -/

namespace AccessorSchema

structure Label where
  name : String
  raw : Bool := false
deriving DecidableEq, Repr, Inhabited

namespace Label

/-- The label as written. -/
def text (x : Label) : String := if x.raw then "r#" ++ x.name else x.name

def plain (name : String) : Label := ⟨name, false⟩

/-- The label that is written as the text. -/
def ofText (text : String) : Label :=
  match text.toList with
  | 'r' :: '#' :: rest => ⟨String.ofList rest, true⟩
  | _ => ⟨text, false⟩

/-- Words that have no raw spelling. -/
def neverRaw : List String := ["_", "super", "self", "Self", "crate"]

/-- The label can be read as one identifier; keywords are accepted. -/
def isIdent (x : Label) : Bool := Text.isIdentText x.name.toList && !(x.raw && neverRaw.contains x.name)

/-- Words of the language that are no plain names. -/
def keywords : List String :=
  ["abstract", "as", "async", "await", "become", "box", "break", "const", "continue", "crate", "do",
   "dyn", "else", "enum", "extern", "false", "final", "fn", "for", "if", "impl", "in", "let",
   "loop", "macro", "match", "mod", "move", "mut", "override", "priv", "pub", "ref", "return",
   "Self", "self", "static", "struct", "super", "trait", "true", "try", "type", "typeof", "unsafe",
   "unsized", "use", "virtual", "where", "while", "yield"]

/-- It may stand where a name is expected. -/
def isName (x : Label) : Bool := x.raw || !("_" :: keywords).contains x.name

/-- The plain word `w`. -/
def isWord (x : Label) (w : String) : Bool := !x.raw && x.name == w

end Label

/-- A label that is an identifier. -/
structure Ident extends Label where
  valid : toLabel.isIdent = true
deriving DecidableEq, Repr

namespace Ident

instance : Coe Ident Label := ⟨toLabel⟩

def plain (name : String) (h : (Label.plain name).isIdent = true := by decide) : Ident := ⟨.plain name, h⟩

def underscore : Ident := .plain "_"

instance : Inhabited Ident := ⟨underscore⟩

def ofLabel? (x : Label) : Option Ident := if h : x.isIdent = true then some ⟨x, h⟩ else none

/-- Reads a whole text as one identifier. -/
def ofText? (text : String) : Option Ident := ofLabel? (.ofText text)

end Ident

/-! ### Labels that are no identifiers -/

/-- Why nothing can be named by a text. -/
inductive IdentFault where
  | empty
  | number
  | malformed (text : String)
  /-- A word that has no raw spelling is spelled raw. -/
  | neverRaw (text : String)
deriving DecidableEq

def IdentFault.message : IdentFault → String
  | empty => "Ident is not allowed to be empty; use Option<Ident>"
  | number => "Ident cannot be a number; use Literal instead"
  | malformed text => Text.shownText text ++ " is not a valid Ident"
  | neverRaw text => "`r#" ++ text ++ "` cannot be a raw identifier"

/-- What is wrong with a label as an identifier. -/
def Label.fault? (x : Label) : Option IdentFault :=
  if x.name.toList.isEmpty then some .empty
  else if x.name.toList.all Text.isDigit then some .number
  else if !Text.isIdentText x.name.toList then some (.malformed x.name)
  else if x.raw && neverRaw.contains x.name then some (.neverRaw x.name)
  else none

end AccessorSchema
