import AccessorSchema.Source.Lexer
import AccessorSchema.Syntax.Items

/-! # Reading whole sources

`Grammar.level` closes the grammar, and the entry points read whole sources: `readType`, `readPath`,
`readModule` and so on.  A source that is no token sequence has no reading. -/

namespace AccessorSchema

namespace Grammar

variable (g : Grammar)

/-- The grammar whose rules read what is nested inside with `g`. -/
def next : Grammar :=
  { typeForm := g.typeRule, bound := g.boundRule, expr := g.exprRule, unary := g.unaryRule,
    operators := g.operatorsRule, body := g.bodyRule, pat := g.patRule,
    statements := g.statementsRule, item := g.itemRule }

/-- The grammar for sources nested at most `n` deep. -/
def level : Nat → Grammar
  | 0 => default
  | n + 1 => (level n).next

/-- A grammar deep enough for `trees`. -/
def deepFor (trees : List TokenTree) : Grammar := level (4 * TokenTree.sizeAll trees + 16)

end Grammar

namespace Source

open Grammar

/-- Reads all of a text; `none` if it is no token sequence or has another form. -/
def readAll {α : Type} (source : String) (p : Grammar → Reader α) : Option α :=
  (TokenTree.read source).bind fun trees => ((p (deepFor trees)).run trees).toOption

/-- Reads trees as a module. -/
def readModule (trees : List TokenTree) : Option Module :=
  ((moduleRule (deepFor trees)).run trees).toOption

def readType (source : String) : Option (Located Ty) :=
  readAll source fun g => Reader.located (g.ty true)

def readPath (source : String) : Option (Located Path) :=
  readAll source fun g => Reader.located (g.path false)

def readVis (source : String) : Option (Located Vis) :=
  readAll source fun _ => Reader.located visibility

def readMeta (source : String) : Option Meta := readAll source (·.metaItem)

def readGenerics (source : String) : Option Generics := readAll source (·.generics)

def readWhere (source : String) : Option Code := readAll source (·.whereClause)

/-- Outer attributes, as many as there are. -/
def readAttrs (source : String) : Option (List Attr) := readAll source (·.outerAttrs)

/-- Reads a text that stands in a string literal at `place`, which becomes the place of all its
parts. -/
def readQuoted {α : Type} (place : Span) (text : String) (p : Grammar → Reader α) : Option α :=
  (TokenTree.read text).bind fun trees =>
    let moved := TokenTree.moveAllTo place trees
    ((p (deepFor moved)).run moved).toOption

end Source

end AccessorSchema
