import AccessorSchema.Diagnostic.Rule
import AccessorSchema.Text.Quoted
import AccessorSchema.Token

/-! # Diagnostics

A diagnostic is a broken rule with the symbol it is about, the arguments of its message and the
place to point at.  A run collects diagnostics in a list, in the order they are reported. -/

namespace AccessorSchema

/-- Tokens of generated code that make a build fail with a text. -/
def compileError (text : String) : List Token :=
  Token.words ":: core :: compile_error !" ++ [.brace [.word (Text.stringLiteral text)]]

structure Diagnostic where
  rule : Rule
  symbol : String
  args : List String
  span : Span
deriving DecidableEq, Inhabited

namespace Diagnostic

def message (d : Diagnostic) : String := Template.fill d.rule.template d.args

/-- The message behind its code. -/
def display (d : Diagnostic) : String := d.rule.code ++ ": " ++ d.message

def compileError (d : Diagnostic) : List Token := AccessorSchema.compileError d.display

/-- Some diagnostic is an error. -/
def anyError (ds : List Diagnostic) : Bool := ds.any (·.rule.severity == .error)

def about (symbol : String) (ds : List Diagnostic) : List Diagnostic :=
  ds.filter (·.symbol == symbol)

end Diagnostic

end AccessorSchema
