import AccessorSchema.Schema.Emission

/-! # Expanding a module

The expansion of a schema module is code again: the module with its accessors, or with the errors
that keep it from having any.  It is shown in lines, one for each item. -/

namespace AccessorSchema

/-- A text that makes a build fail, with the place it points at. -/
structure BuildError where
  text : String
  span : Span

structure Expansion where
  code : List Token
  errors : List BuildError

namespace Expansion

open Token

/-- A module that cannot be read at all is replaced by the reason. -/
def ofSyntaxError (e : SyntaxError) : Expansion :=
  ⟨compileError e.message, [⟨e.message, e.span⟩]⟩

/-- A module with faulty attributes stays, and the errors follow it. -/
def ofAttributeErrors (m : Module) (es : List AttributeError) : Expansion :=
  ⟨m.stripped ++ es.flatMap fun e => compileError e.message,
    es.map fun e => ⟨e.message, e.span⟩⟩

/-- A schema with the code of its run. -/
def ofRun (m : Module) (s : Schema) (r : Run) : Expansion :=
  ⟨m.tokensWith (s.content r), r.diagnostics.map fun d => ⟨d.display, d.span⟩⟩

/-- Expands the trees of a module under the arguments of its attribute.  There is no expansion if the run of
its schema breaks off. -/
def ofTrees? (args item : List TokenTree) : Except IdentFault Expansion :=
  match (Grammar.moduleRule (.deepFor item)).run item with
  | .error e => return ofSyntaxError e
  | .ok m =>
    match Schema.ofModule args m with
    | .error es => return ofAttributeErrors m es
    | .ok s => return ofRun m s (← s.run?)

/-! ### Lines -/

/-- A token ends a line: a semicolon, or a group in braces that none follows. -/
def endsLine (t : Token) (next : Option Token) : Bool :=
  match t with
  | .atom ";" _ => true
  | .group .brace _ =>
    match next with
    | some (.atom ";" _) => false
    | _ => true
  | _ => false

/-- Cuts tokens into lines; `line` holds the beginning of the current one. -/
def cut (line : List Token) : List Token → List (List Token)
  | [] => if line.isEmpty then [] else [line]
  | t :: rest =>
    if endsLine t rest.head? then (line ++ [t]) :: cut [] rest else cut (line ++ [t]) rest

/-- Lines of a file: a module is opened, its contents follow, and it is closed. -/
def fileLines (line : List Token) : List Token → List String
  | [] => if line.isEmpty then [] else [render line]
  | .atom "mod" j :: .atom x k :: .group .brace body :: rest =>
    (render (line ++ [.atom "mod" j, .atom x k]) ++ " \x7b") :: (cut [] body).map render ++
      "\x7d" :: fileLines [] rest
  | t :: rest =>
    if endsLine t rest.head? then render (line ++ [t]) :: fileLines [] rest
    else fileLines (line ++ [t]) rest

def lines (e : Expansion) : List String := fileLines [] e.code

end Expansion

end AccessorSchema
