import AccessorSchema.Ident
import AccessorSchema.Text.Words

/-! # Names of accessors

The names of an accessor follow from the name of the field behind it alone.  A storage marker, a
leading `m_` or run of underscores, is taken off; what is left, the *stem*, is exposed in
capitalized words and read and written through methods in small letters.  A method whose name is no
identifier cannot be made, and `derive?` says so. -/

namespace AccessorSchema

structure AccessorName where
  /-- The name under which the accessor is known to others. -/
  exposed : String
  getter : Label
  setter : Label
deriving DecidableEq, Inhabited

namespace AccessorName

/-- Words that need a raw spelling to name a method. -/
def keywords : List String :=
  ["abstract", "as", "async", "await", "become", "box", "break", "const", "continue", "do", "dyn",
   "else", "enum", "extern", "false", "final", "fn", "for", "gen", "if", "impl", "in", "let",
   "loop", "macro", "match", "mod", "move", "mut", "override", "priv", "pub", "ref", "return",
   "static", "struct", "trait", "true", "try", "type", "typeof", "unsafe", "unsized", "use",
   "virtual", "where", "while", "yield"]

/-- Words that have no raw spelling; their getters keep the storage marker. -/
def pathWords : List String := ["self", "super", "crate", "Self"]

def dropMarker : List Char → List Char
  | 'm' :: '_' :: rest => rest
  | name => name

/-- What is left of a name without its storage marker, or all of it if nothing is left that an
identifier could start with. -/
def stem (name : List Char) : List Char :=
  let stripped := (dropMarker name).dropWhile (· == '_')
  if stripped.head?.any (fun c => !Text.isDigit c) then stripped else name

/-- The stem in small letters, or as it is if that would not start with an ASCII letter. -/
def method (stem : List Char) : List Char :=
  let small := Text.snake stem
  if small.head?.any Char.isAlpha then small else stem

/-- The method that reads: raw if it is a keyword, and named like the field if it cannot be raw. -/
def getterOf (backing : Label) (method : String) : Label :=
  if pathWords.contains method then .plain backing.name else ⟨method, keywords.contains method⟩

def derive (backing : Label) : AccessorName :=
  let s := stem backing.name.toList
  let m := String.ofList (method s)
  { exposed := String.ofList (Text.pascal s)
    getter := getterOf backing m
    setter := .plain ("set_" ++ m) }

/-- What is wrong with the methods, the getter first. -/
def fault? (n : AccessorName) : Option IdentFault := n.getter.fault? <|> n.setter.fault?

/-- The names, if methods can be named by them. -/
def checked (n : AccessorName) : Except IdentFault AccessorName :=
  match n.fault? with
  | some e => .error e
  | none => .ok n

/-- The names for an identifier, if methods can be named by them. -/
def derive? (backing : Ident) : Except IdentFault AccessorName := (derive backing).checked

end AccessorName

end AccessorSchema
