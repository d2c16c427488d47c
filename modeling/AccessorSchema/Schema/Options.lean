import AccessorSchema.Compilation.Run
import AccessorSchema.Schema.AttributeError
import AccessorSchema.Syntax.Source

/-! # Options of modules and structs

Options are a comma separated list of names, alone, with a list or with a value.  All of them are
looked at, so every error is found; of an option given twice the first counts.  `readOptions`
holds what is common, the tables `SchemaOptions.handlers` and `DataOptions.handlers` what each
option takes. -/

namespace AccessorSchema

/-! ### Lists of options -/

/-- One element of an option list. -/
inductive OptionItem where
  | literal (span : Span)
  | named (path : Path) (args : MetaArgs) (span : Span)

namespace OptionItem

def span : OptionItem → Span
  | literal s => s
  | named _ _ s => s

end OptionItem

namespace Grammar

open Reader TokenTree

variable (g : Grammar)

/-- Any identifiers joined by `::`. -/
def loosePath : Reader Path := do
  let first ← anyIdent
  let rest ← many (atMark "::") do
    let _ ← mark "::"
    unless ← looksAt atIdent do
      failExpected ["path segment"]
    anyIdent
  return .mk false ((first :: rest).map .bare)

def optionItem : Reader OptionItem := do
  let ts ← look
  let isName := (atWord "true" ts || atWord "false" ts) && atMark "=" (behind ts)
  if atLiteral ts && !isName then
    let l ← located literal
    return .literal l.span
  else if atIdent ts then
    let m ← located do
      let p ← loosePath
      return (p, ← g.metaArgs (atMark "="))
    return .named m.value.1 m.value.2 m.span
  else failExpected ["identifier or literal"]

def optionList : Reader (List OptionItem) := do
  return (← commaList g.optionItem).1

end Grammar

namespace OptionItem

/-- Reads the arguments of an attribute as a list of options. -/
def readList (trees : List TokenTree) : Except SyntaxError (List OptionItem) :=
  (Grammar.optionList (.deepFor trees)).run trees

end OptionItem

/-! ### Values -/

/-- The value of an option, or what is wrong with it and where. -/
abbrev OptionValue (α : Type) := Except (AttributeFault × Span) α

namespace OptionValue

/-- What an option makes of a word, a list and a value; it refuses what it does not take. -/
structure Forms (α : Type) where
  word : OptionValue α
  list : List TokenTree → OptionValue α
  value : Located Expr → OptionValue α

def refuseForm {α : Type} (noun : String) (whole : Span) : OptionValue α :=
  .error (.form noun, whole)

def refuseValue {α : Type} (e : Located Expr) : OptionValue α :=
  .error (.valueKind e.value.form.noun, e.span)

/-- The forms of an option that takes nothing, to be overridden. -/
def Forms.none {α : Type} (whole : Span) : Forms α :=
  ⟨refuseForm "word" whole, fun _ => refuseForm "list" whole, refuseValue⟩

def Forms.apply {α : Type} (f : Forms α) : MetaArgs → OptionValue α
  | .none => f.word
  | .list _ body _ => f.list body
  | .value e => f.value e

/-- A value that is a string literal, read by `f`. -/
def ofString {α : Type} (f : String → Option α) (e : Located Expr) : OptionValue α :=
  match e.value.form with
  | .literal l =>
    match Text.stringValue? l.text with
    | some s =>
      match f s with
      | some x => .ok x
      | none => .error (.unknownValue ⟨s⟩, e.span)
    | none => refuseValue e
  | _ => refuseValue e

/-- A value that is a string literal holding code, which `p` reads; it must not have a suffix. -/
def ofCode {α : Type} (p : Grammar → Reader α) (e : Located Expr) : OptionValue α :=
  let plain := match e.value.form with
    | .literal l => Text.stringSuffix l.text == ""
    | _ => true
  ofString (fun s => (Source.readQuoted e.span s p).filter fun _ => plain) e

end OptionValue

/-! ### All options of a list -/

/-- What an option of a given name does to the options read so far. -/
abbrev OptionHandler (σ : Type) := σ → MetaArgs → Span → OptionValue σ

/-- Options read so far, the names met, and the errors found. -/
structure OptionState (σ : Type) where
  options : σ
  met : List String
  errors : List AttributeError

namespace OptionState

variable {σ : Type}

def report (s : OptionState σ) (e : AttributeError) : OptionState σ :=
  { s with errors := s.errors ++ [e] }

/-- One more element of the list. -/
def step (handlers : List (String × OptionHandler σ)) (s : OptionState σ) :
    OptionItem → OptionState σ
  | .literal span => s.report ⟨.form "literal", span, none⟩
  | .named path args span =>
    let name := path.key.text
    match handlers.lookup name with
    | none => s.report ⟨.unknownOption name (handlers.map (·.1)), span, none⟩
    | some handle =>
      if s.met.contains name then s.report ⟨.repeated name, span, none⟩
      else
        let s := { s with met := name :: s.met }
        match handle s.options args span with
        | .ok options => { s with options := options }
        | .error (fault, place) => s.report ⟨fault, place, some name⟩

end OptionState

/-- Reads options from the defaults on; all errors in order, or the options. -/
def readOptions {σ : Type} (handlers : List (String × OptionHandler σ)) (defaults : σ)
    (trees : List TokenTree) : Except (List AttributeError) σ :=
  match OptionItem.readList trees with
  | .error e => .error [.ofReading e]
  | .ok items =>
    let s := items.foldl (OptionState.step handlers) ⟨defaults, [], []⟩
    if s.errors.isEmpty then .ok s.options else .error s.errors

/-! ### Module options -/

structure SchemaOptions where
  /-- Further attributes that members may forward. -/
  decorations : List Path
  /-- Further converters. -/
  converters : List Path
  invalid : InvalidPolicy
  runtime : Path

namespace SchemaOptions

def default : SchemaOptions := ⟨[], [], .skip, CompileOptions.defaultRuntime⟩

/-- The paths of a list; anything else in it is refused. -/
def paths (body : List TokenTree) : OptionValue (List Path) :=
  match OptionItem.readList body with
  | .error e => .error (.malformed e.fault, e.span)
  | .ok items => items.mapM fun
    | .named p .none _ => .ok p
    | item => .error (.valueKind "non-word", item.span)

def pathList (args : MetaArgs) (whole : Span) : OptionValue (List Path) :=
  { OptionValue.Forms.none whole with list := paths }.apply args

def invalidPolicy (args : MetaArgs) (whole : Span) : OptionValue InvalidPolicy :=
  { OptionValue.Forms.none whole with
    value := OptionValue.ofString fun s => (InvalidPolicy.ofText? s).toOption }.apply args

/-- A path, as it is or in a string. -/
def pathValue (e : Located Expr) : OptionValue Path :=
  match e.value.form with
  | .path p => .ok p
  | _ => OptionValue.ofCode (Grammar.path · false) e

def runtimePath (args : MetaArgs) (whole : Span) : OptionValue Path :=
  { OptionValue.Forms.none whole with value := pathValue }.apply args

def handlers : List (String × OptionHandler SchemaOptions) :=
  [("decorations", fun o args whole => return { o with decorations := ← pathList args whole }),
   ("converters", fun o args whole => return { o with converters := ← pathList args whole }),
   ("invalid", fun o args whole => return { o with invalid := ← invalidPolicy args whole }),
   ("crate", fun o args whole => return { o with runtime := ← runtimePath args whole })]

def read (trees : List TokenTree) : Except (List AttributeError) SchemaOptions :=
  readOptions handlers default trees

end SchemaOptions

/-! ### Struct options -/

structure DataOptions where
  isMutable : Bool
  base : Option (Located Ty)

namespace DataOptions

def default : DataOptions := ⟨false, none⟩

/-- A truth value as a literal or in a string. -/
def truth (e : Located Expr) : OptionValue Bool :=
  match e.value.form with
  | .literal ⟨_, "true"⟩ => .ok true
  | .literal ⟨_, "false"⟩ => .ok false
  | _ => OptionValue.ofString (fun s =>
      if s == "true" then some true else if s == "false" then some false else none) e

def mutableFlag (args : MetaArgs) (whole : Span) : OptionValue Bool :=
  { OptionValue.Forms.none whole with word := .ok true, value := truth }.apply args

/-- A type in a string. -/
def baseType (args : MetaArgs) (whole : Span) : OptionValue (Located Ty) :=
  { OptionValue.Forms.none whole with
    value := fun e => (OptionValue.ofCode (·.ty true) e).map (Located.mk · e.span) }.apply args

def handlers : List (String × OptionHandler DataOptions) :=
  [("mutable", fun o args whole => return { o with isMutable := ← mutableFlag args whole }),
   ("base", fun o args whole => return { o with base := some (← baseType args whole) })]

/-- Reads the arguments of a struct's attribute. -/
def ofAttr (a : Attr) : Except (List AttributeError) DataOptions :=
  match a.content.args with
  | .none => .ok default
  | .list _ body _ => readOptions handlers default body
  | .value _ => .error [⟨.form "name-value", a.span, none⟩]

end DataOptions

end AccessorSchema
