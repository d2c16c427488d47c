import AccessorSchema.Schema.AttributeError
import AccessorSchema.Syntax.Source

/-! # Options of members

The helper attributes of a field decide whether it is a field, a property or plain storage, and
what goes with it.  The options of an attribute are taken one after the other; the first one that
is wrong ends the attribute, and the options before it count.  `Field.errors` are the errors of
all attributes, `Field.member?` is the member of a field without any. -/

namespace AccessorSchema

/-- What the helper attributes of a field say together. -/
structure MemberOptions where
  skip : Bool
  converter : Option (Located Path)
  policy : Option WritePolicy
  setter : Option (Located Vis)
  accessor : List Meta
  storage : List Meta

namespace MemberOptions

def none : MemberOptions := ⟨false, .none, .none, .none, [], []⟩

/-- What one option changes, or what is wrong with it and where. -/
abbrev Change := Except (AttributeFault × Span) (MemberOptions → MemberOptions)

open Reader TokenTree Grammar

/-! ### Single options -/

/-- The name of an option: any identifiers joined by `::`. -/
def optionName : Reader (Located Path) := do
  let rooted := !(← optMark "::").isEmpty
  located do
    let ts ← look
    if !atIdent ts then
      if ts.isEmpty then failExpected ["nested attribute"]
      else if atLiteral ts then fail .literalForName
      else fail .tokenForName
    let first ← anyIdent
    let rest ← many (atMark "::") do
      let _ ← mark "::"
      anyIdent
    return .mk rooted ((first :: rest).map .bare)

/-- A string literal: its value and the word directly behind it. -/
def stringText : Reader (Located (String × String)) :=
  take ["string literal"] fun
    | .literal text s =>
      (Text.stringValue? text).map fun value => ⟨(value, Text.stringSuffix text), s⟩
    | _ => .none

/-- A path behind an equals sign. -/
def converterOption (g : Grammar) : Reader Change := do
  let _ ← mark "="
  let p ← located (g.path false)
  return .ok fun o => { o with converter := some p }

def policyOption : Reader Change := do
  let _ ← mark "="
  let s ← stringText
  match WritePolicy.ofText? s.value.1 with
  | .ok policy => return .ok fun o => { o with policy := some policy }
  | .error e => return .error (.unknownValue e, s.span)

/-- Attribute contents in parentheses. -/
def decorationGroup (g : Grammar) : Reader (List Meta) := do
  return (← within .paren (commaList g.metaItem)).1

def accessorOption (g : Grammar) : Reader Change := do
  let ms ← decorationGroup g
  return .ok fun o => { o with accessor := o.accessor ++ ms }

def storageOption (g : Grammar) : Reader Change := do
  let ms ← decorationGroup g
  return .ok fun o => { o with storage := o.storage ++ ms }

/-- The visibility that a string literal spells; blanks alone are the private one. -/
def setterVis (s : Located (String × String)) : Except SyntaxError (Located Vis) :=
  let (text, suffix) := s.value
  if text.toList.all Lexeme.isSpace then .ok ⟨.inherited, s.span⟩
  else
    match TokenTree.readAt text with
    | .error place => .error ⟨.noTokens, ⟨place, place⟩⟩
    | .ok trees =>
      match visibility.runAt (moveAllTo s.span trees) s.span with
      | .error e => .error e
      | .ok v => if suffix == "" then .ok ⟨v, s.span⟩ else .error ⟨.suffixedString suffix, s.span⟩

/-- A setter with a visibility of its own or with that of the field. -/
def setterOption (vis : Located Vis) : Reader Change := do
  if ← looksAt (atMark "=") then
    let _ ← mark "="
    let s ← stringText
    let v ← (fun c => (setterVis s).map (·, c) : Reader (Located Vis))
    return .ok fun o => { o with setter := some v }
  else return .ok fun o => { o with setter := some vis }

/-! ### Attributes -/

/-- The options of an attribute by name. -/
abbrev Table := List (String × Reader Change)

def dataTable (g : Grammar) : Table :=
  [("skip", pure (.ok fun o => { o with skip := true })), ("accessor", accessorOption g),
   ("converter", converterOption g), ("policy", policyOption)]

def propertyTable (g : Grammar) (vis : Located Vis) : Table :=
  [("setter", setterOption vis), ("storage", storageOption g), ("converter", converterOption g),
   ("policy", policyOption)]

/-- One option of an attribute whose other names are refused with `unknown`. -/
def change (table : Table) (unknown : AttributeFault) : Reader Change := do
  let p ← optionName
  match p.value.ident?.bind fun x => if x.raw then .none else table.lookup x.name with
  | some option => option
  | .none => return .error (unknown, p.span)

/-- Applies the options of an attribute up to the first error.  What is left over in a group counts
once all options are applied. -/
def applyAll (one : Reader Change) (fuel : Nat) (o : MemberOptions) (c : Cursor) :
    MemberOptions × List AttributeError :=
  match fuel with
  | 0 => (o, [])
  | fuel + 1 =>
    if c.trees.isEmpty then (o, c.complaint?.toList.map .ofReading)
    else
      match one c with
      | .error e => (o, [.ofReading e])
      | .ok (.error (fault, span), _) => (o, [⟨fault, span, .none⟩])
      | .ok (.ok f, behind) =>
        match if behind.trees.isEmpty then .ok ([], behind) else mark "," behind with
        | .error e => (f o, [.ofReading e])
        | .ok (_, next) => applyAll one fuel (f o) next

/-- Applies the options in the list of an attribute; every option takes a tree. -/
def applyList (table : Grammar → Table) (unknown : AttributeFault) (body : List TokenTree)
    (closing : Span) (o : MemberOptions) : MemberOptions × List AttributeError :=
  applyAll (change (table (.deepFor body)) unknown) (body.length + 1) o (.start body closing)

def applyData (a : Attr) (o : MemberOptions) : MemberOptions × List AttributeError :=
  match a.content.args with
  | .list _ body closing => applyList dataTable .unknownDataOption body closing o
  | _ => (o, [⟨.dataWithoutList, a.span, .none⟩])

def applyProperty (vis : Located Vis) (a : Attr) (o : MemberOptions) :
    MemberOptions × List AttributeError :=
  match a.content.args with
  | .none => (o, [])
  | .value _ => (o, [⟨.propertyWithValue, a.span, .none⟩])
  | .list _ body closing => applyList (propertyTable · vis) .unknownPropertyOption body closing o

end MemberOptions

namespace Attr

def isData (a : Attr) : Bool := a.isWord "data"

def isProperty (a : Attr) : Bool := a.isWord "property"

/-- Taken by the schema and not left in the module. -/
def isHelper (a : Attr) : Bool := a.isData || a.isProperty

end Attr

/-! ### Fields -/

namespace Field

/-- Attributes applied one after the other; a further property attribute is a repetition. -/
def applyAttrs (vis : Located Vis) (o : MemberOptions) (hasProperty : Bool) :
    List Attr → MemberOptions × List AttributeError
  | [] => (o, [])
  | a :: rest =>
    let (changed, errors) :=
      if a.isData then MemberOptions.applyData a o
      else if a.isProperty then
        let again := if hasProperty then [⟨.repeated "property", a.span, none⟩] else []
        let (changed, errors) := MemberOptions.applyProperty vis a o
        (changed, again ++ errors)
      else (o, [])
    let (final, more) := applyAttrs vis changed (hasProperty || a.isProperty) rest
    (final, errors ++ more)

/-- The last property attribute. -/
def propertyAttr? (f : Field) : Option Attr := (f.attrs.filter (·.isProperty)).getLast?

def options (f : Field) : MemberOptions × List AttributeError :=
  applyAttrs f.vis .none false f.attrs

/-- Attributes that contradict each other. -/
def conflicts (f : Field) : List AttributeError :=
  match f.propertyAttr? with
  | none => []
  | some a =>
    (if f.attrs.any (·.isData) then [⟨.bothSurfaces, a.span, none⟩] else []) ++
      (if f.options.1.skip then [⟨.skippedProperty, f.span, none⟩] else [])

/-- All errors of a field. -/
def errors (f : Field) : List AttributeError := f.options.2 ++ f.conflicts

/-- The member a sound field declares, none if it is left out of the schema. -/
def member? (f : Field) : Option MemberDecl :=
  let o := f.options.1
  if o.skip then none
  else some {
    ident := f.ident
    ty := f.ty
    surface := if f.propertyAttr?.isSome then .property f.vis.value o.setter else .field f.vis.value
    converter := o.converter
    policy := o.policy
    decorations :=
      o.accessor.map (Decoration.mk .accessor) ++ o.storage.map (Decoration.mk .storage)
    attrs := f.attrs.filter (!·.isHelper) }

end Field

end AccessorSchema
