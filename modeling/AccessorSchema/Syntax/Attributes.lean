import AccessorSchema.Syntax.Grammar

/-! # Reading attributes and visibilities

The contents of an attribute are a path, alone, with a group that is kept as it stands, or with a
value.  An attribute that documents what encloses it is an inner one. -/

namespace AccessorSchema.Grammar

open Reader TokenTree

variable (g : Grammar)

/-! ### Attributes -/

/-- The value of an attribute argument: a literal alone keeps its sign. -/
def metaValue : Reader Expr := do
  let lone ← attempt do
    let l ← literal
    unless ← atEnd do
      fail (.leftover none)
    return l
  match lone with
  | some l => return .ofLiteral l
  | none =>
    let ts ← look
    if atMark "#" ts && atGroup .bracket (behind ts) then fail .attributeInAttribute
    else g.expr true

/-- What may stand behind the path of an attribute; a value follows where `atValue` holds. -/
def metaArgs (atValue : List TokenTree → Bool) : Reader MetaArgs := do
  let ts ← look
  if atGroup .paren ts || atGroup .bracket ts || atGroup .brace ts then
    let (d, body, closing) ← anyGroup
    return .list d body closing
  else if atValue ts then
    let _ ← mark "="
    return .value (← located g.metaValue)
  else return .none

/-- The contents of an attribute. -/
def metaItem : Reader Meta := do
  let ts ← look
  let p ← located (if atWord "unsafe" ts then do return .ofIdent (← anyIdent) else modulePath)
  return ⟨p, ← g.metaArgs (atMarkBut "=" ["==", "=>"])⟩

def outerAttr : Reader Attr := do
  let a ← located do
    let _ ← mark "#"
    within .bracket g.metaItem
  return ⟨false, a.value, a.span⟩

def outerAttrs : Reader (List Attr) := many (atMark "#") g.outerAttr

def atInnerAttr (ts : List TokenTree) : Bool := atMark "#" ts && atMark "!" (behind ts)

def innerAttr : Reader Attr := do
  let a ← located do
    let _ ← mark "#"
    let _ ← mark "!"
    within .bracket g.metaItem
  return ⟨true, a.value, a.span⟩

def innerAttrs : Reader (List Attr) := many atInnerAttr g.innerAttr

def outerCode : Reader Code := do
  return (← g.outerAttrs).flatMap Attr.code

def innerCode : Reader Code := do
  return (← g.innerAttrs).flatMap Attr.code

/-- A block that may start with attributes of its own. -/
def attributedBlock : Reader Code := grouped .brace do
  let attrs ← g.innerCode
  return attrs ++ (← g.statements)

/-! ### Visibility -/

/-- Words that restrict a visibility when they stand alone. -/
def restrictionWords : List String := ["crate", "self", "super"]

/-- What stands in the parentheses behind `pub`, if it is a restriction. -/
def restriction : Reader Vis := do
  if ← looksAt (atAnyWord restrictionWords) then
    return .restricted false (.ofIdent (← anyIdent))
  else
    let _ ← word "in"
    return .restricted true (← modulePath)

/-- Parentheses that hold a restriction rather than the beginning of a field's type. -/
def atRestriction : List TokenTree → Bool
  | .group .paren body _ _ :: _ =>
    atWord "in" body || (atAnyWord restrictionWords body && body.length == 1)
  | _ => false

def visibility : Reader Vis := do
  if ← looksAt (atWord "pub") then
    let _ ← word "pub"
    if ← looksAt atRestriction then within .paren restriction else return .everywhere
  else return .inherited

end AccessorSchema.Grammar
