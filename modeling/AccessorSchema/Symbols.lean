import AccessorSchema.Syntax.Basic

/-! # Known symbols

A resolver judges whether a path names something usable in a role.  The table of symbols judges by
the names that were registered: by the whole path, generic arguments aside, or for a converter also
by the last name of its path if that is unambiguous. -/

namespace AccessorSchema

/-- A path without its generic arguments. -/
structure PathKey where
  rooted : Bool
  names : List Ident
deriving DecidableEq, Inhabited

def Path.key (p : Path) : PathKey := ⟨p.rooted, p.segments.map (·.ident)⟩

namespace PathKey

def text (k : PathKey) : String :=
  (if k.rooted then "::" else "") ++ "::".intercalate (k.names.map (·.text))

def last? (k : PathKey) : Option Ident := k.names.getLast?

end PathKey

/-- What a path is used as. -/
inductive Role where
  | decoration
  | converter
deriving DecidableEq

def Role.noun : Role → String
  | decoration => "decoration"
  | converter => "converter"

inductive Resolution where
  | resolved
  /-- Nothing of that name is known. -/
  | missing
  /-- The name is known in another role. -/
  | wrongShape
  | ambiguous
deriving DecidableEq

namespace Resolution

def isResolved (r : Resolution) : Bool := r == resolved

def noun : Resolution → String
  | resolved => "resolved"
  | missing => "missing"
  | wrongShape => "wrong_shape"
  | ambiguous => "ambiguous"

end Resolution

abbrev Resolver := Path → Role → Resolution

/-- Registered paths, each once. -/
structure Symbols where
  decorations : List PathKey
  converters : List PathKey
  types : List PathKey

namespace Symbols

def empty : Symbols := ⟨[], [], []⟩

def add (k : PathKey) (known : List PathKey) : List PathKey :=
  if known.contains k then known else known ++ [k]

def addDecoration (s : Symbols) (p : Path) : Symbols :=
  { s with decorations := add p.key s.decorations }

def addConverter (s : Symbols) (p : Path) : Symbols :=
  { s with converters := add p.key s.converters }

def addType (s : Symbols) (p : Path) : Symbols := { s with types := add p.key s.types }

/-- Attributes that are usable everywhere. -/
def builtin : List String :=
  ["allow", "cfg", "cfg_attr", "cold", "deny", "deprecated", "doc", "expect", "forbid", "inline",
   "must_use", "track_caller", "warn"]

def isBuiltin (k : PathKey) : Bool :=
  match k with
  | ⟨false, [x]⟩ => !x.raw && builtin.contains x.name
  | _ => false

/-- `known` ends in the same name as `k`, which must have one. -/
def sameLast (k known : PathKey) : Bool := k.last?.any fun x => known.last? == some x

/-- How many registered paths end like `k`. -/
def endingLike (k : PathKey) (known : List PathKey) : Nat := (known.filter (sameLast k)).length

/-- What to say of a path that is not usable in its role: it is `taken` if one of another role is
meant by it. -/
def unusable (taken : Bool) : Resolution := if taken then .wrongShape else .missing

def decoration (s : Symbols) (k : PathKey) : Resolution :=
  if isBuiltin k || s.decorations.contains k then .resolved
  else unusable ((s.converters ++ s.types).any fun t => t == k || sameLast k t)

def converter (s : Symbols) (k : PathKey) : Resolution :=
  if s.converters.contains k then .resolved
  else
    match endingLike k s.converters with
    | 0 => unusable ((s.types ++ s.decorations).any (sameLast k))
    | 1 => .resolved
    | _ => .ambiguous

def resolve (s : Symbols) : Resolver := fun p role =>
  match role with
  | .decoration => s.decoration p.key
  | .converter => s.converter p.key

end Symbols

end AccessorSchema
