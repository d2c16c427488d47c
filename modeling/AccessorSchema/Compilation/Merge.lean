import AccessorSchema.Decl
import AccessorSchema.Diagnostic.Basic

/-! # Merging fragments

The fragments of a type become one declaration.  They are taken in the order of their keys, equal
keys in the order of arrival: members follow each other, one mutable fragment makes the type
mutable, the first base named is the base, and the first fragment's parameters are the type's.
Merged types come in the order in which their first fragments arrived. -/

namespace AccessorSchema.TypeDecl

/-- Puts a fragment to the others of its type, or behind all groups if it is the first. -/
def insertInto (d : TypeDecl) : List (List TypeDecl) → List (List TypeDecl)
  | [] => [[d]]
  | group :: rest =>
    if group.head?.any (·.ident == d.ident) then (group ++ [d]) :: rest
    else group :: insertInto d rest

/-- The fragments of each type, in the order of arrival. -/
def groups (ds : List TypeDecl) : List (List TypeDecl) := ds.foldl (fun gs d => d.insertInto gs) []

def byKey (fragments : List TypeDecl) : List TypeDecl :=
  fragments.mergeSort fun a b => a.fragment ≤ b.fragment

/-- The declaration extended by a further fragment. -/
def absorb (d f : TypeDecl) : TypeDecl :=
  { d with
    base := d.base.or f.base
    mode := if f.mode.isMutable then .mutable else d.mode
    members := d.members ++ f.members }

/-- The complaint about a fragment that names another base. -/
def conflict? (d f : TypeDecl) : Option Diagnostic :=
  match d.base, f.base with
  | some first, some other =>
    if first.value == other.value then none
    else some ⟨.conflictingBase, d.ident.text,
      [d.ident.text, first.value.display, other.value.display], other.span⟩
  | _, _ => none

/-- Extends a declaration by fragments one after the other. -/
def absorbAll (d : TypeDecl) : List TypeDecl → TypeDecl × List Diagnostic
  | [] => (d, [])
  | f :: rest =>
    let (merged, reports) := absorbAll (d.absorb f) rest
    (merged, (d.conflict? f).toList ++ reports)

def mergeGroup (fragments : List TypeDecl) : Option (TypeDecl × List Diagnostic) :=
  match byKey fragments with
  | [] => none
  | first :: later => some (first.absorbAll later)

/-- One declaration for each type, and what is wrong with the fragments. -/
def merge (ds : List TypeDecl) : List TypeDecl × List Diagnostic :=
  let merged := (groups ds).filterMap mergeGroup
  (merged.map (·.1), merged.flatMap (·.2))

end AccessorSchema.TypeDecl
