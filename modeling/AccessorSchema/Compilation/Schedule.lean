import AccessorSchema.Decl

/-! # The order of compilation

A type comes after its base.  Types are numbered as declared; a base name stands for the last type
declared under it.  A type that is its own ancestor is *cyclic* and does not wait for its base.  Of
all types whose turn may come, the one declared first is next. -/

namespace AccessorSchema

structure Schedule where
  order : List Nat
  cyclic : List Nat
deriving DecidableEq

namespace Schedule

/-- The number of the last declaration of a name. -/
def lastIndex? (names : List Ident) (x : Ident) : Option Nat :=
  (List.range names.length).reverse.find? fun i => names[i]? == some x

/-- The base of each declaration, if it is declared. -/
def parents (ds : List TypeDecl) : List (Option Nat) :=
  let names := ds.map (·.ident)
  ds.map fun d => d.base.bind fun b => lastIndex? names b.value.ident

/-- The base of type `i`. -/
def parent? (parents : List (Option Nat)) (i : Nat) : Option Nat := (parents[i]?).join

/-- The ancestor `k` bases away. -/
def ancestor? (parents : List (Option Nat)) : Nat → Nat → Option Nat
  | 0, i => some i
  | k + 1, i => (parent? parents i).bind (ancestor? parents k)

/-- Going from base to base comes back. -/
def isCyclic (parents : List (Option Nat)) (i : Nat) : Bool :=
  (List.range parents.length).any fun k => ancestor? parents (k + 1) i == some i

/-- The type that `i` has to wait for. -/
def awaited? (parents : List (Option Nat)) (i : Nat) : Option Nat :=
  if isCyclic parents i then none else parent? parents i

def isReady (awaited : List (Option Nat)) (placed : List Nat) (i : Nat) : Bool :=
  !placed.contains i && ((awaited[i]?).join.all placed.contains)

/-- Places `count` more types behind `placed`, each the first one that is ready. -/
def place (awaited : List (Option Nat)) : Nat → List Nat → List Nat
  | 0, placed => placed
  | count + 1, placed =>
    match (List.range awaited.length).find? (isReady awaited placed) with
    | some i => place awaited count (placed ++ [i])
    | none => placed

/-- The schedule for types with the given bases. -/
def ofParents (parents : List (Option Nat)) : Schedule :=
  let indices := List.range parents.length
  { order := place (indices.map (awaited? parents)) parents.length []
    cyclic := indices.filter (isCyclic parents) }

def ofDecls (ds : List TypeDecl) : Schedule := ofParents (parents ds)

end Schedule

end AccessorSchema
