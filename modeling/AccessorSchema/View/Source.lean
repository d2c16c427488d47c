/-! # Collections that can be viewed

A source is a collection as it lies in memory: in one run, in the two runs of a ring buffer, or
in cells that can only be walked.  Its length, its elements by index and its walk are operations
of their own; `elements` is the list they are about. -/

namespace AccessorSchema

/-- The two runs of a ring buffer; the second one starts at the beginning of the memory. -/
structure Ring (α : Type) where
  front : List α
  back : List α

namespace Ring

variable {α : Type}

def ofList (items : List α) : Ring α := ⟨items, []⟩

def elements (r : Ring α) : List α := r.front ++ r.back

def length (r : Ring α) : Nat := r.front.length + r.back.length

def get? (r : Ring α) (i : Nat) : Option α :=
  if i < r.front.length then r.front[i]? else r.back[i - r.front.length]?

def pushBack (x : α) (r : Ring α) : Ring α :=
  if r.back.isEmpty then { r with front := r.front ++ [x] } else { r with back := r.back ++ [x] }

/-- In front of a single run there is no room, so a second run begins. -/
def pushFront (x : α) (r : Ring α) : Ring α :=
  if r.back.isEmpty then ⟨[x], r.front⟩ else { r with front := x :: r.front }

/-- A run that gets empty is given up. -/
def ofRuns (front back : List α) : Ring α :=
  if front.isEmpty then ⟨back, []⟩ else ⟨front, back⟩

def popFront (r : Ring α) : Ring α := ofRuns r.front.tail r.back

def popBack (r : Ring α) : Ring α :=
  if r.back.isEmpty then ⟨r.front.dropLast, []⟩ else { r with back := r.back.dropLast }

end Ring

inductive ViewSource (α : Type) where
  /-- All elements side by side: a vector, an array, a boxed slice. -/
  | run (items : List α)
  | ring (r : Ring α)
  /-- Elements in cells of their own: a linked list or a set, in the order of its walk. -/
  | cells (items : List α)

namespace ViewSource

variable {α : Type}

/-- The elements in the order of the walk. -/
def elements : ViewSource α → List α
  | run items => items
  | ring r => r.elements
  | cells items => items

def length : ViewSource α → Nat
  | run items => items.length
  | ring r => r.length
  | cells items => items.length

/-- The element after `i` steps of the walk. -/
def walkTo : List α → Nat → Option α
  | [], _ => none
  | x :: _, 0 => some x
  | _ :: rest, i + 1 => walkTo rest i

def get? : ViewSource α → Nat → Option α
  | run items, i => items[i]?
  | ring r, i => r.get? i
  | cells items, i => walkTo items i

/-- The elements side by side, if they lie so. -/
def slice? : ViewSource α → Option (List α)
  | run items => some items
  | ring r => if r.back.isEmpty then some r.front else none
  | cells _ => none

/-! ### Sets -/

/-- Puts an element where it belongs, unless it is there. -/
def insertSorted (before : α → α → Bool) (x : α) : List α → List α
  | [] => [x]
  | y :: rest =>
    if before x y then x :: y :: rest
    else if before y x then y :: insertSorted before x rest
    else y :: rest

/-- The set of some elements, walked in ascending order. -/
def ordered (before : α → α → Bool) (items : List α) : ViewSource α :=
  cells (items.foldl (fun s x => insertSorted before x s) [])

/-- The set of some elements, walked in the order `layout` puts them. -/
def hashed [BEq α] (layout : List α → List α) (items : List α) : ViewSource α :=
  cells (layout items.eraseDups)

end ViewSource

end AccessorSchema
