import AccessorSchema.Accessor.Basic

/-! # What accessors do

An object is a store of values, one for each backing field.  A getter turns the value of its field
into a result as its action says, a setter puts another value into its field.  What conversion and
viewing are is left to a `Meaning`. -/

namespace AccessorSchema

/-- The values of the backing fields of an object. -/
abbrev Store (α : Type) := Ident → α

namespace Store

variable {α : Type}

def set (s : Store α) (x : Ident) (v : α) : Store α := fun y => if y == x then v else s y

end Store

/-- How stored values of type `α` become results of type `β`. -/
structure Meaning (α β : Type) where
  value : α → β
  /-- The result of a converter on a value of a type. -/
  convert : Path → Ty → α → β
  /-- The view of a stored collection. -/
  view : α → β

namespace Accessor

variable {α β : Type}

/-- The result of a getter; a setter has none. -/
def read? (m : Meaning α β) (a : Accessor) (s : Store α) : Option β :=
  match a.action with
  | .read _ => some (m.value (s a.backing))
  | .convert raw converter => some (m.convert converter raw (s a.backing))
  | .view _ => some (m.view (s a.backing))
  | .write _ => none

/-- The store after a setter; a getter changes nothing. -/
def write (a : Accessor) (v : α) (s : Store α) : Store α :=
  if a.isSetter then s.set a.backing v else s

end Accessor

end AccessorSchema
