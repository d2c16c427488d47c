import AccessorSchema.Plan.Basic

/-! # Collections

Which storage types are collections, of which shape, and what their elements are.  Arrays, boxed
slices and the collections known by name count; grouping around the type does not matter. -/

namespace AccessorSchema

/-- The type of pairs of two types. -/
def pairOf (key value : Ty) : Ty :=
  .other [.group .paren [.type key, .word ",", .type value]]

/-- The collection a path names by its last segment, with the type of its elements. -/
def Segment.collection? (s : Segment) : Option (Shape × Ty) :=
  let args := s.args.types
  if s.ident.raw then none
  else
    match s.ident.name with
    | "Vec" => args.head?.map (Shape.sequence, ·)
    | "VecDeque" | "LinkedList" => args.head?.map (Shape.linear, ·)
    | "HashSet" | "BTreeSet" => args.head?.map (Shape.set, ·)
    | "HashMap" | "BTreeMap" =>
      match args with
      | key :: value :: _ => some (Shape.keyed, pairOf key value)
      | _ => none
    | "Box" =>
      match args with
      | .slice elem :: _ => some (Shape.sequence, elem)
      | _ => none
    | _ => none

/-- The shape of a collection type and the type of its elements. -/
def Ty.collection? : Ty → Option (Shape × Ty)
  | .group t | .paren t => t.collection?
  | .array elem _ => some (.sequence, elem)
  | .path p => p.last?.bind Segment.collection?
  | _ => none

end AccessorSchema
