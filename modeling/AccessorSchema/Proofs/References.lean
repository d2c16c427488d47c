import AccessorSchema.Compilation.Run
import AccessorSchema.Example.Small
import AccessorSchema.Proofs.Mentions
import Mathlib.Data.List.Forall2

/-! # What types refer to

A type refers to a name where this is a type of its own, and where it stands in front of a longer path, as
the parameter does in `T::Item`; a converter refers to the name it begins with.  A substitution fills the
places of the first sort with what the arguments refer to, and leaves the others as they are
(`Ty.refs_subst`).  So what a type inherits is rid of the parameters of its base, outside of the arguments
for them, exactly where the base does not put a parameter in front (`DataType.refs_inherit`). -/

namespace AccessorSchema

/-- A place where a name is referred to. -/
inductive Reference where
  /-- A type that is nothing but the name. -/
  | alone (x : Ident)
  /-- A path that goes on behind the name, or a converter that begins with it. -/
  | front (x : Ident)
deriving DecidableEq

def Reference.name : Reference → Ident
  | alone x | front x => x

/-- A `::` by itself, as behind the self type of a qualified path. -/
def Piece.isSeparator : Piece → Bool
  | .atom "::" _ => true
  | _ => false

/-- The name that a path begins with, unless a `::` is in front of it. -/
def Path.front : Path → List Reference
  | mk false (.mk x _ :: _) => [.front x]
  | _ => []

mutual

def Ty.refs : Ty → List Reference
  | .path p => p.ident?.elim (p.front ++ p.refs) ([.alone ·])
  | .group t | .paren t | .slice t => t.refs
  | .array t n => t.refs ++ Code.refs n false
  | .other code => Code.refs code false

/-- References in the arguments of a path. -/
def Path.refs : Path → List Reference
  | .mk _ segments => Segment.refsAll segments

def Segment.refs : Segment → List Reference
  | .mk _ args => args.refs

def Segment.refsAll : List Segment → List Reference
  | [] => []
  | a :: rest => a.refs ++ Segment.refsAll rest

def Args.refs : Args → List Reference
  | .none => []
  | .angle _ args _ => Arg.refsAll args
  | .call code => Code.refs code false

def Arg.refs : Arg → List Reference
  | .lifetime _ => []
  | .type t => t.refs
  | .other code => Code.refs code false

def Arg.refsAll : List Arg → List Reference
  | [] => []
  | a :: rest => a.refs ++ Arg.refsAll rest

/-- A path among tokens is no type, so a single name there is no reference; nor are the names that go on
with a qualified path, which come behind a separator. -/
def Piece.refs : Piece → Bool → List Reference
  | .atom _ _, _ => []
  | .group _ body, _ => Code.refs body false
  | .type t, _ => t.refs
  | .path p, behind => (if behind || p.segments.length ≤ 1 then [] else p.front) ++ p.refs

def Code.refs : List Piece → Bool → List Reference
  | [], _ => []
  | p :: rest, behind => p.refs behind ++ Code.refs rest p.isSeparator

end

def Kind.refs : Kind → List Reference
  | .scalar => []
  | .converted c => c.front ++ c.refs
  | .view element _ => element.refs

/-- References in the type of a plan, in what it hands out and in its converter. -/
def FieldPlan.refs (p : FieldPlan) : List Reference := p.ty.value.refs ++ p.kind.refs

/-! ### Substitutions -/

namespace Reference

variable (s : Substitution)

/-- A substitution puts an argument in the place of the reference. -/
def isFilled : Reference → Bool
  | alone x => (s.lookup x).isSome
  | front _ => false

/-- The references that come of one: those of the argument put in its place, or itself. -/
def filled : Reference → List Reference
  | alone x => ((s.lookup x).map (·.refs)).getD [alone x]
  | front x => [front x]

theorem filled_alone (x : Ident) : filled s (alone x) = (s.apply x).refs := by
  rw [filled, Substitution.apply]
  cases s.lookup x with
  | none => rfl
  | some t => rfl

theorem isFilled_alone_of_mem {x : Ident} (h : x ∈ s.map (·.1)) : isFilled s (alone x) = true := by
  have hsome : s.lookup x ≠ none := by
    rw [Ne, List.lookup_eq_none_iff]
    intro hnone
    obtain ⟨e, he, hx⟩ := List.mem_map.mp h
    simpa [hx] using hnone e he
  exact Option.isSome_iff_ne_none.mpr hsome

end Reference

variable (s : Substitution)

@[simp] theorem Piece.isSeparator_subst (p : Piece) : (p.subst s).isSeparator = p.isSeparator := by
  cases p <;> rfl

theorem Path.front_subst (p : Path) : (p.subst s).front = p.front := by
  obtain ⟨rooted, segments⟩ := p
  rcases segments with _ | ⟨⟨x, args⟩, rest⟩
  · rfl
  · cases rooted <;> rfl

theorem Path.flatMap_front (p : Path) : p.front.flatMap (·.filled s) = p.front := by
  unfold front
  split
  · rfl
  · rfl

mutual

/-- A type refers to the same names afterwards, one by one, but for those that are filled. -/
theorem Ty.refs_subst : ∀ t : Ty, (t.subst s).refs = t.refs.flatMap (·.filled s)
  | .path p => by
      cases h : p.ident? with
      | some x =>
          obtain rfl := Path.eq_ofIdent h
          rw [← Ty.ofIdent, Ty.subst_ofIdent, ← Reference.filled_alone]
          simp [Ty.ofIdent, Ty.refs, h]
      | none =>
          rw [Ty.subst_path s h]
          simp [Ty.refs, h, (Path.ident?_subst s p).trans h, Path.front_subst, Path.flatMap_front,
            p.refs_subst]
  | .group t => by simp [Ty.subst, Ty.refs, t.refs_subst]
  | .paren t => by simp [Ty.subst, Ty.refs, t.refs_subst]
  | .slice t => by simp [Ty.subst, Ty.refs, t.refs_subst]
  | .array t n => by simp [Ty.subst, Ty.refs, t.refs_subst, Code.refs_subst n]
  | .other code => by simp [Ty.subst, Ty.refs, Code.refs_subst code]

theorem Path.refs_subst : ∀ p : Path, (p.subst s).refs = p.refs.flatMap (·.filled s)
  | .mk _ segments => by simp [Path.subst, Path.refs, Segment.refsAll_substAll segments]

theorem Segment.refs_subst : ∀ a : Segment, (a.subst s).refs = a.refs.flatMap (·.filled s)
  | .mk _ args => by simp [Segment.subst, Segment.refs, args.refs_subst]

theorem Segment.refsAll_substAll : ∀ as : List Segment,
    Segment.refsAll (Segment.substAll s as) = (Segment.refsAll as).flatMap (·.filled s)
  | [] => rfl
  | a :: rest => by
      simp [Segment.substAll, Segment.refsAll, a.refs_subst, Segment.refsAll_substAll rest]

theorem Args.refs_subst : ∀ a : Args, (a.subst s).refs = a.refs.flatMap (·.filled s)
  | .none => rfl
  | .angle _ args _ => by simp [Args.subst, Args.refs, Arg.refsAll_substAll args]
  | .call code => by simp [Args.subst, Args.refs, Code.refs_subst code]

theorem Arg.refs_subst : ∀ a : Arg, (a.subst s).refs = a.refs.flatMap (·.filled s)
  | .lifetime _ => rfl
  | .type t => by simp [Arg.subst, Arg.refs, t.refs_subst]
  | .other code => by simp [Arg.subst, Arg.refs, Code.refs_subst code]

theorem Arg.refsAll_substAll : ∀ as : List Arg,
    Arg.refsAll (Arg.substAll s as) = (Arg.refsAll as).flatMap (·.filled s)
  | [] => rfl
  | a :: rest => by simp [Arg.substAll, Arg.refsAll, a.refs_subst, Arg.refsAll_substAll rest]

theorem Piece.refs_subst : ∀ (p : Piece) (behind : Bool),
    (p.subst s).refs behind = (p.refs behind).flatMap (·.filled s)
  | .atom _ _, _ => rfl
  | .group _ body, _ => by simp [Piece.subst, Piece.refs, Code.refs_subst body]
  | .type t, _ => by simp [Piece.subst, Piece.refs, t.refs_subst]
  | .path p, behind => by
      rw [Piece.subst, Piece.refs, Piece.refs, p.refs_subst, Path.front_subst,
        Path.segments_subst, List.length_map, List.flatMap_append]
      split
      · rfl
      · rw [Path.flatMap_front]

theorem Code.refs_subst : ∀ (code : List Piece) (behind : Bool),
    Code.refs (Code.subst s code) behind = (Code.refs code behind).flatMap (·.filled s)
  | [], _ => rfl
  | p :: rest, behind => by
      simp [Code.subst, Code.refs, p.refs_subst, Code.refs_subst rest]

end

theorem Kind.refs_subst (k : Kind) : (k.subst s).refs = k.refs.flatMap (·.filled s) := by
  cases k with
  | scalar => rfl
  | converted c =>
      show (c.subst s).front ++ (c.subst s).refs = (c.front ++ c.refs).flatMap _
      rw [Path.front_subst, Path.refs_subst, List.flatMap_append, Path.flatMap_front]
  | view element shape => exact element.refs_subst s

theorem FieldPlan.refs_subst (p : FieldPlan) : (p.subst s).refs = p.refs.flatMap (·.filled s) := by
  show (p.ty.value.subst s).refs ++ (p.kind.subst s).refs = _
  rw [Ty.refs_subst, Kind.refs_subst, refs, List.flatMap_append]

/-! ### Inherited plans -/

namespace DataType

open Reference

theorem keys_arguments {base : DataType} {ref : BaseRef}
    (h : base.generics.typeParams.length = ref.args.length) :
    (base.arguments ref).map (·.1) = base.generics.typeParams :=
  List.map_fst_zip (Nat.le_of_eq h)

/-- A plan refers after it was handed to an heir to what it did before, with the arguments of the heir in
the place of parameters that are types of their own.  Outside the arguments no parameter is left, if and
only if the plan has none in front of a longer path or of its converter. -/
theorem refs_inherit (base : DataType) (ref : BaseRef) (mode : Mode)
    (h : base.generics.typeParams.length = ref.args.length) :
    List.Forall₂ (fun p q => q.refs = p.refs.flatMap (filled (base.arguments ref)) ∧
        ((∀ r ∈ p.refs, isFilled (base.arguments ref) r = false → r.name ∉ base.generics.typeParams) ↔
          ∀ x ∈ base.generics.typeParams, front x ∉ p.refs))
      base.plans (base.inherit ref mode) := by
  rw [inherit, List.forall₂_map_right_iff, List.forall₂_same]
  intro p _
  refine ⟨p.refs_subst _, ?_, ?_⟩
  · intro hleft x hx hr
    exact hleft _ hr rfl hx
  · intro hfront r hr hfilled hx
    cases r with
    | front x => exact hfront x hx hr
    | alone x =>
        rw [isFilled_alone_of_mem] at hfilled
        · cases hfilled
        · rw [keys_arguments h]
          exact hx

section
open Example

theorem refs_inherit_ledger :
    ∃ base ∈ (Run.ofDecls (fun _ _ => .resolved) [ledger]).types,
      ∃ ref : BaseRef, ref.args = [plainType "V", applied "Vec" [plainType "K"]] ∧
        base.generics.typeParams.length = ref.args.length ∧
        List.Forall₂ (fun p q => q.refs = p.refs.flatMap (filled (base.arguments ref)) ∧
            ((∀ r ∈ p.refs, isFilled (base.arguments ref) r = false →
                r.name ∉ base.generics.typeParams) ↔
              ∀ x ∈ base.generics.typeParams, front x ∉ p.refs))
          base.plans (base.inherit ref .immutable) := by
  have hbase : ∃ base ∈ (Run.ofDecls (fun _ _ => .resolved) [ledger]).types,
      base.generics.typeParams.length = 2 := by
    decide +kernel
  obtain ⟨base, hbase, harity⟩ := hbase
  exact ⟨base, hbase, ⟨ledger.ident, _⟩, rfl, harity, refs_inherit base _ .immutable harity⟩

/-- A stream inherits the item of a source with the parameter of the source still in it. -/
theorem exists_parameter_left :
    let r := Run.ofDecls (fun _ _ => .resolved) [source, stream]
    let ref : BaseRef := ⟨source.ident, [plainType "Feed"]⟩
    r.diagnostics = [] ∧ ∃ base ∈ r.types, ∃ t ∈ r.types, base.ident = ref.ident ∧ t.base = some ref ∧
      base.generics.typeParams.length = ref.args.length ∧
      ∃ q ∈ base.inherit ref t.mode, ∃ e ∈ q.refs, e.name ∈ base.generics.typeParams ∧
        ∀ a ∈ ref.args, e ∉ a.refs := by
  decide +kernel

end

end DataType

end AccessorSchema
