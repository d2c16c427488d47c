import AccessorSchema.Syntax.Basic

/-! # Equality of types

Two types are the same when they are written with the same tokens in the same grouping.  The test is
structural, and `Ty.beq_iff` says that it decides equality. -/

namespace AccessorSchema

mutual

def Ty.beq : Ty → Ty → Bool
  | .path p, .path q => Path.beq p q
  | .group a, .group b => Ty.beq a b
  | .paren a, .paren b => Ty.beq a b
  | .array a m, .array b n => Ty.beq a b && Code.beq m n
  | .slice a, .slice b => Ty.beq a b
  | .other a, .other b => Code.beq a b
  | _, _ => false

def Path.beq : Path → Path → Bool
  | .mk r s, .mk r' s' => r == r' && Segment.listBeq s s'

def Segment.beq : Segment → Segment → Bool
  | .mk x a, .mk y b => x == y && Args.beq a b

def Segment.listBeq : List Segment → List Segment → Bool
  | [], [] => true
  | a :: as, b :: bs => Segment.beq a b && Segment.listBeq as bs
  | _, _ => false

def Args.beq : Args → Args → Bool
  | .none, .none => true
  | .angle t as c, .angle t' bs c' => t == t' && c == c' && Arg.listBeq as bs
  | .call a, .call b => Code.beq a b
  | _, _ => false

def Arg.beq : Arg → Arg → Bool
  | .lifetime a, .lifetime b => a == b
  | .type a, .type b => Ty.beq a b
  | .other a, .other b => Code.beq a b
  | _, _ => false

def Arg.listBeq : List Arg → List Arg → Bool
  | [], [] => true
  | a :: as, b :: bs => Arg.beq a b && Arg.listBeq as bs
  | _, _ => false

def Piece.beq : Piece → Piece → Bool
  | .atom s j, .atom s' j' => s == s' && j == j'
  | .group d a, .group d' b => d == d' && Code.beq a b
  | .type a, .type b => Ty.beq a b
  | .path p, .path q => Path.beq p q
  | _, _ => false

def Code.beq : List Piece → List Piece → Bool
  | [], [] => true
  | a :: as, b :: bs => Piece.beq a b && Code.beq as bs
  | _, _ => false

end

mutual

theorem Ty.beq_iff : ∀ a b : Ty, Ty.beq a b = true ↔ a = b
  | .path p, b => by cases b <;> simp [Ty.beq, Path.beq_iff p]
  | .group a, b => by cases b <;> simp [Ty.beq, Ty.beq_iff a]
  | .paren a, b => by cases b <;> simp [Ty.beq, Ty.beq_iff a]
  | .array a n, b => by cases b <;> simp [Ty.beq, Ty.beq_iff a, Code.beq_iff n]
  | .slice a, b => by cases b <;> simp [Ty.beq, Ty.beq_iff a]
  | .other a, b => by cases b <;> simp [Ty.beq, Code.beq_iff a]

theorem Path.beq_iff : ∀ a b : Path, Path.beq a b = true ↔ a = b
  | .mk r s, .mk r' s' => by simp [Path.beq, Segment.listBeq_iff s]

theorem Segment.beq_iff : ∀ a b : Segment, Segment.beq a b = true ↔ a = b
  | .mk x a, .mk y b => by simp [Segment.beq, Args.beq_iff a]

theorem Segment.listBeq_iff : ∀ a b : List Segment, Segment.listBeq a b = true ↔ a = b
  | [], b => by cases b <;> simp [Segment.listBeq]
  | a :: as, b => by cases b <;> simp [Segment.listBeq, Segment.beq_iff a, Segment.listBeq_iff as]

theorem Args.beq_iff : ∀ a b : Args, Args.beq a b = true ↔ a = b
  | .none, b => by cases b <;> simp [Args.beq]
  | .angle t as c, b => by
    cases b <;> simp [Args.beq, Arg.listBeq_iff as, and_assoc, and_comm]
  | .call a, b => by cases b <;> simp [Args.beq, Code.beq_iff a]

theorem Arg.beq_iff : ∀ a b : Arg, Arg.beq a b = true ↔ a = b
  | .lifetime a, b => by cases b <;> simp [Arg.beq]
  | .type a, b => by cases b <;> simp [Arg.beq, Ty.beq_iff a]
  | .other a, b => by cases b <;> simp [Arg.beq, Code.beq_iff a]

theorem Arg.listBeq_iff : ∀ a b : List Arg, Arg.listBeq a b = true ↔ a = b
  | [], b => by cases b <;> simp [Arg.listBeq]
  | a :: as, b => by cases b <;> simp [Arg.listBeq, Arg.beq_iff a, Arg.listBeq_iff as]

theorem Piece.beq_iff : ∀ a b : Piece, Piece.beq a b = true ↔ a = b
  | .atom s j, b => by cases b <;> simp [Piece.beq]
  | .group d a, b => by cases b <;> simp [Piece.beq, Code.beq_iff a]
  | .type a, b => by cases b <;> simp [Piece.beq, Ty.beq_iff a]
  | .path p, b => by cases b <;> simp [Piece.beq, Path.beq_iff p]

theorem Code.beq_iff : ∀ a b : List Piece, Code.beq a b = true ↔ a = b
  | [], b => by cases b <;> simp [Code.beq]
  | a :: as, b => by cases b <;> simp [Code.beq, Piece.beq_iff a, Code.beq_iff as]

end

instance : DecidableEq Ty := fun a b => decidable_of_iff _ (Ty.beq_iff a b)

instance : DecidableEq Path := fun a b => decidable_of_iff _ (Path.beq_iff a b)

instance : DecidableEq Arg := fun a b => decidable_of_iff _ (Arg.beq_iff a b)

instance : DecidableEq Piece := fun a b => decidable_of_iff _ (Piece.beq_iff a b)

end AccessorSchema
