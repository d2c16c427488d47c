import AccessorSchema.Compilation.Substitution
import Mathlib.Data.List.Basic

/-! # Names that a type mentions

A type mentions the names that stand in it as types of their own, and these are all that a
substitution replaces.  So two substitutions do the same to a type exactly when they give the same for
each name it mentions (`Ty.subst_eq_iff`).  Substituting twice is substituting once by the composition
(`Ty.subst_subst`).  The same holds of paths and kinds, and plans follow their
types. -/

namespace AccessorSchema

mutual

def Ty.mentions : Ty → List Ident
  | .path p => p.ident?.elim p.mentions ([·])
  | .group t | .paren t | .slice t => t.mentions
  | .array t n => t.mentions ++ Code.mentions n
  | .other code => Code.mentions code

/-- Names in the arguments of a path; the path itself is no type. -/
def Path.mentions : Path → List Ident
  | .mk _ segments => Segment.mentionsAll segments

def Segment.mentions : Segment → List Ident
  | .mk _ args => args.mentions

def Segment.mentionsAll : List Segment → List Ident
  | [] => []
  | a :: rest => a.mentions ++ Segment.mentionsAll rest

def Args.mentions : Args → List Ident
  | .none => []
  | .angle _ args _ => Arg.mentionsAll args
  | .call code => Code.mentions code

def Arg.mentions : Arg → List Ident
  | .lifetime _ => []
  | .type t => t.mentions
  | .other code => Code.mentions code

def Arg.mentionsAll : List Arg → List Ident
  | [] => []
  | a :: rest => a.mentions ++ Arg.mentionsAll rest

def Piece.mentions : Piece → List Ident
  | .atom _ _ => []
  | .group _ body => Code.mentions body
  | .type t => t.mentions
  | .path p => p.mentions

def Code.mentions : List Piece → List Ident
  | [] => []
  | p :: rest => p.mentions ++ Code.mentions rest

end

def Kind.mentions : Kind → List Ident
  | .scalar => []
  | .converted c => c.mentions
  | .view element _ => element.mentions

/-- Names in the type of a plan, in what it hands out and in the arguments of its converter. -/
def FieldPlan.mentions (p : FieldPlan) : List Ident := p.ty.value.mentions ++ p.kind.mentions

/-- The type that is nothing but a name. -/
def Ty.ofIdent (x : Ident) : Ty := .path (.ofIdent x)

namespace Substitution

/-- What becomes of a name that stands alone. -/
def apply (s : Substitution) (x : Ident) : Ty := (s.lookup x).getD (.ofIdent x)

/-- First one substitution, then the other on what it gives. -/
def andThen (s s' : Substitution) : Substitution := s.map (fun e => (e.1, e.2.subst s')) ++ s'

variable {s s' : Substitution} {x : Ident}

theorem apply_of_notMem (h : x ∉ s.map (·.1)) : s.apply x = .ofIdent x := by
  have hnone : s.lookup x = none := by
    rw [List.lookup_eq_none_iff]
    intro e he
    exact bne_iff_ne.mpr fun hx => h (hx ▸ List.mem_map_of_mem he)
  rw [apply, hnone, Option.getD_none]

theorem apply_cons_self (s : Substitution) (x : Ident) (t : Ty) : apply ((x, t) :: s) x = t := by
  simp [apply]

theorem apply_cons_of_ne (s : Substitution) {x y : Ident} (t : Ty) (h : x ≠ y) :
    apply ((y, t) :: s) x = s.apply x := by
  simp [apply, List.lookup_cons, beq_eq_false_iff_ne.mpr h]

theorem exists_of_mem {s : Substitution} {x : Ident} (h : x ∈ s.map (·.1)) :
    ∃ e ∈ s, s.apply x = e.2 := by
  induction s with
  | nil => cases h
  | cons e s ih =>
      obtain ⟨y, t⟩ := e
      by_cases hx : x = y
      · subst hx
        exact ⟨(x, t), List.mem_cons_self, apply_cons_self s x t⟩
      · obtain ⟨e, he, happly⟩ := ih ((List.mem_cons.mp h).resolve_left hx)
        exact ⟨e, List.mem_cons_of_mem _ he, (apply_cons_of_ne s t hx).trans happly⟩

theorem apply_map_of_mem {s s' : Substitution} {x : Ident} (h : x ∈ s.map (·.1)) :
    apply (s.map fun e => (e.1, e.2.subst s')) x = (s.apply x).subst s' := by
  induction s with
  | nil => cases h
  | cons e s ih =>
      obtain ⟨y, t⟩ := e
      rw [List.map_cons]
      by_cases hx : x = y
      · subst hx
        rw [apply_cons_self, apply_cons_self]
      · rw [apply_cons_of_ne _ _ hx, apply_cons_of_ne s t hx]
        exact ih ((List.mem_cons.mp h).resolve_left hx)

end Substitution

/-! ### Names by themselves -/

variable (s s' : Substitution)

theorem Path.eq_ofIdent {p : Path} {x : Ident} (h : p.ident? = some x) : p = .ofIdent x := by
  unfold ident? at h
  split at h
  · cases h
    rfl
  · cases h

theorem Path.ident?_subst (p : Path) : (p.subst s).ident? = p.ident? := by
  obtain ⟨rooted, segments⟩ := p
  rcases segments with _ | ⟨⟨x, args⟩, _ | ⟨b, rest⟩⟩
  · rfl
  all_goals cases args <;> cases rooted <;> rfl

theorem Path.segments_subst (p : Path) : (p.subst s).segments = p.segments.map (·.subst s) := by
  obtain ⟨rooted, segments⟩ := p
  show Segment.substAll s segments = segments.map (·.subst s)
  induction segments with
  | nil => rfl
  | cons a rest ih => rw [Segment.substAll, ih, List.map_cons]

@[simp] theorem Ty.subst_ofIdent (x : Ident) : (Ty.ofIdent x).subst s = s.apply x := by
  have hident : (Path.ofIdent x).ident? = some x := rfl
  rw [ofIdent, Ty.subst, hident, Option.bind_some, Substitution.apply]
  cases s.lookup x with
  | none => rfl
  | some t => rfl

/-- A path with arguments, or of several segments, stays a path. -/
theorem Ty.subst_path {p : Path} (h : p.ident? = none) : (Ty.path p).subst s = .path (p.subst s) := by
  simp [Ty.subst, h]

theorem Ty.mentions_path {p : Path} (h : p.ident? = none) : (Ty.path p).mentions = p.mentions := by
  simp [Ty.mentions, h]

/-! ### Substitutions that agree -/

mutual

/-- Two substitutions do the same to a type when they do to every name it mentions, and only then. -/
theorem Ty.subst_eq_iff : ∀ t : Ty, t.subst s = t.subst s' ↔ ∀ x ∈ t.mentions, s.apply x = s'.apply x
  | .path p => by
      cases h : p.ident? with
      | some x =>
          obtain rfl := Path.eq_ofIdent h
          rw [← Ty.ofIdent, Ty.subst_ofIdent, Ty.subst_ofIdent]
          simp [Ty.ofIdent, Ty.mentions, h]
      | none =>
          rw [Ty.subst_path s h, Ty.subst_path s' h, Ty.mentions_path h, Ty.path.injEq]
          exact p.subst_eq_iff
  | .group t => by simp [Ty.subst, Ty.mentions, t.subst_eq_iff]
  | .paren t => by simp [Ty.subst, Ty.mentions, t.subst_eq_iff]
  | .slice t => by simp [Ty.subst, Ty.mentions, t.subst_eq_iff]
  | .array t n => by simp [Ty.subst, Ty.mentions, t.subst_eq_iff, Code.subst_eq_iff n, or_imp, forall_and]
  | .other code => by simp [Ty.subst, Ty.mentions, Code.subst_eq_iff code]

theorem Path.subst_eq_iff : ∀ p : Path,
    p.subst s = p.subst s' ↔ ∀ x ∈ p.mentions, s.apply x = s'.apply x
  | .mk _ segments => by simp [Path.subst, Path.mentions, Segment.substAll_eq_iff segments]

theorem Segment.subst_eq_iff : ∀ a : Segment,
    a.subst s = a.subst s' ↔ ∀ x ∈ a.mentions, s.apply x = s'.apply x
  | .mk _ args => by simp [Segment.subst, Segment.mentions, args.subst_eq_iff]

theorem Segment.substAll_eq_iff : ∀ as : List Segment,
    Segment.substAll s as = Segment.substAll s' as ↔
      ∀ x ∈ Segment.mentionsAll as, s.apply x = s'.apply x
  | [] => by simp [Segment.substAll, Segment.mentionsAll]
  | a :: rest => by
      simp [Segment.substAll, Segment.mentionsAll, a.subst_eq_iff, Segment.substAll_eq_iff rest, or_imp,
        forall_and]

theorem Args.subst_eq_iff : ∀ a : Args,
    a.subst s = a.subst s' ↔ ∀ x ∈ a.mentions, s.apply x = s'.apply x
  | .none => by simp [Args.subst, Args.mentions]
  | .angle _ args _ => by simp [Args.subst, Args.mentions, Arg.substAll_eq_iff args]
  | .call code => by simp [Args.subst, Args.mentions, Code.subst_eq_iff code]

theorem Arg.subst_eq_iff : ∀ a : Arg,
    a.subst s = a.subst s' ↔ ∀ x ∈ a.mentions, s.apply x = s'.apply x
  | .lifetime _ => by simp [Arg.subst, Arg.mentions]
  | .type t => by simp [Arg.subst, Arg.mentions, t.subst_eq_iff]
  | .other code => by simp [Arg.subst, Arg.mentions, Code.subst_eq_iff code]

theorem Arg.substAll_eq_iff : ∀ as : List Arg,
    Arg.substAll s as = Arg.substAll s' as ↔ ∀ x ∈ Arg.mentionsAll as, s.apply x = s'.apply x
  | [] => by simp [Arg.substAll, Arg.mentionsAll]
  | a :: rest => by
      simp [Arg.substAll, Arg.mentionsAll, a.subst_eq_iff, Arg.substAll_eq_iff rest, or_imp, forall_and]

theorem Piece.subst_eq_iff : ∀ p : Piece,
    p.subst s = p.subst s' ↔ ∀ x ∈ p.mentions, s.apply x = s'.apply x
  | .atom _ _ => by simp [Piece.subst, Piece.mentions]
  | .group _ body => by simp [Piece.subst, Piece.mentions, Code.subst_eq_iff body]
  | .type t => by simp [Piece.subst, Piece.mentions, t.subst_eq_iff]
  | .path p => by simp [Piece.subst, Piece.mentions, p.subst_eq_iff]

theorem Code.subst_eq_iff : ∀ code : List Piece,
    Code.subst s code = Code.subst s' code ↔ ∀ x ∈ Code.mentions code, s.apply x = s'.apply x
  | [] => by simp [Code.subst, Code.mentions]
  | p :: rest => by
      simp [Code.subst, Code.mentions, p.subst_eq_iff, Code.subst_eq_iff rest, or_imp, forall_and]

end

/-! ### One substitution after the other -/

theorem Substitution.apply_andThen (x : Ident) : (s.andThen s').apply x = (s.apply x).subst s' := by
  unfold andThen apply
  rw [List.lookup_append]
  induction s with
  | nil => simp [Substitution.apply]
  | cons e s ih =>
      obtain ⟨y, t⟩ := e
      by_cases h : x = y
      · simp [h]
      · have hxy : (x == y) = false := beq_eq_false_iff_ne.mpr h
        simpa [List.lookup_cons, hxy] using ih

mutual

theorem Ty.subst_subst : ∀ t : Ty, (t.subst s).subst s' = t.subst (s.andThen s')
  | .path p => by
      cases h : p.ident? with
      | some x =>
          obtain rfl := Path.eq_ofIdent h
          rw [← Ty.ofIdent, Ty.subst_ofIdent, Ty.subst_ofIdent, Substitution.apply_andThen]
      | none =>
          rw [Ty.subst_path s h, Ty.subst_path s' ((Path.ident?_subst s p).trans h), Ty.subst_path _ h,
            p.subst_subst]
  | .group t => by simp [Ty.subst, t.subst_subst]
  | .paren t => by simp [Ty.subst, t.subst_subst]
  | .slice t => by simp [Ty.subst, t.subst_subst]
  | .array t n => by simp [Ty.subst, t.subst_subst, Code.subst_subst n]
  | .other code => by simp [Ty.subst, Code.subst_subst code]

theorem Path.subst_subst : ∀ p : Path, (p.subst s).subst s' = p.subst (s.andThen s')
  | .mk _ segments => by simp [Path.subst, Segment.substAll_substAll segments]

theorem Segment.subst_subst : ∀ a : Segment, (a.subst s).subst s' = a.subst (s.andThen s')
  | .mk _ args => by simp [Segment.subst, args.subst_subst]

theorem Segment.substAll_substAll : ∀ as : List Segment,
    Segment.substAll s' (Segment.substAll s as) = Segment.substAll (s.andThen s') as
  | [] => rfl
  | a :: rest => by simp [Segment.substAll, a.subst_subst, Segment.substAll_substAll rest]

theorem Args.subst_subst : ∀ a : Args, (a.subst s).subst s' = a.subst (s.andThen s')
  | .none => rfl
  | .angle _ args _ => by simp [Args.subst, Arg.substAll_substAll args]
  | .call code => by simp [Args.subst, Code.subst_subst code]

theorem Arg.subst_subst : ∀ a : Arg, (a.subst s).subst s' = a.subst (s.andThen s')
  | .lifetime _ => rfl
  | .type t => by simp [Arg.subst, t.subst_subst]
  | .other code => by simp [Arg.subst, Code.subst_subst code]

theorem Arg.substAll_substAll : ∀ as : List Arg,
    Arg.substAll s' (Arg.substAll s as) = Arg.substAll (s.andThen s') as
  | [] => rfl
  | a :: rest => by simp [Arg.substAll, a.subst_subst, Arg.substAll_substAll rest]

theorem Piece.subst_subst : ∀ p : Piece, (p.subst s).subst s' = p.subst (s.andThen s')
  | .atom _ _ => rfl
  | .group _ body => by simp [Piece.subst, Code.subst_subst body]
  | .type t => by simp [Piece.subst, t.subst_subst]
  | .path p => by simp [Piece.subst, p.subst_subst]

theorem Code.subst_subst : ∀ code : List Piece,
    Code.subst s' (Code.subst s code) = Code.subst (s.andThen s') code
  | [] => rfl
  | p :: rest => by simp [Code.subst, p.subst_subst, Code.subst_subst rest]

end

/-! ### Nothing to substitute -/

mutual

@[simp] theorem Ty.subst_nil : ∀ t : Ty, t.subst [] = t
  | .path p => by
      cases h : p.ident? with
      | some x =>
          obtain rfl := Path.eq_ofIdent h
          rw [← Ty.ofIdent, Ty.subst_ofIdent]
          rfl
      | none => rw [Ty.subst_path _ h, p.subst_nil]
  | .group t => by simp [Ty.subst, t.subst_nil]
  | .paren t => by simp [Ty.subst, t.subst_nil]
  | .slice t => by simp [Ty.subst, t.subst_nil]
  | .array t n => by simp [Ty.subst, t.subst_nil, Code.subst_nil n]
  | .other code => by simp [Ty.subst, Code.subst_nil code]

@[simp] theorem Path.subst_nil : ∀ p : Path, p.subst [] = p
  | .mk _ segments => by simp [Path.subst, Segment.substAll_nil segments]

theorem Segment.subst_nil : ∀ a : Segment, a.subst [] = a
  | .mk _ args => by simp [Segment.subst, args.subst_nil]

theorem Segment.substAll_nil : ∀ as : List Segment, Segment.substAll [] as = as
  | [] => rfl
  | a :: rest => by simp [Segment.substAll, a.subst_nil, Segment.substAll_nil rest]

theorem Args.subst_nil : ∀ a : Args, a.subst [] = a
  | .none => rfl
  | .angle _ args _ => by simp [Args.subst, Arg.substAll_nil args]
  | .call code => by simp [Args.subst, Code.subst_nil code]

theorem Arg.subst_nil : ∀ a : Arg, a.subst [] = a
  | .lifetime _ => rfl
  | .type t => by simp [Arg.subst, t.subst_nil]
  | .other code => by simp [Arg.subst, Code.subst_nil code]

theorem Arg.substAll_nil : ∀ as : List Arg, Arg.substAll [] as = as
  | [] => rfl
  | a :: rest => by simp [Arg.substAll, a.subst_nil, Arg.substAll_nil rest]

theorem Piece.subst_nil : ∀ p : Piece, p.subst [] = p
  | .atom _ _ => rfl
  | .group _ body => by simp [Piece.subst, Code.subst_nil body]
  | .type t => by simp [Piece.subst, t.subst_nil]
  | .path p => by simp [Piece.subst, p.subst_nil]

theorem Code.subst_nil : ∀ code : List Piece, Code.subst [] code = code
  | [] => rfl
  | p :: rest => by simp [Code.subst, p.subst_nil, Code.subst_nil rest]

end

/-! ### Kinds and plans -/

theorem Kind.subst_eq_iff (k : Kind) :
    k.subst s = k.subst s' ↔ ∀ x ∈ k.mentions, s.apply x = s'.apply x := by
  cases k with
  | scalar => simp [Kind.subst, Kind.mentions]
  | converted c => simp [Kind.subst, Kind.mentions, c.subst_eq_iff]
  | view element shape => simp [Kind.subst, Kind.mentions, element.subst_eq_iff]

theorem Kind.subst_subst (k : Kind) : (k.subst s).subst s' = k.subst (s.andThen s') := by
  cases k with
  | scalar => rfl
  | converted c => simp [Kind.subst, c.subst_subst]
  | view element shape => simp [Kind.subst, element.subst_subst]

@[simp] theorem Kind.subst_nil (k : Kind) : k.subst [] = k := by
  cases k <;> simp [Kind.subst]

namespace FieldPlan

theorem subst_subst (p : FieldPlan) : (p.subst s).subst s' = p.subst (s.andThen s') := by
  simp [subst, Located.map, Ty.subst_subst, Kind.subst_subst]

@[simp] theorem subst_nil (p : FieldPlan) : p.subst [] = p := by
  simp [subst, Located.map]

end FieldPlan

end AccessorSchema
