import AccessorSchema.Example.Small
import AccessorSchema.Plan.Classify
import AccessorSchema.Proofs.Mentions

/-! # Substitutions that follow each other

A substitution puts arguments in as they are: the names that a type mentions afterwards are those of the
arguments for the names it mentioned before, keys or not (`Ty.mentions_subst`).  Two substitutions
therefore come to one, whose arguments are those of the first with the second done to them, as long as
the second finds no key in a plan that is none of the first
(`FieldPlan.subst_subst_of_keys`). -/

namespace AccessorSchema

variable (s : Substitution)

mutual

theorem Ty.mentions_subst : ∀ t : Ty,
    (t.subst s).mentions = t.mentions.flatMap fun x => (s.apply x).mentions
  | .path p => by
      cases h : p.ident? with
      | some x =>
          obtain rfl := Path.eq_ofIdent h
          rw [← Ty.ofIdent, Ty.subst_ofIdent]
          simp [Ty.ofIdent, Ty.mentions, h]
      | none =>
          rw [Ty.subst_path s h, Ty.mentions_path ((Path.ident?_subst s p).trans h), Ty.mentions_path h,
            p.mentions_subst]
  | .group t => by simp [Ty.subst, Ty.mentions, t.mentions_subst]
  | .paren t => by simp [Ty.subst, Ty.mentions, t.mentions_subst]
  | .slice t => by simp [Ty.subst, Ty.mentions, t.mentions_subst]
  | .array t n => by simp [Ty.subst, Ty.mentions, t.mentions_subst, Code.mentions_subst n]
  | .other code => by simp [Ty.subst, Ty.mentions, Code.mentions_subst code]

theorem Path.mentions_subst : ∀ p : Path,
    (p.subst s).mentions = p.mentions.flatMap fun x => (s.apply x).mentions
  | .mk _ segments => by simp [Path.subst, Path.mentions, Segment.mentionsAll_substAll segments]

theorem Segment.mentions_subst : ∀ a : Segment,
    (a.subst s).mentions = a.mentions.flatMap fun x => (s.apply x).mentions
  | .mk _ args => by simp [Segment.subst, Segment.mentions, args.mentions_subst]

theorem Segment.mentionsAll_substAll : ∀ as : List Segment,
    Segment.mentionsAll (Segment.substAll s as) =
      (Segment.mentionsAll as).flatMap fun x => (s.apply x).mentions
  | [] => rfl
  | a :: rest => by
      simp [Segment.substAll, Segment.mentionsAll, a.mentions_subst, Segment.mentionsAll_substAll rest]

theorem Args.mentions_subst : ∀ a : Args,
    (a.subst s).mentions = a.mentions.flatMap fun x => (s.apply x).mentions
  | .none => rfl
  | .angle _ args _ => by simp [Args.subst, Args.mentions, Arg.mentionsAll_substAll args]
  | .call code => by simp [Args.subst, Args.mentions, Code.mentions_subst code]

theorem Arg.mentions_subst : ∀ a : Arg,
    (a.subst s).mentions = a.mentions.flatMap fun x => (s.apply x).mentions
  | .lifetime _ => rfl
  | .type t => by simp [Arg.subst, Arg.mentions, t.mentions_subst]
  | .other code => by simp [Arg.subst, Arg.mentions, Code.mentions_subst code]

theorem Arg.mentionsAll_substAll : ∀ as : List Arg,
    Arg.mentionsAll (Arg.substAll s as) = (Arg.mentionsAll as).flatMap fun x => (s.apply x).mentions
  | [] => rfl
  | a :: rest => by
      simp [Arg.substAll, Arg.mentionsAll, a.mentions_subst, Arg.mentionsAll_substAll rest]

theorem Piece.mentions_subst : ∀ p : Piece,
    (p.subst s).mentions = p.mentions.flatMap fun x => (s.apply x).mentions
  | .atom _ _ => rfl
  | .group _ body => by simp [Piece.subst, Piece.mentions, Code.mentions_subst body]
  | .type t => by simp [Piece.subst, Piece.mentions, t.mentions_subst]
  | .path p => by simp [Piece.subst, Piece.mentions, p.mentions_subst]

theorem Code.mentions_subst : ∀ code : List Piece,
    Code.mentions (Code.subst s code) = (Code.mentions code).flatMap fun x => (s.apply x).mentions
  | [] => rfl
  | p :: rest => by simp [Code.subst, Code.mentions, p.mentions_subst, Code.mentions_subst rest]

end

theorem Kind.mentions_subst (k : Kind) :
    (k.subst s).mentions = k.mentions.flatMap fun x => (s.apply x).mentions := by
  cases k with
  | scalar => rfl
  | converted c => exact c.mentions_subst s
  | view element shape => exact element.mentions_subst s

variable {s} {s' : Substitution}

/-- A name that the second substitution replaces only where the first does comes to the same in two
steps and in one. -/
theorem Substitution.apply_andThen_of_keys {x : Ident}
    (h : x ∈ s'.map (·.1) → x ∈ s.map (·.1)) :
    (s.andThen s').apply x = apply (s.map fun e => (e.1, e.2.subst s')) x := by
  rw [apply_andThen]
  by_cases hx : x ∈ s.map (·.1)
  · exact (apply_map_of_mem hx).symm
  · have hmapped : x ∉ (s.map fun e => (e.1, e.2.subst s')).map (·.1) := by
      rw [List.map_map]
      exact hx
    rw [apply_of_notMem hx, apply_of_notMem hmapped, Ty.subst_ofIdent,
      apply_of_notMem fun hx' => hx (h hx')]

namespace FieldPlan

theorem subst_congr {p : FieldPlan} (h : ∀ x ∈ p.mentions, s.apply x = s'.apply x) :
    p.subst s = p.subst s' := by
  have hty := (Ty.subst_eq_iff s s' p.ty.value).mpr fun x hx => h x (List.mem_append_left _ hx)
  have hkind := (Kind.subst_eq_iff s s' p.kind).mpr fun x hx => h x (List.mem_append_right _ hx)
  simp only [subst, Located.map, hty, hkind]

/-- Two substitutions one after the other are one, unless the second replaces a name of the plan that the
first leaves alone.  Each by itself is done all at once: what a name mentioned in the plan leaves behind is
its argument with all that this mentions, keys included. -/
theorem subst_subst_of_keys {p : FieldPlan}
    (h : ∀ x ∈ p.mentions, x ∈ s'.map (·.1) → x ∈ s.map (·.1)) :
    (p.subst s).subst s' = p.subst (s.map fun e => (e.1, e.2.subst s')) ∧
      (p.subst s).mentions = p.mentions.flatMap fun x => (s.apply x).mentions := by
  have hagree : ∀ x ∈ p.mentions,
      (s.andThen s').apply x = Substitution.apply (s.map fun e => (e.1, e.2.subst s')) x :=
    fun x hx => Substitution.apply_andThen_of_keys (h x hx)
  refine ⟨?_, ?_⟩
  · rw [subst_subst]
    exact subst_congr hagree
  · show (p.ty.value.subst s).mentions ++ (p.kind.subst s).mentions = _
    rw [Ty.mentions_subst, Kind.mentions_subst, mentions, List.flatMap_append]

open Example in
/-- The first substitution changes the places of a mapping's parameters, and the second replaces what the
first put in. -/
theorem subst_subst_of_keys_entries :
    let p := (typed "_entries" (applied "HashMap" [plainType "K", plainType "V"])).classify
      (fun _ _ => .resolved) ledger.ident .immutable
    let s : Substitution :=
      [(.plain "K", plainType "V"), (.plain "V", applied "Vec" [plainType "K"])]
    let s' : Substitution := [(.plain "V", plainType "K"), (.plain "K", plainType "u8")]
    (∀ x ∈ p.mentions, x ∈ s'.map (·.1) → x ∈ s.map (·.1)) ∧
      (p.subst s).subst s' =
        p.subst [(.plain "K", plainType "K"), (.plain "V", applied "Vec" [plainType "u8"])] ∧
      (p.subst s).mentions = [.plain "V", .plain "K", .plain "V", .plain "K"] := by
  intro p s s'
  have h : ∀ x ∈ p.mentions, x ∈ s'.map (·.1) → x ∈ s.map (·.1) := by decide
  obtain ⟨hcomposed, hmentions⟩ := subst_subst_of_keys h
  refine ⟨h, hcomposed, hmentions.trans ?_⟩
  decide

end FieldPlan

end AccessorSchema
