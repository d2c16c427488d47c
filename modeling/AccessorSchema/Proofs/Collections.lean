import AccessorSchema.Example.Small
import AccessorSchema.Proofs.Layout
import AccessorSchema.Proofs.Mentions

/-! # Views and the collections behind them

A collection stays one of the same shape when names in its type are replaced, and its elements are
replaced with it (`Ty.collection?_subst`): what makes it a collection is a name with arguments, brackets
or a box around brackets, and none of these is a name alone.  So the kind of a view, which is settled where
its member is declared and then handed down, always is what its type would be classified as
(`Run.collection?_of_view`). -/

namespace AccessorSchema

open TypeDecl FieldPlan

/-! ### Collections and substitutions -/

section
variable (s : Substitution)

theorem Args.types_subst (a : Args) : (a.subst s).types = a.types.map (·.subst s) := by
  cases a with
  | none => rfl
  | call code => rfl
  | angle turbofish args trailing =>
      show (Arg.substAll s args).filterMap _ = (args.filterMap _).map _
      induction args with
      | nil => rfl
      | cons a rest ih =>
          cases a with
          | type t => simpa [Arg.substAll, Arg.subst] using ih
          | lifetime x => simpa [Arg.substAll, Arg.subst] using ih
          | other code => simpa [Arg.substAll, Arg.subst] using ih

/-- A name alone has no arguments that could be elements. -/
theorem Ty.collection?_ofIdent (x : Ident) : (Ty.ofIdent x).collection? = none := by
  obtain ⟨⟨name, raw⟩, valid⟩ := x
  show Segment.collection? (.mk ⟨⟨name, raw⟩, valid⟩ .none) = none
  cases raw with
  | true => rfl
  | false =>
      simp only [Segment.collection?, Segment.ident, Bool.false_eq_true, if_false]
      split <;> rfl

theorem Segment.collection?_subst {a : Segment} {shape : Shape} {element : Ty}
    (h : a.collection? = some (shape, element)) :
    (a.subst s).collection? = some (shape, element.subst s) := by
  obtain ⟨⟨⟨name, raw⟩, valid⟩, args⟩ := a
  simp only [collection?, Segment.subst, ident, Segment.args, Args.types_subst] at h ⊢
  generalize args.types = ts at h ⊢
  have hfirst : ∀ k : Shape, ts.head?.map (k, ·) = some (shape, element) →
      (ts.map (·.subst s)).head?.map (k, ·) = some (shape, element.subst s) := by
    intro k hk
    cases ts with
    | nil => cases hk
    | cons t rest =>
        cases hk
        rfl
  cases raw with
  | true => cases h
  | false =>
      simp only [Bool.false_eq_true, if_false] at h ⊢
      -- one case for each name of a collection, in the order of the definition
      split at h
      iterate 5 exact hfirst _ h
      iterate 2
        rcases ts with _ | ⟨key, _ | ⟨value, rest⟩⟩
        · cases h
        · cases h
        · cases h
          rfl
      · rcases ts with _ | ⟨t, rest⟩
        · cases h
        · cases t with
          | slice elem =>
              cases h
              rfl
          | _ => cases h
      · cases h

theorem Path.last?_subst (p : Path) : (p.subst s).last? = p.last?.map (·.subst s) := by
  rw [last?, Path.segments_subst, List.getLast?_map, last?]

/-- Replacing names in the type of a collection replaces them in the type of its elements. -/
theorem Ty.collection?_subst : ∀ {t : Ty} {shape : Shape} {element : Ty},
    t.collection? = some (shape, element) → (t.subst s).collection? = some (shape, element.subst s)
  | .path p, _, _, h => by
      have hnone : p.ident? = none := by
        cases hx : p.ident? with
        | none => rfl
        | some x =>
            obtain rfl := Path.eq_ofIdent hx
            rw [← Ty.ofIdent, Ty.collection?_ofIdent] at h
            cases h
      obtain ⟨a, ha, h⟩ := Option.bind_eq_some_iff.mp h
      rw [Ty.subst_path s hnone]
      show (p.subst s).last?.bind _ = _
      rw [Path.last?_subst, ha]
      exact Segment.collection?_subst s h
  | .group t, _, _, h => Ty.collection?_subst (t := t) h
  | .paren t, _, _, h => Ty.collection?_subst (t := t) h
  | .array elem n, _, _, h => by
      cases h
      rfl

end

/-! ### Plans -/

/-- A plan that hands out a view stores a collection of the same shape and elements. -/
def FieldPlan.ViewsItsStorage (p : FieldPlan) : Prop :=
  ∀ element shape, p.kind = .view element shape → p.ty.value.collection? = some (shape, element)

theorem MemberDecl.viewsItsStorage_classify (resolver : Resolver) (m : MemberDecl) (owner : Ident)
    (mode : Mode) : (m.classify resolver owner mode).ViewsItsStorage := by
  intro element shape hkind
  show m.ty.value.collection? = _
  have hdecide : Kind.decide (m.converter.map (·.value)) m.ty.value.collection? = .view element shape :=
    hkind
  unfold Kind.decide at hdecide
  split at hdecide
  · cases hdecide
  · rename_i hcollection
    cases hdecide
    exact hcollection
  · cases hdecide

theorem FieldPlan.ViewsItsStorage.subst {p : FieldPlan} (h : p.ViewsItsStorage) (s : Substitution) :
    (p.subst s).ViewsItsStorage := by
  intro element shape hkind
  have hkind : p.kind.subst s = .view element shape := hkind
  cases hp : p.kind with
  | scalar => simp [hp, Kind.subst] at hkind
  | converted c => simp [hp, Kind.subst] at hkind
  | view e k =>
      rw [hp] at hkind
      cases hkind
      exact Ty.collection?_subst s (h e _ hp)

namespace Run

variable (resolver : Resolver) {ds : List TypeDecl}

theorem viewsItsStorage_of_mem_ownPlans {t : DataType} (ht : t ∈ (ofDecls resolver ds).types)
    {p : FieldPlan} (hp : p ∈ t.ownPlans) : p.ViewsItsStorage := by
  obtain ⟨d, hd, hident⟩ := exists_decl resolver ht
  obtain ⟨m, -, hjudged⟩ := (compiledTo_of_ident resolver ht hd hident).exists_member hp
  have hsame := hjudged.same
  rw [hsame]
  exact m.viewsItsStorage_classify resolver d.ident d.mode

end Run

end AccessorSchema
