import AccessorSchema.Example.Small
import AccessorSchema.Proofs.Bases

/-! # The layout of a type

Inheriting keeps everything about a plan but its types and the permission to write (`FieldPlan.Keeps`).
So the plans of a type are those of its bases, root first, and then its own, each level in the order
in which the members were declared (`Run.exists_layout`).  Since an ancestry never comes back to a name,
the origins of plans tell exactly the last level from those above it. -/

namespace AccessorSchema

open TypeDecl

/-! ### What is kept -/

/-- The same way to hand out a value, up to the types in it. -/
inductive Kind.SameForm : Kind → Kind → Prop
  | scalar : SameForm .scalar .scalar
  | converted (c c' : Path) : SameForm (.converted c) (.converted c')
  | view (element element' : Ty) (shape : Shape) : SameForm (.view element shape) (.view element' shape)

namespace Kind

variable {k k' k'' : Kind}

theorem SameForm.refl (k : Kind) : SameForm k k := by
  cases k with
  | scalar => exact .scalar
  | converted c => exact .converted c c
  | view element shape => exact .view element element shape

theorem SameForm.trans (h : SameForm k k') (h' : SameForm k' k'') : SameForm k k'' := by
  cases h with
  | scalar => exact h'
  | converted => cases h' with | converted => exact .converted _ _
  | view => cases h' with | view => exact .view _ _ _

theorem sameForm_subst (s : Substitution) (k : Kind) : SameForm k (k.subst s) := by
  cases k with
  | scalar => exact .scalar
  | converted c => exact .converted c _
  | view element shape => exact .view element _ shape

end Kind

namespace FieldPlan

/-- `q` is the plan `p` with other types and permissions. -/
structure Keeps (p q : FieldPlan) : Prop where
  same : q = { p with ty := q.ty, kind := q.kind, writable := q.writable }
  form : Kind.SameForm p.kind q.kind

variable {p q u : FieldPlan}

theorem Keeps.refl (p : FieldPlan) : Keeps p p := ⟨rfl, .refl p.kind⟩

theorem Keeps.trans (h : Keeps p q) (h' : Keeps q u) : Keeps p u := by
  have hsame := h'.same
  rw [h.same] at hsame
  exact ⟨hsame, h.form.trans h'.form⟩

theorem Keeps.sameMember (h : Keeps p q) : SameMember p q := by
  have hsame := h.same
  refine ⟨?_, ?_, ?_⟩
  all_goals rw [hsame]

theorem keeps_inherit (l : Link) (p : FieldPlan) : Keeps p (l.inherit p) :=
  ⟨rfl, Kind.sameForm_subst l.arguments p.kind⟩

end FieldPlan

open FieldPlan

/-! ### Levels -/

/-- `t` is the type made of `d`: its own plans are for the members of `d`, in their order. -/
structure TypeDecl.CompiledTo (resolver : Resolver) (types : List DataType) (d : TypeDecl) (t : DataType) :
    Prop where
  mem : t ∈ types
  ident : t.ident = d.ident
  mode : t.mode = d.mode
  own : List.Forall₂ (Judged d.ident d.mode) (d.members.map (·.classify resolver d.ident d.mode))
    t.ownPlans

/-- An own plan is the verdict on the plan of a member. -/
theorem TypeDecl.CompiledTo.exists_member {resolver : Resolver} {types : List DataType} {d : TypeDecl}
    {t : DataType} (h : CompiledTo resolver types d t) {p : FieldPlan} (hp : p ∈ t.ownPlans) :
    ∃ m ∈ d.members, Judged d.ident d.mode (m.classify resolver d.ident d.mode) p := by
  obtain ⟨q, hq, hjudged⟩ := (exists_mem_of_forall₂ h.own).2 p hp
  obtain ⟨m, hm, rfl⟩ := List.mem_map.mp hq
  exact ⟨m, hm, hjudged⟩

namespace Run

variable (resolver : Resolver) {ds : List TypeDecl}

theorem compiledTo_of_ident {t : DataType} (ht : t ∈ (ofDecls resolver ds).types) {d : TypeDecl}
    (hd : d ∈ (merge ds).1) (hident : t.ident = d.ident) :
    CompiledTo resolver (ofDecls resolver ds).types d t := by
  obtain ⟨c, known, rfl, hnew⟩ := exists_compile_of_type resolver ht hd hident
  exact ⟨ht, hident, Step.compile_mode resolver d c known, (Step.plans_compile resolver c hnew).2⟩

/-- The plans of a type that it inherits are the own plans of its bases, level by level. -/
theorem exists_bases {above : List TypeDecl} {d : TypeDecl} (h : Ancestry (merge ds).1 above d)
    (hd : d ∈ (merge ds).1) {t : DataType} (ht : t ∈ (ofDecls resolver ds).types)
    (hident : t.ident = d.ident) :
    ∃ bases, List.Forall₂ (CompiledTo resolver (ofDecls resolver ds).types) above bases ∧
      List.Forall₂ Keeps (bases.flatMap (·.ownPlans)) t.inheritedPlans := by
  refine ancestry_induction resolver (Q := fun above _ t => ∃ bases,
    List.Forall₂ (CompiledTo resolver (ofDecls resolver ds).types) above bases ∧
      List.Forall₂ Keeps (bases.flatMap (·.ownPlans)) t.inheritedPlans) ?_ ?_ h hd ht hident
  · intro t _ d _ _ hplans
    exact ⟨[], .nil, hplans ▸ .nil⟩
  · rintro l above e d hl he hle - - - hplans ⟨bases, hbases, hkept⟩
    refine ⟨bases ++ [l.base],
      List.rel_append hbases (.cons (compiledTo_of_ident resolver hl.base he hle) .nil), ?_⟩
    -- the base hands over all it has: what it has inherited itself, then its own plans
    have hown : List.Forall₂ Keeps l.base.ownPlans l.base.ownPlans :=
      List.forall₂_same.mpr fun p _ => .refl p
    have hall : List.Forall₂ Keeps ((bases ++ [l.base]).flatMap (·.ownPlans)) l.base.plans := by
      rw [List.flatMap_append, List.flatMap_singleton, plans_eq resolver ds hl.base]
      exact List.rel_append hkept hown
    rw [hplans, List.forall₂_map_right_iff]
    exact hall.imp fun p q h => h.trans (keeps_inherit l q)

/-- What a type inherits comes from its bases, and what it does not from itself. -/
theorem isInheritedBy_iff {above : List TypeDecl} {d : TypeDecl} (h : Ancestry (merge ds).1 above d)
    (hd : d ∈ (merge ds).1) {t : DataType} (ht : t ∈ (ofDecls resolver ds).types)
    (hident : t.ident = d.ident) {p : FieldPlan} (hp : p ∈ t.plans) :
    p.isInheritedBy t.ident = true ↔ ∃ e ∈ above, p.origin = e.ident := by
  constructor
  · intro hin
    obtain ⟨bases, hbases, hkept⟩ := exists_bases resolver h hd ht hident
    obtain ⟨q, hq, hkeeps⟩ :=
      (exists_mem_of_forall₂ hkept).2 p (DataType.mem_inheritedPlans.mpr ⟨hp, hin⟩)
    obtain ⟨u, hu, hq⟩ := List.mem_flatMap.mp hq
    obtain ⟨e, he, hlevel⟩ := (exists_mem_of_forall₂ hbases).2 u hu
    have horigin : q.origin = u.ident := by
      simpa [isInheritedBy] using (DataType.mem_ownPlans.mp hq).2
    exact ⟨e, he, by rw [hkeeps.sameMember.origin, horigin, hlevel.ident]⟩
  · rintro ⟨e, he, horigin⟩
    rw [isInheritedBy, bne_iff_ne, horigin, hident]
    exact h.ident_ne hd e he

/-- A type has the plans of its ancestry, root first, and then its own; the test on the origin of a plan
tells exactly what comes from above. -/
theorem exists_layout {t : DataType} (ht : t ∈ (ofDecls resolver ds).types) :
    ∃ d ∈ (merge ds).1, ∃ above, (∀ chain, Ancestry (merge ds).1 chain d ↔ chain = above) ∧
      ((above ++ [d]).map (·.ident)).Nodup ∧
      (∀ p ∈ t.plans, p.isInheritedBy t.ident = true ↔ ∃ e ∈ above, p.origin = e.ident) ∧
      ∃ bases, List.Forall₂ (CompiledTo resolver (ofDecls resolver ds).types) (above ++ [d]) (bases ++ [t]) ∧
        List.Forall₂ Keeps (bases.flatMap (·.ownPlans)) t.inheritedPlans ∧
        t.plans = t.inheritedPlans ++ t.ownPlans := by
  obtain ⟨d, hd, hident, above, hchain⟩ := exists_chain resolver ht
  have h := (hchain above).mpr rfl
  obtain ⟨bases, hbases, hkept⟩ := exists_bases resolver h hd ht hident
  have hlevel := compiledTo_of_ident resolver ht hd hident
  exact ⟨d, hd, above, hchain, h.nodup hd, fun p hp => isInheritedBy_iff resolver h hd ht hident hp,
    bases, List.rel_append hbases (.cons hlevel .nil), hkept, plans_eq resolver ds ht⟩

open Example in
/-- An archmage has the name of a hero, the mana of a wizard and a staff. -/
theorem exists_layout_archmage :
    let r := ofDecls (fun _ _ => .resolved) [hero, wizard, archmage]
    ∃ t ∈ r.types, t.plans.map (·.backing.value.name) = ["_name", "_mana", "_staff"] ∧
      ∃ bases : List DataType, List.Forall₂ Keeps (bases.flatMap (·.ownPlans)) t.inheritedPlans ∧
        t.inheritedPlans.length = 2 ∧ t.plans = t.inheritedPlans ++ t.ownPlans := by
  intro r
  have ht : ∃ t ∈ r.types, t.plans.map (·.backing.value.name) = ["_name", "_mana", "_staff"] ∧
      t.inheritedPlans.length = 2 := by
    decide +kernel
  obtain ⟨t, ht, hnames, hlength⟩ := ht
  obtain ⟨-, -, -, -, -, -, bases, -, hkept, hplans⟩ := exists_layout _ ht
  exact ⟨t, ht, hnames, bases, hkept, hlength, hplans⟩

end Run

end AccessorSchema
