import AccessorSchema.Proofs.Provenance

/-! # Lineages

A type and the base it refers to form a link, and links that follow each other form the lineage of a
type, from an ancestor down to it.  What a type inherits is what its base has, handed over the link
(`Run.types_induction`).  So every plan of a type is an own plan of an ancestor, handed down the lineage
link by link (`Run.exists_handedDown`). -/

namespace AccessorSchema

/-- A type with its base and the reference it makes to it. -/
structure Link where
  heir : DataType
  ref : BaseRef
  base : DataType

namespace Link

/-- Both types are there, and the one refers to the other. -/
structure IsIn (types : List DataType) (l : Link) : Prop where
  heir : l.heir ∈ types
  base : l.base ∈ types
  ref : l.heir.base = some l.ref
  ident : l.base.ident = l.ref.ident
  arity : l.base.generics.typeParams.length = l.ref.args.length

def arguments (l : Link) : Substitution := l.base.arguments l.ref

/-- What the heir makes of a plan of its base. -/
def inherit (l : Link) (p : FieldPlan) : FieldPlan :=
  { p.subst l.arguments with writable := p.writable && l.heir.mode.isMutable }

theorem sameMember_inherit (l : Link) (p : FieldPlan) : FieldPlan.SameMember p (l.inherit p) :=
  ⟨rfl, rfl, rfl⟩

theorem map_inherit (l : Link) : l.base.plans.map l.inherit = l.base.inherit l.ref l.heir.mode := rfl

end Link

/-- The links that lead from an ancestor down to the type `t`. -/
inductive Lineage (types : List DataType) (t : DataType) : DataType → List Link → Prop
  | self : Lineage types t t []
  | link {l : Link} {links : List Link} (hl : l.IsIn types) (h : Lineage types t l.heir links) :
      Lineage types t l.base (l :: links)

theorem Lineage.snoc {types : List DataType} {a : DataType} {l : Link} {links : List Link}
    (h : Lineage types l.base a links) (hl : l.IsIn types) :
    Lineage types l.heir a (links ++ [l]) := by
  induction h with
  | self => exact .link hl .self
  | link hk _ ih => exact .link hk ih

namespace FieldPlan

/-- The plan as the last heir has it. -/
def handedDown (links : List Link) (p : FieldPlan) : FieldPlan := links.foldl (fun p l => l.inherit p) p

theorem handedDown_snoc (links : List Link) (l : Link) (p : FieldPlan) :
    p.handedDown (links ++ [l]) = l.inherit (p.handedDown links) := by
  rw [handedDown, List.foldl_append]
  rfl

theorem sameMember_handedDown (links : List Link) (p : FieldPlan) : SameMember p (p.handedDown links) := by
  induction links generalizing p with
  | nil => exact ⟨rfl, rfl, rfl⟩
  | cons l links ih => exact (l.sameMember_inherit p).trans (ih (l.inherit p))

@[simp] theorem handedDown_valid (links : List Link) (p : FieldPlan) :
    (p.handedDown links).valid = p.valid := by
  induction links generalizing p with
  | nil => rfl
  | cons l links ih => exact ih (l.inherit p)

end FieldPlan

open FieldPlan TypeDecl

/-- `q` is the own plan `p` of the ancestor `a`, handed down the links to the type `t`. -/
structure HandedDown (types : List DataType) (t : DataType) (q : FieldPlan) (a : DataType)
    (links : List Link) (p : FieldPlan) : Prop where
  ancestor : a ∈ types
  lineage : Lineage types t a links
  own : p ∈ a.ownPlans
  eq : q = p.handedDown links

namespace HandedDown

variable {types : List DataType} {t a : DataType} {q p : FieldPlan} {links : List Link}

theorem sameMember (h : HandedDown types t q a links p) : SameMember p q :=
  h.eq ▸ sameMember_handedDown links p

/-- A plan tells the ancestor it comes from. -/
theorem origin_eq (h : HandedDown types t q a links p) : q.origin = a.ident := by
  rw [h.sameMember.origin]
  simpa [isInheritedBy] using (DataType.mem_ownPlans.mp h.own).2

theorem valid_eq (h : HandedDown types t q a links p) : q.valid = p.valid := by
  rw [h.eq, handedDown_valid]

end HandedDown

/-! ### Steps -/

namespace Step

variable (resolver : Resolver) (d : TypeDecl) (c : Bool) (known : List DataType)

@[simp] theorem compile_base :
    (compile resolver d c known).data.base = (BaseState.ofDecl d c known).ref? := by
  simp [compile, ofPlans, DataType.validate, DataType.resolve]

@[simp] theorem compile_mode : (compile resolver d c known).data.mode = d.mode := by
  simp [compile, ofPlans, DataType.validate, DataType.resolve]

variable {d known}

theorem inheritedPlans_compile (h : ∀ b ∈ known, ∀ p ∈ b.plans, p.origin ≠ d.ident) :
    (compile resolver d c known).data.inheritedPlans =
        DataType.inherited d.mode (BaseState.ofDecl d c known) ∧
      (compile resolver d c known).data.plans =
        (compile resolver d c known).data.inheritedPlans ++
          (compile resolver d c known).data.ownPlans := by
  obtain ⟨hplans, -⟩ := plans_compile resolver c h
  have hinherited : (compile resolver d c known).data.inheritedPlans =
      DataType.inherited d.mode (BaseState.ofDecl d c known) := by
    rw [DataType.inheritedPlans, hplans, List.filter_append, compile_ident, List.filter_eq_self.mpr,
      List.filter_eq_nil_iff.mpr, List.append_nil]
    · intro p hp
      simpa using (List.mem_filter.mp hp).2
    · exact fun p hp => isInheritedBy_of_mem_inherited c h hp
  exact ⟨hinherited, hinherited.symm ▸ hplans⟩

end Step

/-! ### Runs -/

namespace Run

variable (resolver : Resolver) (ds : List TypeDecl)

theorem plans_eq {t : DataType} (ht : t ∈ (ofDecls resolver ds).types) :
    t.plans = t.inheritedPlans ++ t.ownPlans := by
  obtain ⟨s, hs, rfl⟩ := List.mem_map.mp ht
  obtain ⟨d, -, c, known, rfl, hnew⟩ := exists_compile resolver ds hs
  exact (Step.inheritedPlans_compile resolver c hnew).2

/-- A type inherits nothing, or what a type compiled before it has. -/
theorem link_of_split {pre post : List Step} {s : Step}
    (h : (ofDecls resolver ds).steps = pre ++ s :: post) :
    s.data.base = none ∧ s.data.inheritedPlans = [] ∨
      ∃ l : Link, l.IsIn (ofDecls resolver ds).types ∧ l.heir = s.data ∧
        l.base ∈ pre.map (·.data) ∧ s.data.inheritedPlans = l.base.plans.map l.inherit := by
  have hs : s.data ∈ (ofDecls resolver ds).types := List.mem_map_of_mem (h ▸ by simp)
  have hpre : ∀ b ∈ pre.map (·.data), b ∈ (ofDecls resolver ds).types := by
    intro b hb
    rw [types, h, List.map_append]
    exact List.mem_append_left _ hb
  have hnew := origin_ne_of_split resolver ds h
  obtain ⟨d, -, c, -, rfl, -⟩ := steps_split resolver ds h
  rw [Step.compile_ident] at hnew
  have hplans := (Step.inheritedPlans_compile resolver c hnew).1
  rw [hplans, Step.compile_base]
  cases hstate : BaseState.ofDecl d c (pre.map (·.data)) with
  | absent => exact .inl ⟨rfl, rfl⟩
  | faulty report => exact .inl ⟨rfl, rfl⟩
  | usable ref base =>
      obtain ⟨hbase, hident, -, harity⟩ := BaseState.of_usable hstate
      refine .inr ⟨⟨_, ref, base⟩, ⟨hs, hpre _ hbase, ?_, hident, harity⟩, rfl, hbase, ?_⟩
      · rw [Step.compile_base, hstate]
        rfl
      · rw [Link.map_inherit, Step.compile_mode]
        rfl

/-- Induction from base to heir. -/
theorem types_induction {Q : DataType → Prop}
    (root : ∀ t ∈ (ofDecls resolver ds).types, t.base = none → t.inheritedPlans = [] → Q t)
    (heir : ∀ l : Link, l.IsIn (ofDecls resolver ds).types →
      l.heir.inheritedPlans = l.base.plans.map l.inherit → Q l.base → Q l.heir) :
    ∀ t ∈ (ofDecls resolver ds).types, Q t := by
  suffices hall : ∀ s ∈ (ofDecls resolver ds).steps, Q s.data by
    intro t ht
    obtain ⟨s, hs, rfl⟩ := List.mem_map.mp ht
    exact hall s hs
  refine forall_steps resolver ds fun pre s post h ih => ?_
  rcases link_of_split resolver ds h with ⟨hbase, hplans⟩ | ⟨l, hl, hheir, hbase, hplans⟩
  · exact root _ (List.mem_map_of_mem (h ▸ by simp)) hbase hplans
  · obtain ⟨u, hu, hub⟩ := List.mem_map.mp hbase
    rw [← hheir] at hplans ⊢
    exact heir l hl hplans (hub ▸ ih u hu)

/-- Induction on the way of a plan: what holds of own plans, and goes over from a base to its heirs, holds of
all plans. -/
theorem plans_induction {Q : DataType → FieldPlan → Prop}
    (own : ∀ t ∈ (ofDecls resolver ds).types, ∀ p ∈ t.ownPlans, Q t p)
    (inherit : ∀ l : Link, l.IsIn (ofDecls resolver ds).types →
      ∀ p ∈ l.base.plans, Q l.base p → Q l.heir (l.inherit p)) :
    ∀ t ∈ (ofDecls resolver ds).types, ∀ p ∈ t.plans, Q t p := by
  refine types_induction resolver ds ?_ ?_
  · intro t ht _ hnone p hp
    rw [plans_eq resolver ds ht, hnone, List.nil_append] at hp
    exact own t ht p hp
  · intro l hl hinherited ih p hp
    rw [plans_eq resolver ds hl.heir, hinherited, List.mem_append] at hp
    rcases hp with hp | hp
    · obtain ⟨q, hq, rfl⟩ := List.mem_map.mp hp
      exact inherit l hl q hq (ih q hq)
    · exact own l.heir hl.heir p hp

/-- Every plan of a type is an own plan of an ancestor, handed down the lineage from there. -/
theorem exists_handedDown : ∀ t ∈ (ofDecls resolver ds).types, ∀ q ∈ t.plans,
    ∃ a links p, HandedDown (ofDecls resolver ds).types t q a links p := by
  refine plans_induction resolver ds (fun t ht q hq => ⟨t, [], q, ht, .self, hq, rfl⟩) ?_
  rintro l hl q - ⟨a, links, p, ha, hlineage, hp, rfl⟩
  exact ⟨a, links ++ [l], p, ha, hlineage.snoc hl, hp, (handedDown_snoc links l p).symm⟩

end Run

end AccessorSchema
