import AccessorSchema.Proofs.Layout
import AccessorSchema.Proofs.Synthesis
import Mathlib.Data.List.TakeWhile

/-! # Permission to write

Whether a member may be written is decided where it is declared, by its kind and its policy, and every
type on the way down that no fragment declares mutable takes the permission away for good
(`FieldPlan.mayBeWritten`).  This is what the flag of a plan says at every type: inheriting keeps it so
(`Obeys.inherit`), hence every run (`Run.obeys_of_mem`).  So a type has a setter, or a stub of one, for
exactly those plans (`Run.setters_eq`). -/

namespace AccessorSchema

open TypeDecl

namespace TypeDecl

/-- Some fragment of the type is mutable. -/
def declaredMutable (ds : List TypeDecl) (x : Ident) : Bool := (fragments ds x).any (·.mode.isMutable)

/-- A chain of bases from the type of that name on. -/
def since (x : Ident) (chain : List TypeDecl) : List TypeDecl := chain.dropWhile (·.ident != x)

end TypeDecl

namespace FieldPlan

/-- Neither a view nor declared read-only. -/
def isOpen (p : FieldPlan) : Bool := !p.kind.isView && (p.policy == none || p.policy == some .readWrite)

/-- A type may write the member of a plan: it is open, and the type that declares it, the type itself
and all between them on the chain are mutable. -/
def mayBeWritten (ds chain : List TypeDecl) (p : FieldPlan) : Bool :=
  p.isOpen && (since p.origin chain).all fun e => declaredMutable ds e.ident

/-- The plan comes from a type of the chain, and its flag says whether it may be written. -/
structure Obeys (ds chain : List TypeDecl) (p : FieldPlan) : Prop where
  origin : p.origin ∈ chain.map (·.ident)
  writable : p.writable = p.mayBeWritten ds chain

end FieldPlan

/-! ### Modes and chains -/

namespace TypeDecl

variable {ds chain : List TypeDecl} {d : TypeDecl} {x : Ident}

theorem isMutable_absorbAll (d : TypeDecl) (fs : List TypeDecl) :
    (d.absorbAll fs).1.mode.isMutable = (d :: fs).any (·.mode.isMutable) := by
  induction fs generalizing d with
  | nil => simp [absorbAll]
  | cons f rest ih =>
      rw [absorbAll, ih]
      cases hf : f.mode <;> cases hd : d.mode <;> simp [absorb, Mode.isMutable, hf, hd]

/-- Merged, a type is mutable as soon as one of its fragments is. -/
theorem isMutable_of_mem_merge (hd : d ∈ (merge ds).1) : d.mode.isMutable = declaredMutable ds d.ident := by
  obtain ⟨reports, h⟩ := (mem_merge ds d).mp hd
  have hany : declaredMutable ds d.ident = (byKey (fragments ds d.ident)).any (·.mode.isMutable) :=
    ((byKey_perm _).any_eq).symm
  rw [hany]
  unfold mergeGroup at h
  cases hb : byKey (fragments ds d.ident) with
  | nil => simp [hb] at h
  | cons first later =>
      simp only [hb, Option.some.injEq] at h
      rw [← isMutable_absorbAll, h]

theorem since_snoc (h : x ∈ chain.map (·.ident)) : since x (chain ++ [d]) = since x chain ++ [d] := by
  have hne : (since x chain).isEmpty = false := by
    obtain ⟨e, he, rfl⟩ := List.mem_map.mp h
    rw [← Bool.not_eq_true, List.isEmpty_iff, since, List.dropWhile_eq_nil_iff]
    exact fun hall => absurd (hall e he) (by simp)
  unfold since at hne ⊢
  rw [List.dropWhile_append, hne, if_neg Bool.false_ne_true]

theorem since_last (h : d.ident ∉ chain.map (·.ident)) : since d.ident (chain ++ [d]) = [d] := by
  unfold since
  rw [List.dropWhile_append_of_pos]
  · simp
  · intro e he
    rw [bne_iff_ne]
    exact fun hed => h (hed ▸ List.mem_map_of_mem he)

theorem mem_since_last (h : x ∈ (chain ++ [d]).map (·.ident)) : d ∈ since x (chain ++ [d]) := by
  by_cases hx : x ∈ chain.map (·.ident)
  · rw [since_snoc hx]
    exact List.mem_append_right _ (List.mem_singleton_self d)
  · obtain rfl : x = d.ident := by simpa [hx] using h
    rw [since_last hx]
    exact List.mem_singleton_self d

end TypeDecl

/-! ### Plans -/

namespace FieldPlan

theorem writable_classify (resolver : Resolver) (m : MemberDecl) (owner : Ident) (mode : Mode) :
    (m.classify resolver owner mode).writable =
      ((m.classify resolver owner mode).isOpen && mode.isMutable) := by
  unfold MemberDecl.classify MemberDecl.planNamed MemberDecl.isWritable isOpen
  rcases m.policy with _ | _ | _ <;> cases mode <;> cases m.kind.isView <;> rfl

theorem isOpen_inherit (l : Link) (p : FieldPlan) : (l.inherit p).isOpen = p.isOpen := by
  have hview : (p.kind.subst l.arguments).isView = p.kind.isView := by cases p.kind <;> rfl
  show (!(p.kind.subst l.arguments).isView && _) = _
  rw [hview]
  rfl

variable {ds chain : List TypeDecl} {d : TypeDecl} {p : FieldPlan}

/-- A type further down adds its own mode. -/
theorem mayBeWritten_snoc (h : p.origin ∈ chain.map (·.ident)) :
    p.mayBeWritten ds (chain ++ [d]) = (p.mayBeWritten ds chain && declaredMutable ds d.ident) := by
  unfold mayBeWritten
  rw [since_snoc h, List.all_append, List.all_cons, List.all_nil, Bool.and_true, Bool.and_assoc]

theorem mayBeWritten_last (h : p.origin = d.ident) (hd : d.ident ∉ chain.map (·.ident)) :
    p.mayBeWritten ds (chain ++ [d]) = (p.isOpen && declaredMutable ds d.ident) := by
  unfold mayBeWritten
  rw [h, since_last hd, List.all_cons, List.all_nil, Bool.and_true]

theorem mayBeWritten_inherit (l : Link) (p : FieldPlan) :
    (l.inherit p).mayBeWritten ds chain = p.mayBeWritten ds chain := by
  unfold mayBeWritten
  rw [isOpen_inherit]
  rfl

/-- An heir takes the permission away if it is not mutable, and gives none. -/
theorem Obeys.inherit (h : p.Obeys ds chain) {l : Link}
    (hmode : l.heir.mode.isMutable = declaredMutable ds d.ident) :
    (l.inherit p).Obeys ds (chain ++ [d]) := by
  refine ⟨?_, ?_⟩
  · rw [List.map_append]
    exact List.mem_append_left _ h.origin
  · rw [mayBeWritten_snoc (p := l.inherit p) h.origin, mayBeWritten_inherit, ← h.writable, ← hmode]
    rfl

theorem declaredMutable_of_mayBeWritten (h : p.mayBeWritten ds (chain ++ [d]) = true)
    (horigin : p.origin ∈ (chain ++ [d]).map (·.ident)) : declaredMutable ds d.ident = true :=
  List.all_eq_true.mp (Bool.and_eq_true_iff.mp h).2 d (mem_since_last horigin)

end FieldPlan

open FieldPlan

/-! ### Runs -/

namespace Run

variable (resolver : Resolver) {ds : List TypeDecl}

/-- The flag of an own plan says whether the member is open and the type mutable. -/
theorem obeys_of_own {above : List TypeDecl} {d : TypeDecl} (hd : d ∈ (merge ds).1)
    (hnew : d.ident ∉ above.map (·.ident)) {t : DataType}
    (h : CompiledTo resolver (ofDecls resolver ds).types d t) {p : FieldPlan} (hp : p ∈ t.ownPlans) :
    p.Obeys ds (above ++ [d]) := by
  obtain ⟨m, -, hjudged⟩ := h.exists_member hp
  have horigin : p.origin = d.ident := hjudged.origin_eq
  refine ⟨by simp [horigin], ?_⟩
  rw [mayBeWritten_last horigin hnew, ← isMutable_of_mem_merge hd, hjudged.same]
  exact writable_classify resolver m d.ident d.mode

/-- At every type the flag of a plan says whether it may be written. -/
theorem obeys_of_mem {above : List TypeDecl} {d : TypeDecl} (h : Ancestry (merge ds).1 above d)
    (hd : d ∈ (merge ds).1) {t : DataType} (ht : t ∈ (ofDecls resolver ds).types)
    (hident : t.ident = d.ident) : ∀ p ∈ t.plans, p.Obeys ds (above ++ [d]) := by
  refine ancestry_induction resolver (Q := fun above d t => ∀ p ∈ t.plans, p.Obeys ds (above ++ [d]))
    ?_ ?_ h hd ht hident
  · intro t ht d hd hident hplans p hp
    rw [plans_eq resolver ds ht, hplans, List.nil_append] at hp
    exact obeys_of_own resolver hd (by simp) (compiledTo_of_ident resolver ht hd hident) hp
  · intro l above e d hl _ _ hd hident hancestry hplans ih p hp
    have hlevel := compiledTo_of_ident resolver hl.heir hd hident
    rw [plans_eq resolver ds hl.heir, hplans] at hp
    rcases List.mem_append.mp hp with hp | hp
    · obtain ⟨q, hq, rfl⟩ := List.mem_map.mp hp
      exact (ih q hq).inherit (hlevel.mode ▸ isMutable_of_mem_merge hd)
    · -- an own plan starts afresh, since no type above has the name of this one
      refine obeys_of_own resolver hd (fun hmem => ?_) hlevel hp
      obtain ⟨u, hu, hname⟩ := List.mem_map.mp hmem
      exact hancestry.ident_ne hd u hu hname

/-- A type has setters for its valid plans that may be written, and stubs of setters at most for invalid
ones that may be written. -/
theorem setters_eq {t : DataType} (ht : t ∈ (ofDecls resolver ds).types) :
    ∃ d ∈ (merge ds).1, t.ident = d.ident ∧
      ∃ above, (∀ chain, Ancestry (merge ds).1 chain d ↔ chain = above) ∧
        (∀ p ∈ t.plans, p.origin ∈ (above ++ [d]).map (·.ident)) ∧
        ∀ policy,
          (AccessorSet.ofType t policy).setters =
              (t.plans.filter fun p => p.valid && p.mayBeWritten ds (above ++ [d])).map
                (·.setter t.ident false) ∧
            (∀ a ∈ (AccessorSet.ofType t policy).members, a.isSetter = true → ∃ p ∈ t.plans,
              p.mayBeWritten ds (above ++ [d]) = true ∧ a = p.setter t.ident (!p.valid)) ∧
            (declaredMutable ds t.ident = false →
              ∀ a ∈ (AccessorSet.ofType t policy).members, a.isSetter = false) := by
  obtain ⟨d, hd, hident, above, hchain⟩ := exists_chain resolver ht
  have hplans := obeys_of_mem resolver ((hchain above).mpr rfl) hd ht hident
  refine ⟨d, hd, hident, above, hchain, fun p hp => (hplans p hp).origin, fun policy => ?_⟩
  have hsetter : ∀ a ∈ (AccessorSet.ofType t policy).members, a.isSetter = true → ∃ p ∈ t.plans,
      p.mayBeWritten ds (above ++ [d]) = true ∧ a = p.setter t.ident (!p.valid) := by
    intro a ha hset
    obtain ⟨p, hp, hap⟩ := DataType.exists_plan_of_mem ha
    rcases mem_accessors.mp hap with rfl | ⟨hwritable, rfl⟩
    · rw [isSetter_getter] at hset
      cases hset
    · exact ⟨p, hp, (hplans p hp).writable ▸ hwritable, rfl⟩
  refine ⟨?_, hsetter, fun himmutable a ha => ?_⟩
  · rw [AccessorSet.setters_ofType, DataType.validPlans, List.filter_filter]
    refine congrArg _ (List.filter_congr fun p hp => ?_)
    rw [← (hplans p hp).writable, Bool.and_comm]
  · by_contra hset
    obtain ⟨p, hp, hmay, -⟩ := hsetter a ha (by simpa using hset)
    have := declaredMutable_of_mayBeWritten hmay (hplans p hp).origin
    rw [← hident, himmutable] at this
    cases this

open Example in
/-- An archmage may be changed, but not the name of the hero that a wizard has lost hold of. -/
theorem setters_eq_archmage :
    let ds := [hero, wizard, archmage]
    ∃ t ∈ (ofDecls (fun _ _ => .resolved) ds).types,
      t.plans.map (·.backing.value.name) = ["_name", "_mana", "_staff"] ∧
        (AccessorSet.ofType t .stub).setterNames = ["Staff"] ∧
        ∃ chain, (AccessorSet.ofType t .stub).setters =
          (t.plans.filter fun p => p.valid && p.mayBeWritten ds chain).map (·.setter t.ident false) := by
  intro ds
  have ht : ∃ t ∈ (ofDecls (fun _ _ => .resolved) ds).types,
      t.plans.map (·.backing.value.name) = ["_name", "_mana", "_staff"] ∧
        (AccessorSet.ofType t .stub).setterNames = ["Staff"] := by
    decide +kernel
  obtain ⟨t, ht, hnames, hsetters⟩ := ht
  obtain ⟨d, -, -, above, -, -, h⟩ := setters_eq _ ht
  exact ⟨t, ht, hnames, hsetters, above ++ [d], (h .stub).1⟩

end Run

end AccessorSchema
