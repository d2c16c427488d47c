import AccessorSchema.Proofs.Steps
import AccessorSchema.Proofs.Verdict

/-! # Where plans come from

Inheriting and checking change what a plan allows and whether it is valid, not which member it is for.
Every plan of a run therefore is the plan of a declared member (`exists_member`), and its names are
those derived from the field behind it (`name_of_mem_types`).  No plan comes from a type compiled later
(`areClosed_of_prefix`), so the origin of a plan tells what is inherited: a step ends with the inherited
plans as they were and a verdict on the plan of each member (`Step.plans_compile`). -/

namespace AccessorSchema

open TypeDecl

namespace FieldPlan

/-- `q` is a plan for the member that `p` is for. -/
structure SameMember (p q : FieldPlan) : Prop where
  backing : q.backing = p.backing
  name : q.name = p.name
  origin : q.origin = p.origin

theorem SameMember.trans {p q u : FieldPlan} (h : SameMember p q) (h' : SameMember q u) :
    SameMember p u :=
  ⟨h'.backing.trans h.backing, h'.name.trans h.name, h'.origin.trans h.origin⟩

theorem Judged.sameMember {owner : Ident} {mode : Mode} {p q : FieldPlan} (h : Judged owner mode p q) :
    SameMember p q := by
  have hsame := h.same
  refine ⟨?_, ?_, ?_⟩
  all_goals rw [hsame]

end FieldPlan

open FieldPlan

theorem DataType.exists_of_mem_inherit {base : DataType} {ref : BaseRef} {mode : Mode} {q : FieldPlan}
    (h : q ∈ base.inherit ref mode) : ∃ p ∈ base.plans, SameMember p q := by
  obtain ⟨p, hp, rfl⟩ := List.mem_map.mp h
  exact ⟨p, hp, rfl, rfl, rfl⟩

/-- A usable base is the type known under the declared name, and takes the arguments given to it. -/
theorem BaseState.of_usable {d : TypeDecl} {c : Bool} {known : List DataType} {ref : BaseRef}
    {base : DataType} (h : BaseState.ofDecl d c known = .usable ref base) :
    base ∈ known ∧ base.ident = ref.ident ∧ d.baseName? = some ref.ident ∧
      base.generics.typeParams.length = ref.args.length := by
  unfold BaseState.ofDecl at h
  split at h
  · cases h
  · rename_i b hb
    split at h
    · rename_i found hcheck
      cases h
      unfold checkBase at hcheck
      split at hcheck
      · cases hcheck
      · split at hcheck
        · cases hcheck
        · rename_i hfound
          split at hcheck
          · rename_i harity
            cases hcheck
            obtain ⟨hmem, hident⟩ := DataType.mem_of_find? hfound
            exact ⟨hmem, hident, by simp [baseName?, hb], by simpa using harity⟩
          · cases hcheck
    · cases h

theorem DataType.exists_of_mem_inherited {d : TypeDecl} {c : Bool} {known : List DataType}
    {q : FieldPlan} (h : q ∈ DataType.inherited d.mode (BaseState.ofDecl d c known)) :
    ∃ b ∈ known, ∃ p ∈ b.plans, SameMember p q := by
  cases hbase : BaseState.ofDecl d c known with
  | absent => simp [hbase, inherited] at h
  | faulty report => simp [hbase, inherited] at h
  | usable ref base =>
      rw [hbase] at h
      exact ⟨base, (BaseState.of_usable hbase).1, exists_of_mem_inherit h⟩

/-- A plan of a type is for one of its members or for what a type before it has a plan for. -/
theorem Step.exists_of_mem_plans {resolver : Resolver} {d : TypeDecl} {c : Bool}
    {known : List DataType} {q : FieldPlan} (h : q ∈ (Step.compile resolver d c known).data.plans) :
    (∃ m ∈ d.members, SameMember (m.classify resolver d.ident d.mode) q) ∨
      ∃ b ∈ known, ∃ p ∈ b.plans, SameMember p q := by
  obtain ⟨p, hp, hjudged⟩ := DataType.judged_of_mem (t := DataType.resolve d _ _) rfl h
  rcases List.mem_append.mp hp with hp | hp
  · obtain ⟨b, hb, o, ho, hsame⟩ := DataType.exists_of_mem_inherited hp
    exact .inr ⟨b, hb, o, ho, hsame.trans hjudged.sameMember⟩
  · obtain ⟨m, hm, rfl⟩ := List.mem_map.mp hp
    exact .inl ⟨m, hm, hjudged.sameMember⟩

/-! ### Own and inherited plans -/

section plans
variable {owner : Ident} {mode : Mode}

/-- Inherited plans stay as they are, before the verdicts on the own ones. -/
theorem FieldPlan.forall₂_judged_append {inherited own judged : List FieldPlan}
    (h : List.Forall₂ (Judged owner mode) (inherited ++ own) judged)
    (hinherited : ∀ p ∈ inherited, p.isInheritedBy owner = true) :
    ∃ own', judged = inherited ++ own' ∧ List.Forall₂ (Judged owner mode) own own' := by
  induction inherited generalizing judged with
  | nil => exact ⟨judged, rfl, h⟩
  | cons p inherited ih =>
      cases h with
      | cons hp hrest =>
          obtain ⟨own', rfl, hown⟩ := ih hrest fun q hq => hinherited q (List.mem_cons_of_mem _ hq)
          rw [hp.inherited (hinherited p List.mem_cons_self)]
          exact ⟨own', rfl, hown⟩

theorem FieldPlan.isInheritedBy_of_forall₂ {own own' : List FieldPlan}
    (h : List.Forall₂ (Judged owner mode) own own') (hown : ∀ p ∈ own, p.isInheritedBy owner = false) :
    ∀ q ∈ own', q.isInheritedBy owner = false := by
  induction h with
  | nil => simp
  | cons hp _ ih =>
      intro q hq
      rcases List.mem_cons.mp hq with rfl | hq
      · rw [hp.isInheritedBy_eq]
        exact hown _ List.mem_cons_self
      · exact ih (fun p hp => hown p (List.mem_cons_of_mem _ hp)) q hq

end plans

namespace Step

variable (resolver : Resolver) {d : TypeDecl} (c : Bool) {known : List DataType}

theorem isInheritedBy_of_mem_inherited (h : ∀ b ∈ known, ∀ p ∈ b.plans, p.origin ≠ d.ident)
    {p : FieldPlan} (hp : p ∈ DataType.inherited d.mode (BaseState.ofDecl d c known)) :
    p.isInheritedBy d.ident = true := by
  obtain ⟨b, hb, q, hq, hsame⟩ := DataType.exists_of_mem_inherited hp
  rw [isInheritedBy, hsame.origin, bne_iff_ne]
  exact h b hb q hq

theorem isInheritedBy_of_mem_classify {p : FieldPlan}
    (hp : p ∈ d.members.map (·.classify resolver d.ident d.mode)) :
    p.isInheritedBy d.ident = false := by
  obtain ⟨m, -, rfl⟩ := List.mem_map.mp hp
  simp [isInheritedBy, MemberDecl.classify, MemberDecl.planNamed]

/-- The plans after a step: what was inherited, and a verdict on the plan of each member. -/
theorem plans_compile (h : ∀ b ∈ known, ∀ p ∈ b.plans, p.origin ≠ d.ident) :
    (compile resolver d c known).data.plans =
        DataType.inherited d.mode (BaseState.ofDecl d c known) ++
          (compile resolver d c known).data.ownPlans ∧
      List.Forall₂ (Judged d.ident d.mode) (d.members.map (·.classify resolver d.ident d.mode))
        (compile resolver d c known).data.ownPlans := by
  have hall : List.Forall₂ (Judged d.ident d.mode)
      (DataType.inherited d.mode (BaseState.ofDecl d c known) ++
        d.members.map (·.classify resolver d.ident d.mode))
      (compile resolver d c known).data.plans :=
    DataType.forall₂_judged (t := DataType.resolve d _ _) rfl
  obtain ⟨own, hplans, hjudged⟩ :=
    forall₂_judged_append hall fun _ hp => isInheritedBy_of_mem_inherited c h hp
  have hown := isInheritedBy_of_forall₂ hjudged fun _ hp => isInheritedBy_of_mem_classify resolver hp
  have hownPlans : (compile resolver d c known).data.ownPlans = own := by
    unfold DataType.ownPlans
    rw [hplans, List.filter_append, compile_ident, List.filter_eq_nil_iff.mpr,
      List.filter_eq_self.mpr, List.nil_append]
    · intro p hp
      rw [hown p hp, Bool.not_false]
    · intro p hp
      rw [isInheritedBy_of_mem_inherited c h hp, Bool.not_true]
      exact Bool.false_ne_true
  exact hownPlans ▸ ⟨hplans, hjudged⟩

end Step

/-- No plan comes from a type that is not there. -/
def DataType.AreClosed (known : List DataType) : Prop :=
  ∀ b ∈ known, ∀ p ∈ b.plans, p.origin ∈ known.map (·.ident)

theorem DataType.AreClosed.snoc {known : List DataType} (h : AreClosed known) (resolver : Resolver)
    (d : TypeDecl) (c : Bool) : AreClosed (known ++ [(Step.compile resolver d c known).data]) := by
  intro b hb p hp
  rw [List.map_append, List.mem_append]
  rcases List.mem_append.mp hb with hb | hb
  · exact .inl (h b hb p hp)
  · obtain rfl := List.mem_singleton.mp hb
    rcases Step.exists_of_mem_plans hp with ⟨m, -, hsame⟩ | ⟨b, hb, q, hq, hsame⟩
    · refine .inr (List.mem_singleton.mpr ?_)
      show p.origin = (Step.compile resolver d c known).data.ident
      rw [Step.compile_ident, hsame.origin]
      rfl
    · rw [hsame.origin]
      exact .inl (h b hb q hq)

/-! ### Runs -/

namespace Run

variable (resolver : Resolver) (ds : List TypeDecl)

/-- Every plan of a run is for a declared member. -/
theorem exists_member {t : DataType} (ht : t ∈ (ofDecls resolver ds).types) {q : FieldPlan}
    (hq : q ∈ t.plans) :
    ∃ d ∈ (merge ds).1, ∃ m ∈ d.members, SameMember (m.classify resolver d.ident d.mode) q := by
  suffices hall : ∀ s ∈ (ofDecls resolver ds).steps, ∀ q ∈ s.data.plans,
      ∃ d ∈ (merge ds).1, ∃ m ∈ d.members, SameMember (m.classify resolver d.ident d.mode) q by
    obtain ⟨s, hs, rfl⟩ := List.mem_map.mp ht
    exact hall s hs q hq
  refine forall_steps resolver ds fun pre s post h ih q hq => ?_
  obtain ⟨d, hd, c, -, rfl, -⟩ := steps_split resolver ds h
  rcases Step.exists_of_mem_plans hq with ⟨m, hm, hsame⟩ | ⟨b, hb, p, hp, hsame⟩
  · exact ⟨d, hd, m, hm, hsame⟩
  · obtain ⟨u, hu, rfl⟩ := List.mem_map.mp hb
    obtain ⟨e, he, m, hm, hsame'⟩ := ih u hu p hp
    exact ⟨e, he, m, hm, hsame'.trans hsame⟩

/-- Accessors are named after the field behind them. -/
theorem name_of_mem_types {t : DataType} (ht : t ∈ (ofDecls resolver ds).types) {q : FieldPlan}
    (hq : q ∈ t.plans) : q.name = .derive q.backing.value := by
  obtain ⟨d, -, m, -, hsame⟩ := exists_member resolver ds ht hq
  rw [hsame.name, hsame.backing]
  rfl

/-- No plan comes from a type that is compiled later. -/
theorem areClosed_of_prefix (pre : List Step) :
    ∀ post, (ofDecls resolver ds).steps = pre ++ post → DataType.AreClosed (pre.map (·.data)) := by
  induction pre using List.reverseRecOn with
  | nil =>
      intro post h b hb
      cases hb
  | append_singleton pre s ih =>
      intro post h
      rw [List.append_assoc, List.singleton_append] at h
      obtain ⟨d, -, c, -, rfl, -⟩ := steps_split resolver ds h
      rw [List.map_append]
      exact (ih _ h).snoc resolver d c

theorem origin_ne_of_split {pre post : List Step} {s : Step}
    (h : (ofDecls resolver ds).steps = pre ++ s :: post) :
    ∀ b ∈ pre.map (·.data), ∀ p ∈ b.plans, p.origin ≠ s.data.ident := by
  intro b hb p hp horigin
  have hn := nodup_steps resolver ds
  rw [h, List.map_append, List.map_cons, List.nodup_append] at hn
  have hmem := areClosed_of_prefix resolver ds pre _ h b hb p hp
  rw [List.map_map] at hmem
  exact hn.2.2 _ hmem _ List.mem_cons_self horigin

/-- A step compiles a declaration that nothing known by then comes from. -/
theorem exists_compile {s : Step} (hs : s ∈ (ofDecls resolver ds).steps) :
    ∃ d ∈ (merge ds).1, ∃ c known, s = Step.compile resolver d c known ∧
      ∀ b ∈ known, ∀ p ∈ b.plans, p.origin ≠ d.ident := by
  obtain ⟨pre, post, h⟩ := List.append_of_mem hs
  have hnew := origin_ne_of_split resolver ds h
  obtain ⟨d, hd, c, -, hs, -⟩ := steps_split resolver ds h
  rw [hs, Step.compile_ident] at hnew
  exact ⟨d, hd, c, pre.map (·.data), hs, hnew⟩

/-- The own plans of a type are the verdicts on its members, in their order. -/
theorem forall₂_ownPlans {d : TypeDecl} (hd : d ∈ (merge ds).1) :
    ∃ t, DataType.find? (ofDecls resolver ds).types d.ident = some t ∧
      List.Forall₂ (Judged d.ident d.mode) (d.members.map (·.classify resolver d.ident d.mode))
        t.ownPlans := by
  obtain ⟨s, hs, hident⟩ := exists_step resolver ds (x := d.ident)
    (names_merge ds ▸ List.mem_map_of_mem hd)
  obtain ⟨e, he, c, known, hse, hnew⟩ := exists_compile resolver ds hs
  obtain rfl : e = d := eq_of_ident_eq (nodup_merge ds) he hd (by rw [← hident, hse, Step.compile_ident])
  obtain ⟨-, hjudged⟩ := Step.plans_compile resolver c hnew
  exact ⟨s.data, hident ▸ find?_types_of_mem resolver ds hs, hse ▸ hjudged⟩

end Run

end AccessorSchema
