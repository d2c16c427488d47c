import AccessorSchema.Proofs.Lineage
import AccessorSchema.Proofs.Locality

/-! # What is invalid was reported

A plan ends invalid exactly when something other than its write policy was reported for its member:
first among the plans that a type declares (`DataType.valid_iff_unreported`), where the checks are made,
then in a whole run (`Run.valid_iff_unreported`), since plans are handed down as valid as they are and
no other report has the symbol of the member.  Members of one declaration have to differ in name for
that, or a report could be about another one. -/

namespace AccessorSchema

open TypeDecl FieldPlan

namespace FieldPlan

/-- Members of a type that have one symbol have one name. -/
theorem backing_eq_of_symbol {owner : Ident} {p q : FieldPlan} (h : p.symbol owner = q.symbol owner) :
    p.backing.value = q.backing.value := by
  refine Ident.text_inj (String.toList_inj.mp ?_)
  have hlist := congrArg String.toList h
  simpa [symbol, String.toList_append] using hlist

/-- The symbol of a member is not that of a type. -/
theorem symbol_ne_text {owner : Ident} (x : Ident) (p : FieldPlan) : p.symbol owner ≠ x.text := by
  intro h
  refine x.dot_notMem_text ?_
  rw [← h, symbol]
  simp [String.toList_append]

end FieldPlan

/-! ### One type -/

namespace DataType

variable {t : DataType} (h : t.validated = false)

include h

/-- For a valid plan only its policy is reported: no other plan has its symbol. -/
theorem rule_of_valid (hn : (t.validate.1.ownPlans.map (·.symbol t.ident)).Nodup) {q : FieldPlan}
    (hq : q ∈ t.validate.1.ownPlans) (hv : q.valid = true) {e : Diagnostic} (he : e ∈ t.validate.2)
    (hsymbol : e.symbol = q.symbol t.ident) : e.rule = .policyOnImmutable := by
  have hsame : ∀ u ∈ t.validate.1.ownPlans, u.symbol t.ident = q.symbol t.ident → u = q :=
    fun u hu => List.inj_on_of_nodup_map hn hu hq
  rw [validate_reports h, List.mem_append, mem_planReports] at he
  rcases he with ⟨p, hp, hown, he⟩ | he
  · obtain ⟨u, hu, hjudged⟩ := exists_judged h hp
    have hu : u ∈ t.validate.1.ownPlans :=
      (mem_ownPlans_validate h).mpr ⟨hu, hjudged.isInheritedBy_eq _ ▸ hown⟩
    have hup : u.symbol t.ident = p.symbol t.ident := by rw [symbol, symbol, hjudged.sameMember.backing]
    obtain rfl := hsame u hu (hup.trans ((symbol_of_mem_reports he).symm.trans hsymbol))
    have hfault := (hjudged.valid hv).2 hown
    by_contra hrule
    rw [isFaulty_iff.mpr ⟨e, he, hrule⟩] at hfault
    cases hfault
  · obtain ⟨-, u, hu, hown, hinvalid, hu'⟩ := exists_of_mem_checkNames he
    rw [← validate_plans h] at hu
    obtain rfl := hsame u ((mem_ownPlans_validate h).mpr ⟨hu, hown⟩) (hu'.symm.trans hsymbol)
    rw [hv] at hinvalid
    cases hinvalid

/-- A plan for which only its policy is reported is valid: it was before the checks, by which it passed. -/
theorem valid_of_unreported
    (hnew : ∀ p ∈ t.plans, p.isInheritedBy t.ident = false → p.valid = p.unresolved.isEmpty)
    {q : FieldPlan} (hq : q ∈ t.validate.1.ownPlans)
    (hunreported : ∀ e ∈ t.validate.2, e.symbol = q.symbol t.ident → e.rule = .policyOnImmutable) :
    q.valid = true := by
  obtain ⟨hq, hqown⟩ := (mem_ownPlans_validate h).mp hq
  rw [validate_plans h] at hq
  rcases mem_checkNames hq with hq | ⟨e, he, hrule, hsymbol⟩
  · obtain ⟨p, hp, rfl⟩ := List.mem_map.mp hq
    have hown : p.isInheritedBy t.ident = false := by
      by_contra hin
      rw [checked_of_inherited (by simpa using hin)] at hqown
      exact hin hqown
    have hfault : p.isFaulty t.ident t.mode = false := by
      by_contra hfaulty
      obtain ⟨e, he, hrule⟩ := isFaulty_iff.mp (by simpa using hfaulty)
      have hreported : e ∈ t.validate.2 :=
        validate_reports h ▸ List.mem_append_left _ (mem_planReports.mpr ⟨p, hp, hown, he⟩)
      refine hrule (hunreported e hreported ?_)
      rw [symbol_of_mem_reports he, checked_of_own hown]
      rfl
    have hresolved : p.valid = true := by
      rw [hnew p hp hown]
      by_contra hunresolved
      rw [isFaulty_of_unresolved (by simpa using hunresolved)] at hfault
      cases hfault
    rw [checked_of_own hown, hresolved, hfault]
    rfl
  · have hpolicy := hunreported e (validate_reports h ▸ List.mem_append_right _ he) hsymbol
    rw [hrule] at hpolicy
    cases hpolicy

end DataType

/-! ### Runs -/

namespace Run

variable (resolver : Resolver) {ds : List TypeDecl}

/-- The own plans of a type store the members of its declaration, in their order. -/
theorem map_backing_ownPlans {d : TypeDecl} {c : Bool} {known : List DataType}
    (hnew : ∀ b ∈ known, ∀ p ∈ b.plans, p.origin ≠ d.ident) :
    (Step.compile resolver d c known).data.ownPlans.map (·.backing) = d.members.map (·.ident) := by
  obtain ⟨-, hjudged⟩ := Step.plans_compile resolver c hnew
  have hbacking := map_eq_of_forall₂ (hjudged.imp fun p q hpq => hpq.sameMember.backing.symm)
  rw [← hbacking, List.map_map]
  rfl

theorem valid_of_mem_classify {d : TypeDecl} {c : Bool} {known : List DataType}
    (hnew : ∀ b ∈ known, ∀ p ∈ b.plans, p.origin ≠ d.ident) {p : FieldPlan}
    (hp : p ∈ (Step.compile resolver d c known).merged.plans) (hown : p.isInheritedBy d.ident = false) :
    p.valid = p.unresolved.isEmpty := by
  rcases List.mem_append.mp hp with hp | hp
  · rw [Step.isInheritedBy_of_mem_inherited c hnew hp] at hown
    cases hown
  · obtain ⟨m, -, rfl⟩ := List.mem_map.mp hp
    rfl

/-- A report with the symbol of a member was made when its type was checked. -/
theorem mem_diagnostics_iff {s : Step} (hs : s ∈ (ofDecls resolver ds).steps) {p : FieldPlan}
    {e : Diagnostic} (hsymbol : e.symbol = p.symbol s.data.ident) :
    e ∈ (ofDecls resolver ds).diagnostics ↔ e ∈ s.violations := by
  constructor
  · intro he
    have habout := mem_about.mpr ⟨he, isAbout_of_symbol hsymbol⟩
    obtain ⟨m, hm⟩ := Option.isSome_iff_exists.mp
      (mergeGroup_isSome.mpr ((map_ident_steps resolver ds).mem_iff.mp (List.mem_map_of_mem hs)))
    rw [about_of_mem resolver hs hm, Step.diagnostics, List.mem_append, List.mem_append] at habout
    rcases habout with he | he | he
    · have htype := symbol_of_mem_mergeGroup hm he
      rw [mergeGroup_ident ds _ hm, hsymbol] at htype
      exact absurd htype (symbol_ne_text s.data.ident p)
    · obtain ⟨d, -, c, -, rfl⟩ := step_eq resolver ds hs
      have htype := BaseState.symbol_of_mem_report? (Option.mem_toList.mp he)
      rw [hsymbol] at htype
      exact absurd htype (symbol_ne_text d.ident p)
    · exact he
  · intro he
    exact List.mem_append_right _ (List.mem_flatMap.mpr ⟨s, hs, List.mem_append_right _ he⟩)

section distinct
variable (hn : ∀ d ∈ (merge ds).1, (d.members.map (·.ident.value)).Nodup)

include hn

/-- The members of a type are stored under different names. -/
theorem nodup_backings {t : DataType} (ht : t ∈ (ofDecls resolver ds).types) :
    (t.ownPlans.map (·.backing.value)).Nodup := by
  obtain ⟨s, hs, rfl⟩ := List.mem_map.mp ht
  obtain ⟨d, hd, c, known, rfl, hnew⟩ := exists_compile resolver ds hs
  have hbacking := congrArg (List.map (·.value)) (map_backing_ownPlans (c := c) resolver hnew)
  simp only [List.map_map, Function.comp_def] at hbacking
  exact hbacking ▸ hn d hd

/-- The members of a type have different symbols. -/
theorem nodup_symbols {s : Step} (hs : s ∈ (ofDecls resolver ds).steps) :
    (s.data.ownPlans.map (·.symbol s.data.ident)).Nodup := by
  have hnodup := nodup_backings resolver hn (List.mem_map_of_mem hs)
  obtain ⟨d, hd, c, known, rfl, hnew⟩ := exists_compile resolver ds hs
  refine List.Nodup.map_on (fun p hp q hq hpq => ?_) (hnodup.of_map _)
  exact List.inj_on_of_nodup_map hnodup hp hq (backing_eq_of_symbol hpq)

/-- A plan of a run is valid if and only if nothing but its policy was reported for its member. -/
theorem valid_iff_unreported {t : DataType} (ht : t ∈ (ofDecls resolver ds).types) {q : FieldPlan}
    (hq : q ∈ t.plans) :
    q.valid = true ↔ ∀ e ∈ (ofDecls resolver ds).diagnostics,
      e.symbol = q.symbol q.origin → e.rule = .policyOnImmutable := by
  obtain ⟨a, links, p, hdown⟩ := exists_handedDown resolver ds t ht q hq
  obtain ⟨s, hs, rfl⟩ := List.mem_map.mp hdown.ancestor
  have hsymbol : q.symbol q.origin = p.symbol s.data.ident := by
    rw [hdown.origin_eq, symbol, symbol, hdown.sameMember.backing]
  have hreported : ∀ e : Diagnostic, e.symbol = p.symbol s.data.ident →
      (e ∈ (ofDecls resolver ds).diagnostics ↔ e ∈ s.violations) :=
    fun e he => mem_diagnostics_iff resolver hs he
  have hn := nodup_symbols resolver hn hs
  have hp := hdown.own
  rw [hdown.valid_eq, hsymbol]
  obtain ⟨d, -, c, known, rfl, hnew⟩ := exists_compile resolver ds hs
  rw [Step.compile_ident] at hn hreported ⊢
  constructor
  · intro hv e he hsym
    exact DataType.rule_of_valid (t := DataType.resolve d _ _) rfl hn hp hv ((hreported e hsym).mp he) hsym
  · intro hall
    refine DataType.valid_of_unreported (t := DataType.resolve d _ _) rfl
      (fun p hp => valid_of_mem_classify resolver hnew hp) hp fun e he hsym => ?_
    exact hall e ((hreported e hsym).mpr he) hsym

end distinct

end Run

end AccessorSchema
