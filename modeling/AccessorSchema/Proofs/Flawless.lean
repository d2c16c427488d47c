import AccessorSchema.Proofs.Exposure

/-! # Runs without reports

Where nothing is reported, everything is as declared: every type has the base that it names
(`exists_link_of_flawless`) and the plans of its members just as they were classified, none of which
breaks a rule (`exists_decl_of_flawless`).  All plans are valid (`valid_of_flawless`), and no two plans
of a type are stored under one name (`nodup_backing_of_flawless`). -/

namespace AccessorSchema

open TypeDecl FieldPlan

/-! ### Checks that report nothing -/

namespace DataType

/-- Checks on names that report nothing change nothing. -/
theorem checkNames_of_unreported {owner : Ident} {seen : List (String × Ident)} {plans : List FieldPlan}
    (h : (checkNames owner seen plans).2 = []) : (checkNames owner seen plans).1 = plans := by
  induction plans generalizing seen with
  | nil => rfl
  | cons p rest ih =>
      cases hl : seen.lookup p.name.exposed with
      | none =>
          rw [checkNames_of_new hl] at h ⊢
          rw [ih h]
      | some first =>
          cases hp : p.isInheritedBy owner with
          | false =>
              rw [checkNames_of_duplicate hl hp] at h
              cases h
          | true =>
              rw [checkNames_of_inherited hl hp] at h ⊢
              rw [ih h]

/-- Checks that report nothing change nothing. -/
theorem validate_of_unreported {t : DataType} (h : t.validated = false) (hnone : t.validate.2 = []) :
    t.validate.1.plans = t.plans ∧
      ∀ p ∈ t.plans, p.isInheritedBy t.ident = false → p.reports t.ident t.mode = [] := by
  rw [validate_reports h, List.append_eq_nil_iff] at hnone
  obtain ⟨hreports, hnames⟩ := hnone
  have hown : ∀ p ∈ t.plans, p.isInheritedBy t.ident = false → p.reports t.ident t.mode = [] := by
    intro p hp hown
    rw [List.eq_nil_iff_forall_not_mem]
    intro e he
    have := mem_planReports.mpr ⟨p, hp, hown, he⟩
    rw [hreports] at this
    cases this
  have hchecked : t.plans.map (·.checked t.ident t.mode) = t.plans := by
    conv_rhs => rw [← List.map_id t.plans]
    refine List.map_congr_left fun p hp => ?_
    cases hin : p.isInheritedBy t.ident with
    | true => exact checked_of_inherited hin
    | false =>
        have hfault : p.isFaulty t.ident t.mode = false := by
          by_contra hfaulty
          obtain ⟨e, he, -⟩ := isFaulty_iff.mp (by simpa using hfaulty)
          rw [hown p hp hin] at he
          cases he
        rw [checked_of_own hin, hfault, Bool.not_false, Bool.and_true]
        rfl
  rw [hchecked] at hnames
  exact ⟨by rw [validate_plans h, hchecked, checkNames_of_unreported hnames], hown⟩

end DataType

theorem BaseState.usable_of_unreported {d : TypeDecl} {c : Bool} {known : List DataType} {y : Ident}
    (hy : d.baseName? = some y) (h : (ofDecl d c known).report? = none) :
    ∃ ref base, ofDecl d c known = .usable ref base := by
  cases hstate : ofDecl d c known with
  | absent =>
      unfold ofDecl at hstate
      split at hstate
      · rename_i hbase
        simp [baseName?, hbase] at hy
      · split at hstate <;> cases hstate
  | faulty report => simp [hstate, report?] at h
  | usable ref base => exact ⟨ref, base, rfl⟩

/-! ### Runs -/

namespace Run

variable (resolver : Resolver) {ds : List TypeDecl} (h : (ofDecls resolver ds).diagnostics = [])

include h

theorem diagnostics_of_flawless {s : Step} (hs : s ∈ (ofDecls resolver ds).steps) :
    s.diagnostics = [] :=
  List.flatMap_eq_nil_iff.mp (List.append_eq_nil_iff.mp h).2 s hs

/-- Without reports every type inherits from the base it names. -/
theorem exists_link_of_flawless {d : TypeDecl} (hd : d ∈ (merge ds).1) {y : Ident}
    (hy : d.baseName? = some y) :
    ∃ l : Link, l.IsIn (ofDecls resolver ds).types ∧ l.heir.ident = d.ident ∧ l.base.ident = y ∧
      l.heir.inheritedPlans = l.base.plans.map l.inherit := by
  obtain ⟨s, hs, hident⟩ := exists_step resolver ds (x := d.ident)
    (names_merge ds ▸ List.mem_map_of_mem hd)
  have hreport := (List.append_eq_nil_iff.mp (diagnostics_of_flawless resolver h hs)).1
  obtain ⟨pre, post, hsplit⟩ := List.append_of_mem hs
  have hlink := link_of_split resolver ds hsplit
  obtain ⟨e, he, c, -, hse, -⟩ := steps_split resolver ds hsplit
  obtain rfl : e = d := eq_of_ident_eq (nodup_merge ds) he hd (by rw [← hident, hse, Step.compile_ident])
  have hreport : (BaseState.ofDecl e c (pre.map (·.data))).report? = none := by
    rw [hse] at hreport
    exact Option.toList_eq_nil_iff.mp hreport
  obtain ⟨ref, base, hstate⟩ := BaseState.usable_of_unreported hy hreport
  have hbase : s.data.base = some ref := by rw [hse, Step.compile_base, hstate]; rfl
  rcases hlink with ⟨hnone, -⟩ | ⟨l, hl, hheir, -, hplans⟩
  · rw [hbase] at hnone
    cases hnone
  · refine ⟨l, hl, by rw [hheir, hident], ?_, hheir ▸ hplans⟩
    have href := hl.ref
    rw [hheir, hbase] at href
    obtain ⟨-, -, hname, -⟩ := BaseState.of_usable hstate
    rw [hl.ident, ← Option.some.inj href]
    exact Option.some.inj (hname.symm.trans hy)

/-- The own plans of a type are those of its members as classified, and break no rule. -/
theorem exists_decl_of_flawless {t : DataType} (ht : t ∈ (ofDecls resolver ds).types) :
    ∃ d ∈ (merge ds).1, t.ident = d.ident ∧ t.ownPlans = d.members.map (·.classify resolver d.ident d.mode) ∧
      ∀ p ∈ t.ownPlans, p.reports t.ident t.mode = [] := by
  obtain ⟨s, hs, rfl⟩ := List.mem_map.mp ht
  have hnone := (List.append_eq_nil_iff.mp (diagnostics_of_flawless resolver h hs)).2
  obtain ⟨d, hd, c, known, rfl, hnew⟩ := exists_compile resolver ds hs
  obtain ⟨hplans, -⟩ := Step.plans_compile resolver c hnew
  obtain ⟨hsame, hreports⟩ := DataType.validate_of_unreported (t := DataType.resolve d _ _) rfl hnone
  have hmerged : (Step.compile resolver d c known).data.plans =
      DataType.inherited d.mode (BaseState.ofDecl d c known) ++
        d.members.map (·.classify resolver d.ident d.mode) := hsame
  have hown : (Step.compile resolver d c known).data.ownPlans =
      d.members.map (·.classify resolver d.ident d.mode) :=
    List.append_cancel_left (hplans.symm.trans hmerged)
  refine ⟨d, hd, Step.compile_ident resolver d c known, hown, fun p hp => ?_⟩
  rw [Step.compile_ident, Step.compile_mode]
  rw [hown] at hp
  exact hreports p (List.mem_append_right _ hp) (Step.isInheritedBy_of_mem_classify resolver hp)

/-- Without reports all plans are valid. -/
theorem valid_of_flawless {t : DataType} (ht : t ∈ (ofDecls resolver ds).types) {q : FieldPlan}
    (hq : q ∈ t.plans) : q.valid = true := by
  obtain ⟨a, links, p, hdown⟩ := exists_handedDown resolver ds t ht q hq
  obtain ⟨d, -, -, hown, hreports⟩ := exists_decl_of_flawless resolver h hdown.ancestor
  have hp := hdown.own
  have hnone := hreports p hp
  rw [hown] at hp
  obtain ⟨m, -, rfl⟩ := List.mem_map.mp hp
  rw [hdown.valid_eq]
  show (m.classify resolver d.ident d.mode).unresolved.isEmpty = true
  by_contra hunresolved
  rw [Bool.not_eq_true] at hunresolved
  obtain ⟨e, he, -⟩ := isFaulty_iff.mp (isFaulty_of_unresolved hunresolved)
  rw [hnone] at he
  cases he

/-- Without reports no two plans of a type are stored under one name. -/
theorem nodup_backing_of_flawless {t : DataType} (ht : t ∈ (ofDecls resolver ds).types) :
    (t.plans.map (·.backing.value)).Nodup := by
  have hall : t.validPlans = t.plans :=
    List.filter_eq_self.mpr fun q hq => valid_of_flawless resolver h ht hq
  exact hall ▸ nodup_backing resolver ht

end Run

end AccessorSchema
