import AccessorSchema.Compilation.Validate
import Mathlib.Data.List.Forall2

/-! # What the checks on a type do to its plans

Checking leaves the plans of a type in their places and may only declare some of its own invalid
(`forall₂_judged`); one that stays valid broke no rule.  Those left valid pass the checks again
without another one getting lost, whatever was invalid among them: `checkNames_validPlans` for the
names alone, `validate_surviving` for the whole. -/

namespace AccessorSchema

/-- What stands in lists that correspond has a counterpart. -/
theorem exists_mem_of_forall₂ {α β : Type} {R : α → β → Prop} {l : List α} {l' : List β}
    (h : List.Forall₂ R l l') : (∀ a ∈ l, ∃ b ∈ l', R a b) ∧ ∀ b ∈ l', ∃ a ∈ l, R a b := by
  induction h with
  | nil => simp
  | cons hab _ ih => simpa [hab] using ⟨fun a ha => .inr (ih.1 a ha), fun b hb => .inr (ih.2 b hb)⟩

/-- A list corresponds to its image. -/
theorem forall₂_map_of_mem {α β : Type} {R : α → β → Prop} {f : α → β} {l : List α}
    (h : ∀ a ∈ l, R a (f a)) : List.Forall₂ R l (l.map f) :=
  List.forall₂_map_right_iff.mpr (List.forall₂_same.mpr h)

/-- Lists that correspond have the same images, if what corresponds has. -/
theorem map_eq_of_forall₂ {α β γ : Type} {f : α → γ} {g : β → γ} {l : List α} {l' : List β}
    (h : List.Forall₂ (fun a b => f a = g b) l l') : l.map f = l'.map g := by
  induction h with
  | nil => rfl
  | cons hab _ ih => rw [List.map_cons, List.map_cons, hab, ih]

namespace FieldPlan

/-- `q` is what the checks on a type make of the plan `p`. -/
structure Judged (owner : Ident) (mode : Mode) (p q : FieldPlan) : Prop where
  same : q = { p with valid := q.valid }
  inherited : p.isInheritedBy owner = true → q = p
  valid : q.valid = true → p.valid = true ∧ (p.isInheritedBy owner = false → p.isFaulty owner mode = false)

variable {owner : Ident} {mode : Mode} {p q : FieldPlan}

theorem Judged.eq_of_valid (h : Judged owner mode p q) (hv : q.valid = true) : q = p := by
  have hsame := h.same
  rwa [hv, ← (h.valid hv).1] at hsame

theorem Judged.origin_eq (h : Judged owner mode p q) : q.origin = p.origin := by rw [h.same]

theorem Judged.isInheritedBy_eq (h : Judged owner mode p q) (x : Ident) :
    q.isInheritedBy x = p.isInheritedBy x := by
  rw [isInheritedBy, isInheritedBy, h.origin_eq]

theorem setValid_eq {v : Bool} (h : p.valid = v) : { p with valid := v } = p := by rw [← h]

theorem checked_of_inherited (h : p.isInheritedBy owner = true) : p.checked owner mode = p := by
  simp [checked, h]

theorem checked_of_own (h : p.isInheritedBy owner = false) :
    p.checked owner mode = { p with valid := p.valid && !p.isFaulty owner mode } := by
  simp [checked, h]

/-- A plan without faults is reported for its policy only. -/
theorem reports_of_not_faulty (h : p.isFaulty owner mode = false) :
    p.reports owner mode = p.policyReports owner mode := by
  unfold isFaulty at h
  simp only [Bool.or_eq_false_iff, Bool.not_eq_false', List.isEmpty_iff] at h
  simp [reports, h.1.1, h.1.2, h.2]

theorem of_mem_policyReports {e : Diagnostic} (h : e ∈ p.policyReports owner mode) :
    e.symbol = p.symbol owner ∧ e.rule = .policyOnImmutable := by
  unfold policyReports at h
  split at h
  · rw [List.mem_singleton.mp h]
    exact ⟨rfl, rfl⟩
  · cases h

theorem of_mem_unresolvedReports {e : Diagnostic} (h : e ∈ p.unresolvedReports owner) :
    e.symbol = p.symbol owner ∧ (e.rule = .unresolvedField ∨ e.rule = .unresolvedProperty) := by
  obtain ⟨u, -, rfl⟩ := List.mem_map.mp h
  refine ⟨rfl, ?_⟩
  dsimp only
  split
  · exact .inl rfl
  · exact .inr rfl

theorem of_mem_privacyReports {e : Diagnostic} (h : e ∈ p.privacyReports owner mode) :
    e.symbol = p.symbol owner ∧ (e.rule = .publicField ∨ e.rule = .publicSetter) := by
  unfold privacyReports at h
  split at h
  · cases h
  · split at h
    all_goals
      first
      | cases h
      | split at h
        · cases h
        · rw [List.mem_singleton.mp h]
          simp

theorem of_mem_keyedReports {e : Diagnostic} (h : e ∈ p.keyedReports owner) :
    e.symbol = p.symbol owner ∧ e.rule = .keyedMapping := by
  unfold keyedReports at h
  split at h
  · rw [List.mem_singleton.mp h]
    exact ⟨rfl, rfl⟩
  · cases h

/-- All reports about a plan have its symbol. -/
theorem symbol_of_mem_reports {e : Diagnostic} (h : e ∈ p.reports owner mode) :
    e.symbol = p.symbol owner := by
  unfold reports at h
  simp only [List.mem_append] at h
  rcases h with ((h | h) | h) | h
  · exact (of_mem_unresolvedReports h).1
  · exact (of_mem_policyReports h).1
  · exact (of_mem_privacyReports h).1
  · exact (of_mem_keyedReports h).1

/-- A plan is faulty when something but its policy is reported. -/
theorem isFaulty_iff :
    p.isFaulty owner mode = true ↔ ∃ e ∈ p.reports owner mode, e.rule ≠ .policyOnImmutable := by
  have hexists : ∀ {l : List Diagnostic}, (!l.isEmpty) = true ↔ ∃ e, e ∈ l := by
    intro l
    cases l <;> simp
  unfold isFaulty reports
  rw [Bool.or_eq_true, Bool.or_eq_true, hexists, hexists, hexists]
  simp only [List.mem_append]
  constructor
  · rintro ((⟨e, he⟩ | ⟨e, he⟩) | ⟨e, he⟩)
    · refine ⟨e, .inl (.inl (.inl he)), ?_⟩
      rcases (of_mem_unresolvedReports he).2 with h | h <;> simp [h]
    · refine ⟨e, .inl (.inr he), ?_⟩
      rcases (of_mem_privacyReports he).2 with h | h <;> simp [h]
    · exact ⟨e, .inr he, by simp [(of_mem_keyedReports he).2]⟩
  · rintro ⟨e, ((he | he) | he) | he, hrule⟩
    · exact .inl (.inl ⟨e, he⟩)
    · exact absurd (of_mem_policyReports he).2 hrule
    · exact .inl (.inr ⟨e, he⟩)
    · exact .inr ⟨e, he⟩

/-- References that did not resolve make a plan faulty. -/
theorem isFaulty_of_unresolved (h : p.unresolved.isEmpty = false) : p.isFaulty owner mode = true := by
  have hreports : (p.unresolvedReports owner).isEmpty = false := by
    rw [unresolvedReports, List.isEmpty_map, h]
  simp [isFaulty, hreports]

end FieldPlan

namespace DataType

open FieldPlan

theorem mem_ownPlans {t : DataType} {q : FieldPlan} :
    q ∈ t.ownPlans ↔ q ∈ t.plans ∧ q.isInheritedBy t.ident = false := by
  rw [ownPlans, List.mem_filter, Bool.not_eq_true']

theorem mem_inheritedPlans {t : DataType} {q : FieldPlan} :
    q ∈ t.inheritedPlans ↔ q ∈ t.plans ∧ q.isInheritedBy t.ident = true := by
  rw [inheritedPlans, List.mem_filter]

/-! ### Names -/

section names
variable {owner : Ident} {seen : List (String × Ident)} {p : FieldPlan} {rest : List FieldPlan}

theorem checkNames_of_new (h : seen.lookup p.name.exposed = none) :
    checkNames owner seen (p :: rest) =
      (p :: (checkNames owner (seen ++ [(p.name.exposed, p.origin)]) rest).1,
        (checkNames owner (seen ++ [(p.name.exposed, p.origin)]) rest).2) := by
  simp [checkNames, firstOrigin?, h]

theorem checkNames_of_inherited {first : Ident} (h : seen.lookup p.name.exposed = some first)
    (hp : p.isInheritedBy owner = true) :
    checkNames owner seen (p :: rest) =
      (p :: (checkNames owner seen rest).1, (checkNames owner seen rest).2) := by
  simp [checkNames, firstOrigin?, h, hp]

theorem checkNames_of_duplicate {first : Ident} (h : seen.lookup p.name.exposed = some first)
    (hp : p.isInheritedBy owner = false) :
    checkNames owner seen (p :: rest) =
      ({ p with valid := false } :: (checkNames owner seen rest).1,
        ⟨.duplicateAccessor, p.symbol owner, [owner.text, p.name.exposed, first.text],
          p.backing.span⟩ :: (checkNames owner seen rest).2) := by
  simp [checkNames, firstOrigin?, h, hp]

theorem lookup_snoc_eq_none {x y : String} {origin : Ident} :
    (seen ++ [(y, origin)]).lookup x = none ↔ seen.lookup x = none ∧ x ≠ y := by
  rw [List.lookup_append, Option.or_eq_none_iff]
  refine and_congr_right fun _ => ?_
  by_cases h : x = y
  · simp [h]
  · simp [List.lookup_cons, beq_eq_false_iff_ne.mpr h, h]

theorem forall₂_checkNames (owner : Ident) (seen : List (String × Ident)) (plans : List FieldPlan) :
    List.Forall₂ (fun p q => q = p ∨ p.isInheritedBy owner = false ∧ q = { p with valid := false })
      plans (checkNames owner seen plans).1 := by
  induction plans generalizing seen with
  | nil => exact .nil
  | cons p rest ih =>
      cases h : seen.lookup p.name.exposed with
      | none => exact checkNames_of_new h ▸ .cons (.inl rfl) (ih _)
      | some first =>
          cases hp : p.isInheritedBy owner with
          | true => exact checkNames_of_inherited h hp ▸ .cons (.inl rfl) (ih _)
          | false => exact checkNames_of_duplicate h hp ▸ .cons (.inr ⟨hp, rfl⟩) (ih _)

/-- A plan behind the checks on names is one that was there before, or was reported. -/
theorem mem_checkNames {q : FieldPlan} {plans : List FieldPlan} (h : q ∈ (checkNames owner seen plans).1) :
    q ∈ plans ∨ ∃ e ∈ (checkNames owner seen plans).2,
      e.rule = .duplicateAccessor ∧ e.symbol = q.symbol owner := by
  induction plans generalizing seen with
  | nil => cases h
  | cons p rest ih =>
      have hlater : ∀ {seen}, q ∈ (checkNames owner seen rest).1 → q ∈ p :: rest ∨
          ∃ e ∈ (checkNames owner seen rest).2, e.rule = .duplicateAccessor ∧ e.symbol = q.symbol owner :=
        fun hq => (ih hq).imp_left (List.mem_cons_of_mem _)
      cases hl : seen.lookup p.name.exposed with
      | none =>
          rw [checkNames_of_new hl] at h ⊢
          rcases List.mem_cons.mp h with rfl | h
          · exact .inl List.mem_cons_self
          · exact hlater h
      | some first =>
          cases hp : p.isInheritedBy owner with
          | true =>
              rw [checkNames_of_inherited hl hp] at h ⊢
              rcases List.mem_cons.mp h with rfl | h
              · exact .inl List.mem_cons_self
              · exact hlater h
          | false =>
              rw [checkNames_of_duplicate hl hp] at h ⊢
              rcases List.mem_cons.mp h with rfl | h
              · exact .inr ⟨_, List.mem_cons_self, rfl, rfl⟩
              · refine (hlater h).imp_right ?_
                rintro ⟨e, he, hreport⟩
                exact ⟨e, List.mem_cons_of_mem _ he, hreport⟩

/-- Names that were new stay new when other plans are left out, so a plan left valid is no
duplicate among those left valid. -/
theorem checkNames_validPlans (owner : Ident) {seen seen' : List (String × Ident)}
    (plans : List FieldPlan) (h : ∀ x, seen.lookup x = none → seen'.lookup x = none) :
    checkNames owner seen' ((checkNames owner seen plans).1.filter (·.valid)) =
      ((checkNames owner seen plans).1.filter (·.valid), []) := by
  induction plans generalizing seen seen' with
  | nil => rfl
  | cons p rest ih =>
      cases hl : seen.lookup p.name.exposed with
      | none =>
          rw [checkNames_of_new hl]
          by_cases hv : p.valid = true
          · rw [List.filter_cons_of_pos hv, checkNames_of_new (h _ hl), ih]
            intro x hx
            rw [lookup_snoc_eq_none] at hx ⊢
            exact ⟨h x hx.1, hx.2⟩
          · rw [List.filter_cons_of_neg hv]
            exact ih fun x hx => h x (lookup_snoc_eq_none.mp hx).1
      | some first =>
          cases hp : p.isInheritedBy owner with
          | false =>
              rw [checkNames_of_duplicate hl hp, List.filter_cons_of_neg (by simp)]
              exact ih h
          | true =>
              rw [checkNames_of_inherited hl hp]
              by_cases hv : p.valid = true
              · rw [List.filter_cons_of_pos hv]
                cases hl' : seen'.lookup p.name.exposed with
                | some first' => rw [checkNames_of_inherited hl' hp, ih h]
                | none =>
                    rw [checkNames_of_new hl', ih]
                    intro x hx
                    refine lookup_snoc_eq_none.mpr ⟨h x hx, ?_⟩
                    rintro rfl
                    rw [hl] at hx
                    cases hx
              · rw [List.filter_cons_of_neg hv]
                exact ih h

end names

/-! ### All checks -/

variable {t : DataType}

theorem validate_plans (h : t.validated = false) :
    t.validate.1.plans = (checkNames t.ident [] (t.plans.map (·.checked t.ident t.mode))).1 := by
  simp [validate, h]

/-- The checks judge the plans of a type one by one. -/
theorem forall₂_judged (h : t.validated = false) :
    List.Forall₂ (Judged t.ident t.mode) t.plans t.validate.1.plans := by
  have hnames := forall₂_checkNames t.ident [] (t.plans.map (·.checked t.ident t.mode))
  rw [← validate_plans h, List.forall₂_map_left_iff] at hnames
  refine hnames.imp fun p q hq => ?_
  cases hp : p.isInheritedBy t.ident with
  | true =>
      rw [checked_of_inherited hp] at hq
      rcases hq with rfl | ⟨hown, -⟩
      · exact ⟨rfl, fun _ => rfl, fun hv => ⟨hv, fun hown => by rw [hp] at hown; cases hown⟩⟩
      · rw [hp] at hown
        cases hown
  | false =>
      rw [checked_of_own hp] at hq
      have hno : ¬p.isInheritedBy t.ident = true := by simp [hp]
      rcases hq with rfl | ⟨-, rfl⟩
      · exact ⟨rfl, fun hin => absurd hin hno, fun hv => by simpa [hp] using hv⟩
      · exact ⟨rfl, fun hin => absurd hin hno, fun hv => by cases hv⟩

theorem judged_of_mem (h : t.validated = false) {q : FieldPlan} (hq : q ∈ t.validate.1.plans) :
    ∃ p ∈ t.plans, Judged t.ident t.mode p q :=
  (exists_mem_of_forall₂ (forall₂_judged h)).2 q hq

theorem exists_judged (h : t.validated = false) {p : FieldPlan} (hp : p ∈ t.plans) :
    ∃ q ∈ t.validate.1.plans, Judged t.ident t.mode p q :=
  (exists_mem_of_forall₂ (forall₂_judged h)).1 p hp

theorem mem_ownPlans_validate (h : t.validated = false) {q : FieldPlan} :
    q ∈ t.validate.1.ownPlans ↔ q ∈ t.validate.1.plans ∧ q.isInheritedBy t.ident = false := by
  have hident : t.validate.1.ident = t.ident := by simp [validate, h]
  rw [mem_ownPlans, hident]

/-- The reports on own plans by themselves, then those on their names. -/
theorem validate_reports (h : t.validated = false) :
    t.validate.2 = planReports t.ident t.mode t.plans ++
      (checkNames t.ident [] (t.plans.map (·.checked t.ident t.mode))).2 := by
  simp [validate, h]

theorem mem_planReports {owner : Ident} {mode : Mode} {plans : List FieldPlan} {e : Diagnostic} :
    e ∈ planReports owner mode plans ↔
      ∃ p ∈ plans, p.isInheritedBy owner = false ∧ e ∈ p.reports owner mode := by
  rw [planReports, List.mem_flatMap]
  simp only [List.mem_filter, Bool.not_eq_true', and_assoc]

/-- The type with its valid plans only. -/
def surviving (t : DataType) : DataType := { t with plans := t.validPlans }

@[simp] theorem surviving_ident (t : DataType) : t.surviving.ident = t.ident := rfl

/-- Checking what the checks left valid loses nothing, and reports policies only. -/
theorem validate_surviving (h : t.validated = false) :
    ({ t with plans := t.validate.1.validPlans } : DataType).validate =
      (t.validate.1.surviving,
        (t.validate.1.validPlans.filter (!·.isInheritedBy t.ident)).flatMap
          (·.policyReports t.ident t.mode)) := by
  have hjudged : ∀ q ∈ t.validate.1.validPlans, q.valid = true ∧
      (q.isInheritedBy t.ident = false → q.isFaulty t.ident t.mode = false) := by
    intro q hq
    obtain ⟨hq, hv⟩ := List.mem_filter.mp hq
    obtain ⟨p, -, hp⟩ := judged_of_mem h hq
    exact ⟨hv, hp.eq_of_valid hv ▸ (hp.valid hv).2⟩
  have hchecked : t.validate.1.validPlans.map (·.checked t.ident t.mode) = t.validate.1.validPlans := by
    conv_rhs => rw [← List.map_id t.validate.1.validPlans]
    refine List.map_congr_left fun q hq => ?_
    obtain ⟨hv, hfault⟩ := hjudged q hq
    cases hin : q.isInheritedBy t.ident with
    | true => exact checked_of_inherited hin
    | false =>
        rw [checked_of_own hin, hfault hin, hv]
        exact setValid_eq hv
  have hnames : checkNames t.ident [] t.validate.1.validPlans = (t.validate.1.validPlans, []) := by
    unfold validPlans
    rw [validate_plans h]
    exact checkNames_validPlans t.ident _ fun _ hx => hx
  have hreports : planReports t.ident t.mode t.validate.1.validPlans =
      (t.validate.1.validPlans.filter (!·.isInheritedBy t.ident)).flatMap
        (·.policyReports t.ident t.mode) := by
    refine List.flatMap_congr fun q hq => ?_
    obtain ⟨hq, hown⟩ := List.mem_filter.mp hq
    exact reports_of_not_faulty ((hjudged q hq).2 (by simpa using hown))
  have hunfold : ({ t with plans := t.validate.1.validPlans } : DataType).validate =
      ({ t with plans := t.validate.1.validPlans, validated := true },
        planReports t.ident t.mode t.validate.1.validPlans) := by
    rw [validate]
    simp only [h, Bool.false_eq_true, if_false, hchecked, hnames, List.append_nil]
  have hdata : t.validate.1.surviving =
      { t with plans := t.validate.1.validPlans, validated := true } := by
    simp [surviving, validate, h]
  rw [hunfold, hdata, hreports]

end DataType

end AccessorSchema
