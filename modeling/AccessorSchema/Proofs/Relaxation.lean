import AccessorSchema.Proofs.Complaints
import AccessorSchema.Proofs.FailureIsolation
import AccessorSchema.Proofs.Locality
import AccessorSchema.Proofs.Permission

/-! # Making a type mutable

Let a fragment of a type be declared mutable and nothing else be changed (`TypeDecl.MadeMutable`).  Merging
reads modes for nothing but the mode of the type (`merge_modeless`), so one merged declaration changes, in
its mode only.  Compared with the run before, plans become valid or writable and none ceases to be
(`FieldPlan.Relaxes`).  Names are checked whether or not the plans that expose them are valid, which is why a
plan that became valid is no new duplicate anywhere (`DataType.checkNames_relaxed`).  One step goes over to
the other run like that (`Step.relaxes_compile`), hence all steps (`Run.compileAll_relaxed`): what was exposed
still is, and the reports that ask for a mutable type are gone (`Run.relaxed_of_madeMutable`). -/

namespace AccessorSchema

open TypeDecl

/-- The rules that a mutable type cannot break. -/
def Rule.isOnMode : Rule → Bool
  | .policyOnImmutable | .publicField | .publicSetter => true
  | _ => false

example : (Rule.all.filter (·.isOnMode)).map (·.code) = ["DATA_0003", "DATA_0004", "DATA_0005"] := by decide

theorem Rule.isOnMode_of_not_isOnMembers {r : Rule} (h : r.isOnMembers = false) : r.isOnMode = false := by
  cases r <;> first | rfl | cases h

/-- The diagnostic asks for the type of that name to be mutable. -/
def Diagnostic.isOnModeOf (x : Ident) (e : Diagnostic) : Bool := e.owner == x.text && e.rule.isOnMode

/-! ### Modes of fragments -/

namespace TypeDecl

/-- The declaration without its mode. -/
def modeless (d : TypeDecl) : TypeDecl := { d with mode := .immutable }

/-- The declaration of `x` as a mutable one; any other stays. -/
def madeMutable (x : Ident) (d : TypeDecl) : TypeDecl :=
  { d with mode := if d.ident = x then .mutable else d.mode }

/-- The declarations of `ds'` are those of `ds` but for the modes of the fragments of `x`, and make `x`
mutable. -/
structure MadeMutable (x : Ident) (ds ds' : List TypeDecl) : Prop where
  change : List.Forall₂ (fun d d' => d' = { d with mode := d'.mode } ∧ (d.ident ≠ x → d' = d)) ds ds'
  opened : declaredMutable ds' x = true

/-- What is wrong with fragments has to do with their bases. -/
theorem isOnMembers_of_mem_merge {ds : List TypeDecl} {e : Diagnostic} (h : e ∈ (merge ds).2) :
    e.rule.isOnMembers = false := by
  rw [merge_reports] at h
  obtain ⟨x, -, h⟩ := List.mem_flatMap.mp h
  unfold baseConflicts at h
  split at h
  · cases h
  · obtain ⟨other, -, rfl⟩ := List.mem_map.mp h
    rfl

@[simp] theorem madeMutable_ident (x : Ident) (d : TypeDecl) : (d.madeMutable x).ident = d.ident := rfl

@[simp] theorem madeMutable_base (x : Ident) (d : TypeDecl) : (d.madeMutable x).base = d.base := rfl

section modeless
variable (ds : List TypeDecl)

theorem names_modeless : names (ds.map modeless) = names ds := by
  rw [names, names, List.map_map]
  rfl

theorem fragments_modeless (x : Ident) : fragments (ds.map modeless) x = (fragments ds x).map modeless := by
  rw [fragments, List.filter_map]
  rfl

theorem byKey_modeless : byKey (ds.map modeless) = (byKey ds).map modeless := by
  symm
  exact List.map_mergeSort fun _ _ _ _ => rfl

theorem absorbAll_modeless (d : TypeDecl) (fs : List TypeDecl) :
    d.modeless.absorbAll (fs.map modeless) = ((d.absorbAll fs).1.modeless, (d.absorbAll fs).2) := by
  induction fs generalizing d with
  | nil => rfl
  | cons f rest ih =>
      have habsorb : d.modeless.absorb f.modeless = (d.absorb f).modeless := rfl
      rw [List.map_cons, absorbAll, habsorb, ih]
      rfl

theorem mergeGroup_modeless :
    mergeGroup (ds.map modeless) = (mergeGroup ds).map fun m => (m.1.modeless, m.2) := by
  rw [mergeGroup, mergeGroup, byKey_modeless]
  cases byKey ds with
  | nil => rfl
  | cons first later => exact congrArg some (absorbAll_modeless first later)

/-- Modes matter for nothing but modes when fragments are merged. -/
theorem merge_modeless : merge (ds.map modeless) = ((merge ds).1.map modeless, (merge ds).2) := by
  have hgroups : ((names (ds.map modeless)).filterMap fun x => mergeGroup (fragments (ds.map modeless) x)) =
      ((names ds).filterMap fun x => mergeGroup (fragments ds x)).map fun m => (m.1.modeless, m.2) := by
    rw [names_modeless, List.map_filterMap]
    refine List.filterMap_congr fun x _ => ?_
    rw [fragments_modeless, mergeGroup_modeless]
  rw [merge_eq, merge_eq, hgroups, List.map_map, List.map_map, List.flatMap_map]
  rfl

/-- A merged declaration is made of what it is without its mode, and of the modes of its fragments. -/
theorem merge_eq_modeless :
    (merge ds).1 = ((merge ds).1.map modeless).map fun d =>
      { d with mode := .ofBool (declaredMutable ds d.ident) } := by
  rw [List.map_map]
  conv_lhs => rw [← List.map_id (merge ds).1]
  refine List.map_congr_left fun d hd => ?_
  have hmode : d.mode = .ofBool (declaredMutable ds d.ident) := by
    rw [← isMutable_of_mem_merge hd]
    cases d.mode <;> rfl
  show d = { d with mode := .ofBool (declaredMutable ds d.ident) }
  rw [← hmode]

end modeless

namespace MadeMutable

variable {x : Ident} {ds ds' : List TypeDecl}

theorem map_modeless (h : MadeMutable x ds ds') : ds'.map modeless = ds.map modeless := by
  obtain ⟨hchange, -⟩ := h
  induction hchange with
  | nil => rfl
  | @cons d d' _ _ hd _ ih =>
      have hmodeless : d'.modeless = d.modeless := by
        rw [hd.1]
        rfl
      rw [List.map_cons, List.map_cons, ih, hmodeless]

theorem declaredMutable_of_ne (h : MadeMutable x ds ds') {y : Ident} (hy : y ≠ x) :
    declaredMutable ds' y = declaredMutable ds y := by
  obtain ⟨hchange, -⟩ := h
  suffices hsame : fragments ds' y = fragments ds y by rw [declaredMutable, hsame, declaredMutable]
  induction hchange with
  | nil => rfl
  | @cons d d' _ _ hd _ ih =>
      unfold fragments at ih ⊢
      have hident : d'.ident = d.ident := by rw [hd.1]
      rw [List.filter_cons, List.filter_cons, ih, hident]
      by_cases hdy : d.ident = y
      · rw [hd.2 (hdy ▸ hy)]
      · rw [if_neg (by simpa using hdy), if_neg (by simpa using hdy)]

theorem mem_names (h : MadeMutable x ds ds') : x ∈ names ds := by
  obtain ⟨d, hd, -⟩ := List.any_eq_true.mp h.opened
  rw [← names_modeless, ← h.map_modeless, names_modeless]
  exact mem_names_of_mem_fragments hd

/-- Merged, one declaration is mutable now, and the complaints on fragments are the same. -/
theorem merge_eq (h : MadeMutable x ds ds') :
    merge ds' = ((merge ds).1.map (·.madeMutable x), (merge ds).2) := by
  have hmodeless := merge_modeless ds
  rw [← h.map_modeless, merge_modeless ds', Prod.mk.injEq] at hmodeless
  refine Prod.ext ?_ hmodeless.2
  -- without modes the merged declarations are the same, so only their modes are left to compare
  rw [merge_eq_modeless ds', hmodeless.1, List.map_map]
  refine List.map_congr_left fun d hd => ?_
  suffices hmode : Mode.ofBool (declaredMutable ds' d.ident) = if d.ident = x then .mutable else d.mode by
    show { d with mode := .ofBool (declaredMutable ds' d.ident) } = d.madeMutable x
    rw [hmode]
    rfl
  by_cases hx : d.ident = x
  · rw [if_pos hx, hx, h.opened]
    rfl
  · rw [if_neg hx, h.declaredMutable_of_ne hx, ← isMutable_of_mem_merge hd]
    cases d.mode <;> rfl

end MadeMutable

/-- Declaring all fragments mutable is one way. -/
theorem madeMutable_map {x : Ident} {ds : List TypeDecl} (hx : x ∈ names ds) :
    MadeMutable x ds (ds.map (·.madeMutable x)) := by
  refine ⟨forall₂_map_of_mem fun d _ => ⟨rfl, fun hd => ?_⟩, ?_⟩
  · rw [madeMutable, if_neg hd]
  · obtain ⟨d, hd, rfl⟩ := (TypeDecl.mem_names ds x).mp hx
    refine List.any_eq_true.mpr ⟨d.madeMutable d.ident, ?_, by simp [madeMutable, Mode.isMutable]⟩
    exact List.mem_filter.mpr ⟨List.mem_map_of_mem hd, by simp⟩

end TypeDecl

/-! ### Plans -/

namespace FieldPlan

/-- `q` is the plan `p`, which has perhaps become valid or writable. -/
structure Relaxes (p q : FieldPlan) : Prop where
  same : q = { p with valid := q.valid, writable := q.writable }
  valid : p.valid = true → q.valid = true
  writable : p.writable = true → q.writable = true

variable {p q : FieldPlan} {owner : Ident} {mode mode' : Mode}

theorem Relaxes.isInheritedBy_eq (h : Relaxes p q) (x : Ident) : q.isInheritedBy x = p.isInheritedBy x := by
  rw [h.same]
  rfl

theorem Relaxes.reports_eq (h : Relaxes p q) (owner : Ident) (mode : Mode) :
    q.reports owner mode = p.reports owner mode := by
  rw [h.same]
  rfl

theorem Relaxes.isFaulty_eq (h : Relaxes p q) (owner : Ident) (mode : Mode) :
    q.isFaulty owner mode = p.isFaulty owner mode := by
  rw [h.same]
  rfl

/-- Inheriting from a base with relaxed plans, into a type that is mutable or as it was. -/
theorem Relaxes.inherit (h : Relaxes p q) (s : Substitution) (hm : mode' = .mutable ∨ mode' = mode) :
    Relaxes { p.subst s with writable := p.writable && mode.isMutable }
      { q.subst s with writable := q.writable && mode'.isMutable } := by
  refine ⟨?_, h.valid, fun hw => ?_⟩
  · rw [h.same]
    rfl
  · rw [Bool.and_eq_true] at hw ⊢
    refine ⟨h.writable hw.1, ?_⟩
    rcases hm with rfl | rfl
    · rfl
    · exact hw.2

theorem relaxes_classify (resolver : Resolver) (m : MemberDecl) (hm : mode' = .mutable ∨ mode' = mode) :
    Relaxes (m.classify resolver owner mode) (m.classify resolver owner mode') := by
  refine ⟨rfl, id, fun hw => ?_⟩
  rw [writable_classify, Bool.and_eq_true] at hw ⊢
  rcases hm with rfl | rfl
  · exact ⟨hw.1, rfl⟩
  · exact hw

/-! ### Reports on plans -/

/-- In a mutable type a plan is reported for what has nothing to do with modes. -/
theorem reports_mutable (p : FieldPlan) (owner : Ident) (mode : Mode) :
    p.reports owner .mutable = (p.reports owner mode).filter (!·.rule.isOnMode) := by
  have hunresolved : (p.unresolvedReports owner).filter (!·.rule.isOnMode) = p.unresolvedReports owner := by
    refine List.filter_eq_self.mpr fun e he => ?_
    rcases (of_mem_unresolvedReports he).2 with h | h <;> simp [h, Rule.isOnMode]
  have hpolicy : (p.policyReports owner mode).filter (!·.rule.isOnMode) = [] := by
    refine List.filter_eq_nil_iff.mpr fun e he => ?_
    simp [(of_mem_policyReports he).2, Rule.isOnMode]
  have hprivacy : (p.privacyReports owner mode).filter (!·.rule.isOnMode) = [] := by
    refine List.filter_eq_nil_iff.mpr fun e he => ?_
    rcases (of_mem_privacyReports he).2 with h | h <;> simp [h, Rule.isOnMode]
  have hkeyed : (p.keyedReports owner).filter (!·.rule.isOnMode) = p.keyedReports owner := by
    refine List.filter_eq_self.mpr fun e he => ?_
    simp [(of_mem_keyedReports he).2, Rule.isOnMode]
  rw [reports, reports, List.filter_append, List.filter_append, List.filter_append, hunresolved, hkeyed,
    hpolicy, hprivacy]
  rfl

/-- What is faulty in a mutable type is so in any. -/
theorem isFaulty_of_relaxed (hm : mode' = .mutable ∨ mode' = mode) (h : p.isFaulty owner mode' = true) :
    p.isFaulty owner mode = true := by
  rcases hm with rfl | rfl
  · have hprivacy : p.privacyReports owner .mutable = [] := rfl
    unfold isFaulty at h ⊢
    rw [hprivacy, List.isEmpty_nil, Bool.not_true, Bool.or_false, Bool.or_eq_true] at h
    rw [Bool.or_eq_true, Bool.or_eq_true]
    exact h.imp_left .inl
  · exact h

theorem Relaxes.checked (h : Relaxes p q) (hm : mode' = .mutable ∨ mode' = mode) :
    Relaxes (p.checked owner mode) (q.checked owner mode') := by
  cases hp : p.isInheritedBy owner with
  | true => rwa [checked_of_inherited hp, checked_of_inherited (h.isInheritedBy_eq owner ▸ hp)]
  | false =>
      rw [checked_of_own hp, checked_of_own (h.isInheritedBy_eq owner ▸ hp), h.isFaulty_eq]
      refine ⟨?_, fun hv => ?_, h.writable⟩
      · rw [h.same]
      · rw [Bool.and_eq_true, Bool.not_eq_true'] at hv ⊢
        refine ⟨h.valid hv.1, ?_⟩
        by_contra hfaulty
        rw [isFaulty_of_relaxed hm (by simpa using hfaulty)] at hv
        cases hv.2

end FieldPlan

open FieldPlan

/-! ### Types -/

/-- `u` is the type `t` with relaxed plans. -/
structure DataType.Relaxes (t u : DataType) : Prop where
  ident : u.ident = t.ident
  generics : u.generics = t.generics
  plans : List.Forall₂ FieldPlan.Relaxes t.plans u.plans

namespace DataType

variable {t u : DataType} {plans plans' : List FieldPlan}

/-- Duplicates are looked for among all plans, so it makes no difference which of them are valid. -/
theorem checkNames_relaxed (owner : Ident) (h : List.Forall₂ FieldPlan.Relaxes plans plans')
    (seen : List (String × Ident)) :
    List.Forall₂ FieldPlan.Relaxes (checkNames owner seen plans).1 (checkNames owner seen plans').1 ∧
      (checkNames owner seen plans').2 = (checkNames owner seen plans).2 := by
  induction h generalizing seen with
  | nil => exact ⟨.nil, rfl⟩
  | @cons p q _ _ hpq _ ih =>
      have hexposed : q.name.exposed = p.name.exposed := by rw [hpq.same]
      have horigin : q.origin = p.origin := by rw [hpq.same]
      cases hl : seen.lookup p.name.exposed with
      | none =>
          obtain ⟨hplans, hreports⟩ := ih (seen ++ [(p.name.exposed, p.origin)])
          rw [checkNames_of_new hl, checkNames_of_new (hexposed ▸ hl), hexposed, horigin]
          exact ⟨.cons hpq hplans, hreports⟩
      | some first =>
          obtain ⟨hplans, hreports⟩ := ih seen
          have hl' : seen.lookup q.name.exposed = some first := hexposed ▸ hl
          cases hp : p.isInheritedBy owner with
          | true =>
              rw [checkNames_of_inherited hl hp,
                checkNames_of_inherited hl' (hpq.isInheritedBy_eq owner ▸ hp)]
              exact ⟨.cons hpq hplans, hreports⟩
          | false =>
              have hbacking : q.backing = p.backing := by rw [hpq.same]
              rw [checkNames_of_duplicate hl hp,
                checkNames_of_duplicate hl' (hpq.isInheritedBy_eq owner ▸ hp), hexposed, hreports, symbol,
                symbol, hbacking]
              refine ⟨.cons ⟨?_, fun hv => ?_, hpq.writable⟩ hplans, rfl⟩
              · rw [hpq.same]
              · cases hv

theorem planReports_relaxed (h : List.Forall₂ FieldPlan.Relaxes plans plans') (owner : Ident)
    (mode : Mode) : planReports owner mode plans' = planReports owner mode plans := by
  induction h with
  | nil => rfl
  | @cons p q _ _ hpq _ ih =>
      unfold planReports at ih ⊢
      rw [List.filter_cons, List.filter_cons, hpq.isInheritedBy_eq]
      split
      · rw [List.flatMap_cons, List.flatMap_cons, ih, hpq.reports_eq]
      · exact ih

theorem planReports_mutable (owner : Ident) (mode : Mode) (plans : List FieldPlan) :
    planReports owner .mutable plans = (planReports owner mode plans).filter (!·.rule.isOnMode) := by
  rw [planReports, planReports, List.filter_flatMap]
  exact List.flatMap_congr fun p _ => p.reports_mutable owner mode

/-- The checks on a relaxed type, which is mutable or as it was. -/
theorem validate_relaxed (h : t.Relaxes u) (ht : t.validated = false) (hu : u.validated = false)
    (hm : u.mode = .mutable ∨ u.mode = t.mode) :
    t.validate.1.Relaxes u.validate.1 ∧
      (u.mode = t.mode → u.validate.2 = t.validate.2) ∧
      (u.mode = .mutable → u.validate.2 = t.validate.2.filter (!·.rule.isOnMode)) := by
  have hchecked : List.Forall₂ FieldPlan.Relaxes (t.plans.map (·.checked t.ident t.mode))
      (u.plans.map (·.checked u.ident u.mode)) := by
    rw [List.forall₂_map_left_iff, List.forall₂_map_right_iff, h.ident]
    exact h.plans.imp fun _ _ hpq => hpq.checked hm
  obtain ⟨hplans, hduplicates⟩ := checkNames_relaxed t.ident hchecked []
  have hreports : u.validate.2 = planReports t.ident u.mode t.plans ++
      (checkNames t.ident [] (t.plans.map (·.checked t.ident t.mode))).2 := by
    rw [validate_reports hu, h.ident, planReports_relaxed h.plans, ← hduplicates, h.ident]
  refine ⟨⟨by simp [validate, ht, hu, h.ident], by simp [validate, ht, hu, h.generics], ?_⟩,
    fun hmode => ?_, fun hmode => ?_⟩
  · rw [validate_plans ht, validate_plans hu, h.ident]
    rwa [h.ident] at hplans
  · rw [hreports, hmode, validate_reports ht]
  · rw [hreports, hmode, validate_reports ht, List.filter_append, planReports_mutable t.ident t.mode]
    refine congrArg _ (List.filter_eq_self.mpr fun e he => ?_).symm
    rw [(exists_of_mem_checkNames he).1]
    rfl

variable {known known' : List DataType}

theorem find?_relaxed (h : List.Forall₂ Relaxes known known') (x : Ident) :
    Option.Rel Relaxes (find? known x) (find? known' x) := by
  have hident : ∀ ⦃t u : DataType⦄, t.Relaxes u → ((t.ident == x) = true ↔ (u.ident == x) = true) := by
    intro t u htu
    rw [htu.ident]
  have hfilter : List.Forall₂ Relaxes (known.filter (·.ident == x)) (known'.filter (·.ident == x)) :=
    List.rel_filter hident h
  have hlast := List.rel_reverse hfilter
  rw [find?, find?, ← List.head?_reverse, ← List.head?_reverse]
  generalize (known.filter (·.ident == x)).reverse = ts at hlast ⊢
  generalize (known'.filter (·.ident == x)).reverse = us at hlast ⊢
  cases hlast with
  | nil => exact .none
  | cons htu _ => exact .some htu

end DataType

/-! ### Bases -/

/-- The same base, or the same complaint, up to relaxed plans. -/
inductive BaseState.Relaxes : BaseState → BaseState → Prop
  | absent : Relaxes .absent .absent
  | faulty (report : Diagnostic) : Relaxes (.faulty report) (.faulty report)
  | usable (ref : BaseRef) {t u : DataType} (h : t.Relaxes u) : Relaxes (.usable ref t) (.usable ref u)

namespace BaseState

variable {s s' : BaseState} {known known' : List DataType} {mode mode' : Mode}

theorem ofDecl_relaxed (h : List.Forall₂ DataType.Relaxes known known') {d d' : TypeDecl}
    (hident : d'.ident = d.ident) (hbase : d'.base = d.base) (c : Bool) :
    Relaxes (ofDecl d c known) (ofDecl d' c known') := by
  unfold ofDecl
  rw [hbase]
  cases d.base with
  | none => exact .absent
  | some b =>
      unfold checkBase
      cases c with
      | true => simpa [BaseFault.report, hident] using Relaxes.faulty _
      | false =>
          have hfind := DataType.find?_relaxed h b.value.ident
          simp only [Bool.false_eq_true, if_false]
          generalize DataType.find? known b.value.ident = found at hfind ⊢
          generalize DataType.find? known' b.value.ident = found' at hfind ⊢
          cases hfind with
          | none => simpa [BaseFault.report, hident] using Relaxes.faulty _
          | @some t u htu =>
              simp only [htu.generics]
              by_cases ha : t.generics.typeParams.length = b.value.args.length
              · simpa [ha] using Relaxes.usable b.value htu
              · simpa [ha, BaseFault.report, hident] using Relaxes.faulty _

theorem Relaxes.report?_eq (h : Relaxes s s') : s'.report? = s.report? := by
  cases h <;> rfl

theorem Relaxes.inherited (h : Relaxes s s') (hm : mode' = .mutable ∨ mode' = mode) :
    List.Forall₂ FieldPlan.Relaxes (DataType.inherited mode s) (DataType.inherited mode' s') := by
  cases h with
  | absent => exact .nil
  | faulty => exact .nil
  | @usable ref t u h =>
      have harguments : u.arguments ref = t.arguments ref := by rw [DataType.arguments, h.generics]; rfl
      show List.Forall₂ _ (t.inherit ref mode) (u.inherit ref mode')
      rw [DataType.inherit, DataType.inherit, harguments, List.forall₂_map_left_iff,
        List.forall₂_map_right_iff]
      exact h.plans.imp fun _ _ hpq => hpq.inherit (t.arguments ref) hm

end BaseState

/-! ### Steps -/

/-- What a step makes of a declaration, and what it makes of it when `x` is mutable. -/
structure Step.Relaxes (x : Ident) (s s' : Step) : Prop where
  data : s.data.Relaxes s'.data
  diagnostics : s'.diagnostics = s.diagnostics.filter (!·.isOnModeOf x)

namespace Step

variable (resolver : Resolver) {x : Ident} {d : TypeDecl} {known known' : List DataType}

/-- A step on the same types up to relaxed plans. -/
theorem compile_relaxed (x : Ident) (c : Bool) (h : List.Forall₂ DataType.Relaxes known known') :
    (compile resolver d c known).data.Relaxes (compile resolver (d.madeMutable x) c known').data ∧
      (compile resolver (d.madeMutable x) c known').diagnostics =
        if d.ident = x then (compile resolver d c known).diagnostics.filter (!·.rule.isOnMode)
        else (compile resolver d c known).diagnostics := by
  have hm : (d.madeMutable x).mode = .mutable ∨ (d.madeMutable x).mode = d.mode := by
    unfold madeMutable
    split
    · exact .inl rfl
    · exact .inr rfl
  have hbase : (BaseState.ofDecl d c known).Relaxes (BaseState.ofDecl (d.madeMutable x) c known') :=
    BaseState.ofDecl_relaxed h rfl rfl c
  have hown : List.Forall₂ FieldPlan.Relaxes (d.members.map (·.classify resolver d.ident d.mode))
      (d.members.map (·.classify resolver d.ident (d.madeMutable x).mode)) := by
    rw [List.forall₂_map_left_iff, List.forall₂_map_right_iff]
    exact List.forall₂_same.mpr fun m _ => relaxes_classify resolver m hm
  have hmerged : (compile resolver d c known).merged.Relaxes
      (compile resolver (d.madeMutable x) c known').merged :=
    ⟨rfl, rfl, List.rel_append (hbase.inherited hm) hown⟩
  obtain ⟨hdata, hsame, hopened⟩ := DataType.validate_relaxed hmerged rfl rfl hm
  refine ⟨hdata, ?_⟩
  have hreport : (compile resolver (d.madeMutable x) c known').base.report? =
      (compile resolver d c known).base.report? := hbase.report?_eq
  rw [diagnostics, diagnostics, hreport]
  by_cases hdx : d.ident = x
  · -- a base is not judged by modes, so only the reports on members are filtered
    rw [if_pos hdx, List.filter_append]
    refine congrArg₂ _ (List.filter_eq_self.mpr fun e he => ?_).symm (hopened (if_pos hdx))
    have he : e ∈ (BaseState.ofDecl d c known).report? := Option.mem_toList.mp he
    rw [Rule.isOnMode_of_not_isOnMembers (BaseState.isOnMembers_of_mem_report? he)]
    rfl
  · rw [if_neg hdx]
    exact congrArg _ (hsame (if_neg hdx))

/-- The reports of a step are about its type, so those that go are about `x`. -/
theorem relaxes_compile (c : Bool)
    (h : List.Forall₂ DataType.Relaxes known known') :
    Relaxes x (compile resolver d c known) (compile resolver (d.madeMutable x) c known') := by
  obtain ⟨hdata, hdiagnostics⟩ := compile_relaxed resolver (d := d) x c h
  refine ⟨hdata, hdiagnostics.trans ?_⟩
  have howner : ∀ e ∈ (compile resolver d c known).diagnostics, e.owner = d.ident.text :=
    fun e he => Diagnostic.owner_of_isAbout (isAbout_of_mem_step he)
  split
  next hdx =>
    refine List.filter_congr fun e he => ?_
    rw [Diagnostic.isOnModeOf, howner e he, hdx, beq_self_eq_true, Bool.true_and]
  next hdx =>
    refine (List.filter_eq_self.mpr fun e he => ?_).symm
    have hne : d.ident.text ≠ x.text := fun htext => hdx (Ident.text_inj htext)
    rw [Diagnostic.isOnModeOf, howner e he, beq_eq_false_iff_ne.mpr hne]
    rfl

end Step

/-! ### Exposed names -/

/-- What a filter keeps of a list, it keeps of a list of things that pass more easily. -/
theorem filter_map_sublist_of_forall₂ {α β : Type} {R : α → α → Prop} {f : α → β} {c : α → Bool}
    (h : ∀ a b, R a b → f b = f a ∧ (c a = true → c b = true)) {l l' : List α} (hl : List.Forall₂ R l l') :
    ((l.filter c).map f).Sublist ((l'.filter c).map f) := by
  induction hl with
  | nil => exact .slnil
  | @cons a b _ _ hab _ ih =>
      obtain ⟨hf, hc⟩ := h a b hab
      rw [List.filter_cons, List.filter_cons]
      by_cases ha : c a = true
      · rw [if_pos ha, if_pos (hc ha), List.map_cons, List.map_cons, hf]
        exact ih.cons_cons _
      · rw [if_neg ha]
        split
        · exact ih.cons _
        · exact ih

namespace DataType

variable {t u : DataType}

theorem Relaxes.readNames_sublist (h : t.Relaxes u) : (readNames t.plans).Sublist (readNames u.plans) :=
  filter_map_sublist_of_forall₂ (fun _ _ hpq => ⟨by rw [hpq.same], hpq.valid⟩) h.plans

theorem Relaxes.writeNames_sublist (h : t.Relaxes u) : (writeNames t.plans).Sublist (writeNames u.plans) := by
  rw [writeNames, writeNames, List.filter_filter, List.filter_filter]
  refine filter_map_sublist_of_forall₂ (fun p q hpq => ⟨by rw [hpq.same], fun hp => ?_⟩) h.plans
  rw [Bool.and_eq_true] at hp ⊢
  exact ⟨hpq.writable hp.1, hpq.valid hp.2⟩

end DataType

/-! ### Runs -/

namespace Run

variable (resolver : Resolver) {x : Ident} {ds ds' : List TypeDecl}

/-- The induction is on the order of compilation: the types before a step are related already. -/
theorem compileAll_relaxed {ms : List TypeDecl} (cyclic : List Nat) {known known' : List DataType} (h : List.Forall₂ DataType.Relaxes known known')
    (order : List Nat) :
    List.Forall₂ (Step.Relaxes x) (compileAll resolver ms cyclic known order)
      (compileAll resolver (ms.map (·.madeMutable x)) cyclic known' order) := by
  induction order generalizing known known' with
  | nil => exact .nil
  | cons i order ih =>
      rw [compileAll, compileAll, List.getElem?_map]
      cases hd : ms[i]? with
      | none => exact ih h
      | some d =>
          have hstep := Step.relaxes_compile resolver (d := d) (x := x) (cyclic.contains i) h
          exact .cons hstep (ih (List.rel_append h (.cons hstep.data .nil)))

theorem steps_relaxed (h : MadeMutable x ds ds') :
    List.Forall₂ (Step.Relaxes x) (ofDecls resolver ds).steps (ofDecls resolver ds').steps := by
  rw [steps_ofDecls, steps_ofDecls, h.merge_eq,
    Schedule.ofDecls_congr (madeMutable_ident x) (madeMutable_base x)]
  exact compileAll_relaxed resolver _ .nil _

/-- Making a type mutable takes no name away, for reading or for writing, from any type, and no report but
those that ask for it. -/
theorem relaxed_of_madeMutable (h : MadeMutable x ds ds') :
    let r := ofDecls resolver ds
    let r' := ofDecls resolver ds'
    (∀ policy, List.Forall₂
        (fun s s' : AccessorSet => s'.owner = s.owner ∧ s.getterNames.Sublist s'.getterNames ∧
          s.setterNames.Sublist s'.setterNames)
        (r.generated policy) (r'.generated policy)) ∧
      r'.diagnostics = r.diagnostics.filter (!·.isOnModeOf x) := by
  intro r r'
  have hsteps := steps_relaxed resolver h
  refine ⟨fun policy => ?_, ?_⟩
  · rw [generated, generated, types, types, List.forall₂_map_left_iff, List.forall₂_map_left_iff,
      List.forall₂_map_right_iff, List.forall₂_map_right_iff]
    refine hsteps.imp fun s s' hs => ⟨hs.data.ident, ?_, ?_⟩
    · rw [AccessorSet.getterNames_ofType, AccessorSet.getterNames_ofType]
      exact hs.data.readNames_sublist
    · rw [AccessorSet.setterNames_ofType, AccessorSet.setterNames_ofType]
      exact hs.data.writeNames_sublist
  · have hconflicts : ∀ e ∈ r.conflicts, e.isOnModeOf x = false := by
      intro e he
      have hrule := isOnMembers_of_mem_merge he
      rw [Diagnostic.isOnModeOf, Rule.isOnMode_of_not_isOnMembers hrule, Bool.and_false]
    have hreports : ∀ {l l' : List Step}, List.Forall₂ (Step.Relaxes x) l l' →
        l'.flatMap (·.diagnostics) = (l.flatMap (·.diagnostics)).filter (!·.isOnModeOf x) := by
      intro l l' hl
      induction hl with
      | nil => rfl
      | cons hs _ ih =>
          rw [List.flatMap_cons, List.flatMap_cons, List.filter_append, ih, hs.diagnostics]
    have hmerge : r'.conflicts = r.conflicts := congrArg Prod.snd h.merge_eq
    rw [diagnostics, diagnostics, hreports hsteps, List.filter_append, hmerge]
    exact congrArg (· ++ _) (List.filter_eq_self.mpr fun e he => by rw [hconflicts e he]; rfl).symm

open Example in
/-- A mutable wizard may be given another mana, and his apprentice too, who goes on exposing both. -/
theorem relaxed_of_madeMutable_wizard :
    let apprentice := declare "Apprentice" (some "Wizard") .mutable [field "_broom" "u8"]
    let wizard := declare "Wizard" none .immutable [{ field "mana" "u8" with surface := .field .everywhere }]
    let ds := [apprentice, wizard]
    let r := ofDecls (fun _ _ => .resolved) ds
    let r' := ofDecls (fun _ _ => .resolved) (ds.map (·.madeMutable (.plain "Wizard")))
    r.diagnostics.map (·.rule.code) = ["DATA_0004"] ∧
      (r.generated .skip).map (·.getterNames) = [[], ["Broom"]] ∧
      (r'.generated .skip).map (·.getterNames) = [["Mana"], ["Mana", "Broom"]] ∧
      r'.diagnostics = r.diagnostics.filter (!·.isOnModeOf (.plain "Wizard")) := by
  intro apprentice wizard ds r r'
  have hx : Ident.plain "Wizard" ∈ names ds := by decide
  exact ⟨by decide +kernel, by decide +kernel, by decide +kernel,
    (relaxed_of_madeMutable (fun _ _ => .resolved) (madeMutable_map hx)).2⟩

end Run

end AccessorSchema
