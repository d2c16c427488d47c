import AccessorSchema.Proofs.Complaints

/-! # What validation does to a type

The checks on a type mark plans of its own as invalid and touch nothing else.  The main statement is
`DataType.validate_verdicts`: it says of any type, however it came about, which plan gets which verdict
(`DataType.Verdict`), and that the checks are made once, since whatever is called later finds the type
checked. -/

namespace AccessorSchema

/-- The plan breaks a rule that makes it invalid by itself in a type of the given mode. -/
inductive FieldPlan.Breaks (mode : Mode) (p : FieldPlan) : Prop
  | reference {u : Unresolved} : u ∈ p.unresolved → Breaks mode p
  | field {vis : Vis} : mode = .immutable → p.surface = .field vis → vis.isPrivate = false → Breaks mode p
  | setter {vis : Vis} {setter : Located Vis} : mode = .immutable →
      p.surface = .property vis (some setter) → setter.value.isPrivate = false → Breaks mode p
  | mapping {element : Ty} : p.kind = .view element .keyed → Breaks mode p

/-- `q` is what validation of `t` makes of its plan `p`, which stands behind the plans `earlier`. -/
structure DataType.Verdict (t : DataType) (earlier : List FieldPlan) (p q : FieldPlan) : Prop where
  same : q = { p with valid := q.valid }
  monotone : q.valid = true → p.valid = true
  inherited : p.origin ≠ t.ident → q = p
  own : p.origin = t.ident → (q.valid = false ↔ p.valid = false ∨
    t.validated = false ∧ (p.Breaks t.mode ∨ ∃ o ∈ earlier, o.name.exposed = p.name.exposed))

namespace FieldPlan

variable {owner : Ident} {mode : Mode} {p : FieldPlan}

/-! ### Rules on one plan -/

theorem isEmpty_privacyReports :
    (p.privacyReports owner mode).isEmpty = false ↔ mode = .immutable ∧
      ((∃ vis, p.surface = .field vis ∧ vis.isPrivate = false) ∨
        ∃ vis setter, p.surface = .property vis (some setter) ∧ setter.value.isPrivate = false) := by
  unfold privacyReports
  cases mode with
  | mutable => simp [Mode.isMutable]
  | immutable =>
      cases p.surface with
      | field vis => cases h : vis.isPrivate <;> simp [Mode.isMutable, h]
      | property vis setter =>
          cases setter with
          | none => simp [Mode.isMutable]
          | some s => cases h : s.value.isPrivate <;> simp [Mode.isMutable, h]

theorem isEmpty_keyedReports :
    (p.keyedReports owner).isEmpty = false ↔ ∃ element, p.kind = .view element .keyed := by
  unfold keyedReports
  cases p.kind with
  | scalar => simp [Kind.isKeyed]
  | converted c => simp [Kind.isKeyed]
  | view element shape => cases shape <;> simp [Kind.isKeyed]

/-- A plan is faulty when it breaks a rule. -/
theorem isFaulty_iff_breaks : p.isFaulty owner mode = true ↔ p.Breaks mode := by
  have hreferences : (p.unresolvedReports owner).isEmpty = false ↔ ∃ u, u ∈ p.unresolved := by
    unfold unresolvedReports
    cases p.unresolved <;> simp
  unfold isFaulty
  simp only [Bool.or_eq_true, Bool.not_eq_true', hreferences, isEmpty_privacyReports,
    isEmpty_keyedReports]
  constructor
  · rintro ((⟨u, hu⟩ | ⟨hmode, ⟨vis, hsurface, hvis⟩ | ⟨vis, setter, hsurface, hvis⟩⟩) | ⟨element, hkind⟩)
    · exact .reference hu
    · exact .field hmode hsurface hvis
    · exact .setter hmode hsurface hvis
    · exact .mapping hkind
  · intro h
    cases h with
    | reference hu => exact .inl (.inl ⟨_, hu⟩)
    | field hmode hsurface hvis => exact .inl (.inr ⟨hmode, .inl ⟨_, hsurface, hvis⟩⟩)
    | setter hmode hsurface hvis => exact .inl (.inr ⟨hmode, .inr ⟨_, _, hsurface, hvis⟩⟩)
    | mapping hkind => exact .inr ⟨_, hkind⟩

theorem name_checked : (p.checked owner mode).name = p.name := by
  unfold checked
  split <;> rfl

theorem origin_checked : (p.checked owner mode).origin = p.origin := by
  unfold checked
  split <;> rfl

end FieldPlan

namespace DataType

open FieldPlan

variable {owner : Ident} {seen : List (String × Ident)} {earlier : List FieldPlan}

/-! ### Names -/

/-- The checks on names mark the plans that are complained about. -/
theorem checkNames_plans (plans : List FieldPlan) (h : Tracks seen earlier) :
    (checkNames owner seen plans).1 = (plans.zipIdx earlier.length).map fun e =>
      if (e.1.nameComplaint? owner ((earlier ++ plans).take e.2)).isSome then { e.1 with valid := false }
      else e.1 := by
  induction plans generalizing seen earlier with
  | nil => rfl
  | cons p rest ih =>
      -- in all three cases the rest is checked with names that track the plans up to and with `p`
      have hlater : ∀ {seen'}, Tracks seen' (earlier ++ [p]) →
          (checkNames owner seen' rest).1 = (rest.zipIdx (earlier.length + 1)).map fun e =>
            if (e.1.nameComplaint? owner ((earlier ++ p :: rest).take e.2)).isSome then
              { e.1 with valid := false }
            else e.1 := by
        intro seen' h'
        have := ih h'
        rwa [List.length_append, List.append_assoc] at this
      have hhere : (earlier ++ p :: rest).take earlier.length = earlier := by simp
      rw [List.zipIdx_cons, List.map_cons, hhere]
      cases hl : seen.lookup p.name.exposed with
      | none =>
          rw [checkNames_of_new hl, nameComplaint?_of_new h hl, hlater h.snoc]
          rfl
      | some first =>
          have hseen : Tracks seen (earlier ++ [p]) := h.snoc_of_seen hl
          cases hp : p.isInheritedBy owner with
          | true =>
              rw [checkNames_of_inherited hl hp, FieldPlan.nameComplaint?, if_pos hp, hlater hseen]
              rfl
          | false =>
              rw [checkNames_of_duplicate hl hp, nameComplaint?_of_duplicate h hl hp, hlater hseen]
              rfl

theorem isSome_nameComplaint? {p : FieldPlan} :
    (p.nameComplaint? owner earlier).isSome = true ↔
      p.origin = owner ∧ ∃ o ∈ earlier, o.name.exposed = p.name.exposed := by
  unfold FieldPlan.nameComplaint? FieldPlan.isInheritedBy
  by_cases h : p.origin = owner
  · simp [h]
  · simp [h]

/-- The checks on plans by themselves change nothing about the checks on names. -/
theorem isSome_nameComplaint?_checked {p : FieldPlan} {mode : Mode} :
    ((p.checked owner mode).nameComplaint? owner (earlier.map (·.checked owner mode))).isSome = true ↔
      p.origin = owner ∧ ∃ o ∈ earlier, o.name.exposed = p.name.exposed := by
  rw [isSome_nameComplaint?, name_checked, origin_checked]
  refine and_congr_right fun _ => ?_
  constructor
  · rintro ⟨_, hmem, heq⟩
    obtain ⟨o, ho, rfl⟩ := List.mem_map.mp hmem
    exact ⟨o, ho, name_checked ▸ heq⟩
  · rintro ⟨o, ho, heq⟩
    exact ⟨_, List.mem_map_of_mem ho, name_checked.symm ▸ heq⟩

/-! ### The checks as a whole -/

variable {t : DataType} {p : FieldPlan}

/-- A type that was checked before leaves every plan as it is. -/
theorem verdict_of_validated (h : t.validated = true) : t.Verdict earlier p p :=
  ⟨rfl, id, fun _ => rfl, fun _ => by simp [h]⟩

/-- The checks on a plan by itself, then those on its name, give the verdict. -/
theorem verdict_of_pending (h : t.validated = false) {q : FieldPlan}
    (hq : q = if ((p.checked t.ident t.mode).nameComplaint? t.ident
        (earlier.map (·.checked t.ident t.mode))).isSome then
      { p.checked t.ident t.mode with valid := false } else p.checked t.ident t.mode) :
    t.Verdict earlier p q := by
  by_cases hown : p.origin = t.ident
  · have hchecked : p.checked t.ident t.mode = { p with valid := p.valid && !p.isFaulty t.ident t.mode } :=
      checked_of_own (by simp [isInheritedBy, hown])
    split at hq
    · rename_i hc
      have hrepeats := (isSome_nameComplaint?_checked.mp hc).2
      subst hq
      refine ⟨by rw [hchecked], by simp, fun h => absurd hown h, fun _ => ?_⟩
      simp [h, hrepeats]
    · rename_i hc
      have hnew : ¬∃ o ∈ earlier, o.name.exposed = p.name.exposed := fun he =>
        hc (isSome_nameComplaint?_checked.mpr ⟨hown, he⟩)
      subst hq
      rw [hchecked]
      refine ⟨rfl, fun hv => (Bool.and_eq_true_iff.mp hv).1, fun h => absurd hown h, fun _ => ?_⟩
      rw [Bool.and_eq_false_iff, Bool.not_eq_false', isFaulty_iff_breaks, or_iff_left hnew]
      simp [h]
  · have hchecked : p.checked t.ident t.mode = p := checked_of_inherited (by simp [isInheritedBy, hown])
    rw [if_neg fun h => hown (isSome_nameComplaint?_checked.mp h).1, hchecked] at hq
    exact ⟨by rw [hq], by rw [hq]; exact id, fun _ => hq, fun h => absurd h hown⟩

theorem validate_of_validated (h : t.validated = true) : t.validate = (t, []) := by
  rw [validate, if_pos h]

theorem validate_validated (t : DataType) : t.validate.1.validated = true := by
  unfold validate
  split
  · assumption
  · rfl

/-- What is called after the checks neither changes the type nor reports anything. -/
theorem validate_iterate (t : DataType) (n : ℕ) :
    ((fun d => d.validate.1)^[n + 1] t).validate = (t.validate.1, []) := by
  induction n with
  | zero => exact validate_of_validated t.validate_validated
  | succ n ih =>
      rw [Function.iterate_succ_apply', ih]
      exact validate_of_validated t.validate_validated

/-- Every plan gets its verdict. -/
theorem forall₂_verdict (t : DataType) :
    List.Forall₂ (fun e q => t.Verdict (t.plans.take e.2) e.1 q) t.plans.zipIdx t.validate.1.plans := by
  cases h : t.validated with
  | true =>
      have hplans : t.validate.1.plans = t.plans.zipIdx.map (·.1) := by
        rw [validate_of_validated h, List.zipIdx_map_fst]
      rw [hplans]
      exact forall₂_map_of_mem fun _ _ => verdict_of_validated h
  | false =>
      rw [validate_plans h, checkNames_plans _ .nil, List.zipIdx_map, List.map_map]
      refine forall₂_map_of_mem fun e _ => verdict_of_pending h ?_
      rw [List.map_take]
      rfl

/-- Validation keeps a type but for its plans and gives each of these its verdict.  It is made once: what is
called afterwards, or on a type that counts as checked, changes and reports nothing. -/
theorem validate_verdicts (t : DataType) :
    (∃ plans, t.validate.1 = { t with plans := plans, validated := true } ∧
        List.Forall₂ (fun e q => t.Verdict (t.plans.take e.2) e.1 q) t.plans.zipIdx plans) ∧
      (∀ n, ((fun d => d.validate.1)^[n + 1] t).validate = (t.validate.1, [])) ∧
      { t with validated := true }.validate = ({ t with validated := true }, []) := by
  refine ⟨⟨t.validate.1.plans, ?_, forall₂_verdict t⟩, validate_iterate t, validate_of_validated rfl⟩
  unfold validate
  split
  · rename_i h
    rw [← h]
  · rfl

end DataType

end AccessorSchema
