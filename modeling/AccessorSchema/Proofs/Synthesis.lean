import AccessorSchema.Accessor.Basic
import Mathlib.Data.List.Basic

/-! # The accessors of a type, plan by plan

What stands among the accessors of a type is a method of one of its plans, a stub if and only if the
plan is invalid (`DataType.exists_plan_of_mem`).  Stubs may be missing for want of a name, but nothing
else: a choice among accessors that takes no stubs is made plan by plan (`DataType.filter_accessors`),
which gives the getters and the setters that are no stubs. -/

namespace AccessorSchema

/-- Free names are given to some of the candidates, in their order. -/
theorem Accessor.withFreeNames_sublist (taken : List Label) (candidates : List Accessor) :
    (withFreeNames taken candidates).Sublist candidates := by
  induction candidates generalizing taken with
  | nil => exact .slnil
  | cons a rest ih =>
      rw [withFreeNames]
      split
      · exact (ih taken).cons a
      · exact (ih _).cons_cons a

namespace FieldPlan

variable {p : FieldPlan} {owner : Ident} {stubbed : Bool} {a : Accessor}

@[simp] theorem isSetter_getter : (p.getter owner stubbed).isSetter = false := by
  show p.readAction.isWrite = false
  unfold readAction
  cases p.kind <;> rfl

theorem mem_accessors :
    a ∈ p.accessors owner stubbed ↔
      a = p.getter owner stubbed ∨ p.writable = true ∧ a = p.setter owner stubbed := by
  unfold accessors
  cases p.writable <;> simp

theorem stubbed_of_mem_accessors (h : a ∈ p.accessors owner stubbed) : a.stubbed = stubbed := by
  rcases mem_accessors.mp h with rfl | ⟨-, rfl⟩ <;> rfl

end FieldPlan

namespace DataType

section
variable (owner : Ident) (policy : InvalidPolicy) (taken : List Label) {p : FieldPlan}
  (rest : List FieldPlan)

theorem accessorsFrom_valid (h : p.valid = true) :
    accessorsFrom owner policy taken (p :: rest) =
      p.accessors owner false ++ accessorsFrom owner policy taken rest := by
  simp [accessorsFrom, h]

theorem accessorsFrom_skip (h : p.valid = false) :
    accessorsFrom owner .skip taken (p :: rest) = accessorsFrom owner .skip taken rest := by
  simp [accessorsFrom, h]

theorem accessorsFrom_stub (h : p.valid = false) :
    accessorsFrom owner .stub taken (p :: rest) =
      Accessor.withFreeNames taken (p.accessors owner true) ++
        accessorsFrom owner .stub
          (taken ++ (Accessor.withFreeNames taken (p.accessors owner true)).map (·.method)) rest := by
  simp [accessorsFrom, h]

/-- An invalid plan adds some of its stubs. -/
theorem accessorsFrom_invalid (h : p.valid = false) :
    ∃ stubs taken', stubs.Sublist (p.accessors owner true) ∧
      accessorsFrom owner policy taken (p :: rest) = stubs ++ accessorsFrom owner policy taken' rest := by
  cases policy with
  | skip => exact ⟨[], taken, List.nil_sublist _, accessorsFrom_skip owner taken rest h⟩
  | stub => exact ⟨_, _, Accessor.withFreeNames_sublist _ _, accessorsFrom_stub owner taken rest h⟩

end

variable {t : DataType} {policy : InvalidPolicy}

/-- An accessor is a method of a plan, and a stub if the plan is invalid. -/
theorem exists_plan_of_mem {a : Accessor} (h : a ∈ t.accessors policy) :
    ∃ p ∈ t.plans, a ∈ p.accessors t.ident (!p.valid) := by
  have hfrom : ∀ plans taken, a ∈ accessorsFrom t.ident policy taken plans →
      ∃ p ∈ plans, a ∈ p.accessors t.ident (!p.valid) := by
    intro plans
    induction plans with
    | nil =>
        intro taken h
        cases h
    | cons p rest ih =>
        intro taken h
        have hlater : ∀ {taken}, a ∈ accessorsFrom t.ident policy taken rest →
            ∃ q ∈ p :: rest, a ∈ q.accessors t.ident (!q.valid) := by
          intro taken h
          obtain ⟨q, hq, ha⟩ := ih taken h
          exact ⟨q, List.mem_cons_of_mem _ hq, ha⟩
        cases hv : p.valid with
        | true =>
            rw [accessorsFrom_valid t.ident policy taken rest hv] at h
            exact (List.mem_append.mp h).elim (fun ha => ⟨p, List.mem_cons_self, by rwa [hv]⟩) hlater
        | false =>
            obtain ⟨stubs, taken', hstubs, heq⟩ := accessorsFrom_invalid t.ident policy taken rest hv
            rw [heq] at h
            exact (List.mem_append.mp h).elim
              (fun ha => ⟨p, List.mem_cons_self, by rw [hv]; exact hstubs.mem ha⟩) hlater
  exact hfrom _ _ h

/-- What takes no stubs chooses among the methods of valid plans. -/
theorem filter_accessors (t : DataType) (policy : InvalidPolicy) {f : Accessor → Bool}
    (hf : ∀ a, a.stubbed = true → f a = false) :
    (t.accessors policy).filter f = t.validPlans.flatMap fun p => (p.accessors t.ident false).filter f := by
  have hfrom : ∀ plans taken, (accessorsFrom t.ident policy taken plans).filter f =
      (plans.filter (·.valid)).flatMap fun p => (p.accessors t.ident false).filter f := by
    intro plans
    induction plans with
    | nil => exact fun _ => rfl
    | cons p rest ih =>
        intro taken
        cases hv : p.valid with
        | true =>
            rw [accessorsFrom_valid t.ident policy taken rest hv, List.filter_append, ih,
              List.filter_cons_of_pos hv, List.flatMap_cons]
        | false =>
            obtain ⟨stubs, taken', hstubs, heq⟩ := accessorsFrom_invalid t.ident policy taken rest hv
            have hnone : stubs.filter f = [] := by
              rw [List.filter_eq_nil_iff]
              intro a ha
              simp [hf a (FieldPlan.stubbed_of_mem_accessors (hstubs.mem ha))]
            rw [heq, List.filter_append, hnone, List.nil_append, ih, List.filter_cons_of_neg (by simp [hv])]
  exact hfrom _ _

/-- Where invalid plans are skipped, all accessors are methods of valid plans. -/
theorem accessors_skip (t : DataType) :
    t.accessors .skip = t.validPlans.flatMap (·.accessors t.ident false) := by
  have hfrom : ∀ taken plans, accessorsFrom t.ident .skip taken plans =
      (plans.filter (·.valid)).flatMap (·.accessors t.ident false) := by
    intro taken plans
    induction plans with
    | nil => rfl
    | cons p rest ih =>
        cases hv : p.valid with
        | true =>
            rw [accessorsFrom_valid t.ident .skip taken rest hv, ih, List.filter_cons_of_pos hv,
              List.flatMap_cons]
        | false =>
            rw [accessorsFrom_skip t.ident taken rest hv, ih, List.filter_cons_of_neg (by simp [hv])]
  exact hfrom _ _

end DataType

/-- Choosing at most one thing for each element of a list. -/
theorem flatMap_ite {α β : Type} (l : List α) (c : α → Bool) (f : α → β) :
    (l.flatMap fun a => if c a then [f a] else []) = (l.filter c).map f := by
  induction l with
  | nil => rfl
  | cons a rest ih => cases h : c a <;> simp [h, ih]

/-! ### Getters and setters -/

namespace AccessorSet

/-- The getters that are no stubs. -/
def getters (s : AccessorSet) : List Accessor := s.members.filter fun a => !a.isSetter && !a.stubbed

/-- The setters that are no stubs. -/
def setters (s : AccessorSet) : List Accessor := s.members.filter fun a => a.isSetter && !a.stubbed

variable (t : DataType) (policy : InvalidPolicy)

theorem getters_ofType : (ofType t policy).getters = t.validPlans.map (·.getter t.ident false) := by
  have hstub : ∀ a : Accessor, a.stubbed = true → (!a.isSetter && !a.stubbed) = false := by
    intro a ha
    rw [ha, Bool.not_true, Bool.and_false]
  have hplan : ∀ p : FieldPlan, (p.accessors t.ident false).filter (fun a => !a.isSetter && !a.stubbed) =
      [p.getter t.ident false] := by
    intro p
    have hgetter : (!(p.getter t.ident false).isSetter && !(p.getter t.ident false).stubbed) = true := by
      rw [FieldPlan.isSetter_getter]
      rfl
    rw [FieldPlan.accessors, List.filter_cons, hgetter, if_pos rfl]
    cases p.writable <;> rfl
  show (t.accessors policy).filter _ = _
  rw [DataType.filter_accessors t policy hstub, List.map_eq_flatMap]
  exact List.flatMap_congr fun p _ => hplan p

theorem setters_ofType :
    (ofType t policy).setters = (t.validPlans.filter (·.writable)).map (·.setter t.ident false) := by
  have hstub : ∀ a : Accessor, a.stubbed = true → (a.isSetter && !a.stubbed) = false := by
    intro a ha
    rw [ha, Bool.not_true, Bool.and_false]
  have hplan : ∀ p : FieldPlan, (p.accessors t.ident false).filter (fun a => a.isSetter && !a.stubbed) =
      if p.writable then [p.setter t.ident false] else [] := by
    intro p
    have hgetter : ((p.getter t.ident false).isSetter && !(p.getter t.ident false).stubbed) = false := by
      rw [FieldPlan.isSetter_getter, Bool.false_and]
    rw [FieldPlan.accessors, List.filter_cons, hgetter, if_neg Bool.false_ne_true]
    cases p.writable <;> rfl
  show (t.accessors policy).filter _ = _
  rw [DataType.filter_accessors t policy hstub, ← flatMap_ite]
  exact List.flatMap_congr fun p _ => hplan p

end AccessorSet

/-! ### Exposed names -/

namespace FieldPlan

/-- The names that the valid ones of some plans are read under. -/
def readNames (plans : List FieldPlan) : List String := (plans.filter (·.valid)).map (·.name.exposed)

/-- The names that the valid ones of some plans are written under. -/
def writeNames (plans : List FieldPlan) : List String :=
  ((plans.filter (·.valid)).filter (·.writable)).map (·.name.exposed)

variable (plans later : List FieldPlan)

@[simp] theorem readNames_append : readNames (plans ++ later) = readNames plans ++ readNames later := by
  simp [readNames]

@[simp] theorem writeNames_append : writeNames (plans ++ later) = writeNames plans ++ writeNames later := by
  simp [writeNames]

theorem writeNames_sublist : (writeNames plans).Sublist (readNames plans) :=
  List.filter_sublist.map _

end FieldPlan

namespace AccessorSet

variable (t : DataType) (policy : InvalidPolicy)

theorem getterNames_ofType : (ofType t policy).getterNames = FieldPlan.readNames t.plans := by
  show (ofType t policy).getters.map (·.exposed) = _
  rw [getters_ofType, List.map_map]
  rfl

theorem setterNames_ofType : (ofType t policy).setterNames = FieldPlan.writeNames t.plans := by
  show (ofType t policy).setters.map (·.exposed) = _
  rw [setters_ofType, List.map_map]
  rfl

end AccessorSet

end AccessorSchema
