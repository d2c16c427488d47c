import AccessorSchema.Proofs.MethodNames

/-! # Stubs

Asking for stubs changes nothing about the accessors of valid plans, and makes every plan callable.  Along
the plans of a type, the names in use are those of its valid plans and of the stubs so far; a plan that
gets no stub for a method has its name among them (`Synthesized`).  The main statement is
`DataType.accessors_stub`. -/

namespace AccessorSchema

namespace Accessor

/-- If one of the two is a stub, they have different names. -/
def StubsApart (a b : Accessor) : Prop := a.stubbed = true ∨ b.stubbed = true → a.method ≠ b.method

/-- A candidate is left out only if its name is in use. -/
theorem withFreeNames_covers (taken : List Label) (candidates : List Accessor) :
    ∀ a ∈ candidates, a.method ∈ taken ∨ a.method ∈ (withFreeNames taken candidates).map (·.method) := by
  induction candidates generalizing taken with
  | nil => simp
  | cons a rest ih =>
      intro b hb
      rw [withFreeNames]
      split
      next htaken =>
        rcases List.mem_cons.mp hb with rfl | hb
        · exact .inl (List.contains_iff_mem.mp htaken)
        · exact ih taken b hb
      next =>
        rw [List.map_cons, List.mem_cons]
        rcases List.mem_cons.mp hb with rfl | hb
        · exact .inr (.inl rfl)
        · rcases ih (a.method :: taken) b hb with h | h
          · exact (List.mem_cons.mp h).elim (fun h => .inr (.inl h)) .inl
          · exact .inr (.inr h)

end Accessor

open Accessor

/-! ### Along the plans -/

/-- `out` are accessors and stubs of `plans`: the accessors have the names in `named`, the stubs have none
of those in `taken`, and no method of a plan is without a name. -/
structure Synthesized (named taken : List Label) (plans : List FieldPlan) (out : List Accessor) : Prop where
  named : ∀ a ∈ out, a.stubbed = false → a.method ∈ named
  free : ∀ a ∈ out, a.stubbed = true → a.method ∉ taken
  apart : out.Pairwise StubsApart
  covered : ∀ p ∈ plans, ∀ x ∈ p.methods, x ∈ taken ∨ x ∈ out.map (·.method)

namespace Synthesized

variable {named taken : List Label} {plans : List FieldPlan} {out : List Accessor} {p : FieldPlan}
  {owner : Ident}

theorem nil : Synthesized named taken [] [] := ⟨by simp, by simp, .nil, by simp⟩

/-- A valid plan adds its methods. -/
theorem cons_valid (h : Synthesized named taken plans out) (hnamed : named ⊆ taken)
    (hp : p.methods ⊆ named) :
    Synthesized named taken (p :: plans) (p.accessors owner false ++ out) := by
  have hno : ∀ a ∈ p.accessors owner false, ¬a.stubbed = true := by
    intro a ha
    simp [FieldPlan.stubbed_of_mem_accessors ha]
  have hown : ∀ a ∈ p.accessors owner false, a.method ∈ named :=
    fun a ha => hp (p.map_method_accessors owner false ▸ List.mem_map_of_mem ha)
  refine ⟨fun a ha hvalid => ?_, fun a ha hstub => ?_, ?_, fun q hq x hx => ?_⟩
  · exact (List.mem_append.mp ha).elim (hown a) (fun ha => h.named a ha hvalid)
  · exact (List.mem_append.mp ha).elim (fun ha => absurd hstub (hno a ha)) (fun ha => h.free a ha hstub)
  · refine List.pairwise_append.mpr ⟨List.pairwise_of_forall_mem_list fun a ha b hb => ?_, h.apart, ?_⟩
    · exact fun hstub => absurd hstub (not_or.mpr ⟨hno a ha, hno b hb⟩)
    · rintro a ha b hb (hstub | hstub) heq
      · exact hno a ha hstub
      · exact h.free b hb hstub (hnamed (heq ▸ hown a ha))
  · rw [List.map_append, List.mem_append]
    rcases List.mem_cons.mp hq with rfl | hq
    · exact .inr (.inl (q.map_method_accessors owner false ▸ hx))
    · exact (h.covered q hq x hx).imp_right .inr

/-- An invalid plan adds the stubs whose names are free, and these are in use from then on. -/
theorem cons_stub {stubs : List Accessor} (hstubs : stubs = withFreeNames taken (p.accessors owner true))
    (h : Synthesized named (taken ++ stubs.map (·.method)) plans out) (hnamed : named ⊆ taken) :
    Synthesized named taken (p :: plans) (stubs ++ out) := by
  obtain ⟨hnodup, hfree⟩ := withFreeNames_free taken (p.accessors owner true)
  have hcovers := withFreeNames_covers taken (p.accessors owner true)
  rw [← hstubs] at hnodup hfree hcovers
  have hstub : ∀ a ∈ stubs, a.stubbed = true := by
    intro a ha
    exact FieldPlan.stubbed_of_mem_accessors ((withFreeNames_sublist _ _).mem (hstubs ▸ ha))
  refine ⟨fun a ha hvalid => ?_, fun a ha ha' => ?_, ?_, fun q hq x hx => ?_⟩
  · rcases List.mem_append.mp ha with ha | ha
    · rw [hstub a ha] at hvalid
      cases hvalid
    · exact h.named a ha hvalid
  · refine (List.mem_append.mp ha).elim (hfree a) fun ha htaken => ?_
    exact h.free a ha ha' (List.mem_append_left _ htaken)
  · refine List.pairwise_append.mpr ⟨?_, h.apart, fun a ha b hb _ heq => ?_⟩
    · refine (List.pairwise_map.mp hnodup).imp fun {a b} (hne : a.method ≠ b.method) => ?_
      exact fun _ => hne
    · -- a later stub knows the name of `a`, and a later accessor has one that `a` had to avoid
      cases hb' : b.stubbed with
      | true => exact h.free b hb hb' (List.mem_append_right _ (heq ▸ List.mem_map_of_mem ha))
      | false => exact hfree a ha (heq ▸ hnamed (h.named b hb hb'))
  · rw [List.map_append, List.mem_append]
    rcases List.mem_cons.mp hq with rfl | hq
    · rw [← q.map_method_accessors owner true] at hx
      obtain ⟨a, ha, rfl⟩ := List.mem_map.mp hx
      exact (hcovers a ha).imp_right .inl
    · rcases h.covered q hq x hx with hx | hx
      · exact (List.mem_append.mp hx).imp_right .inl
      · exact .inr (.inr hx)

end Synthesized

namespace DataType

theorem synthesized_accessorsFrom (owner : Ident) {named taken : List Label} {plans : List FieldPlan}
    (hnamed : named ⊆ taken) (hvalid : ∀ p ∈ plans, p.valid = true → p.methods ⊆ named) :
    Synthesized named taken plans (accessorsFrom owner .stub taken plans) := by
  induction plans generalizing taken with
  | nil => exact .nil
  | cons p rest ih =>
      have hrest := fun q hq => hvalid q (List.mem_cons_of_mem _ hq)
      cases hv : p.valid with
      | true =>
          rw [accessorsFrom_valid owner .stub taken rest hv]
          exact (ih hnamed hrest).cons_valid hnamed (hvalid p List.mem_cons_self hv)
      | false =>
          rw [accessorsFrom_stub owner taken rest hv]
          exact .cons_stub rfl (ih (List.subset_append_of_subset_left _ hnamed) hrest) hnamed

section
variable (t : DataType)

/-- The accessors that are no stubs are those there are where invalid plans are skipped. -/
theorem filter_stub : (t.accessors .stub).filter (!·.stubbed) = t.accessors .skip := by
  rw [filter_accessors t .stub (fun a ha => by rw [ha, Bool.not_true]), accessors_skip]
  refine List.flatMap_congr fun p _ => List.filter_eq_self.mpr fun a ha => ?_
  rw [FieldPlan.stubbed_of_mem_accessors ha, Bool.not_false]

theorem synthesized_accessors :
    Synthesized (t.validPlans.flatMap (·.methods)) (t.validPlans.flatMap (·.methods)) t.plans
      (t.accessors .stub) := by
  refine synthesized_accessorsFrom t.ident (List.Subset.refl _) fun p hp hv x hx => ?_
  exact List.mem_flatMap.mpr ⟨p, List.mem_filter.mpr ⟨hp, hv⟩, hx⟩

variable {t} in
/-- Each method of a plan can be called, be it by a method of another plan. -/
theorem exists_accessor {p : FieldPlan} (hp : p ∈ t.plans) {x : Label} (hx : x ∈ p.methods) :
    ∃ a ∈ t.accessors .stub, a.method = x := by
  rcases (synthesized_accessors t).covered p hp x hx with hx | hx
  · -- the name is in use by a valid plan, whose methods are all there
    obtain ⟨q, hq, hx⟩ := List.mem_flatMap.mp hx
    rw [← q.map_method_accessors t.ident false] at hx
    obtain ⟨a, ha, rfl⟩ := List.mem_map.mp hx
    have ha : a ∈ t.accessors .skip := accessors_skip t ▸ List.mem_flatMap.mpr ⟨q, hq, ha⟩
    exact ⟨a, (List.mem_filter.mp (filter_stub t ▸ ha)).1, rfl⟩
  · exact List.mem_map.mp hx

/-- The accessors of a type without stubs are those with stubs that are none, stubs share no name with
any other accessor, and with them every plan is callable. -/
theorem accessors_stub :
    t.accessors .skip = (t.accessors .stub).filter (!·.stubbed) ∧
      (t.accessors .stub).Pairwise StubsApart ∧
      ∀ p ∈ t.plans, (∃ a ∈ t.accessors .stub, a.method = p.name.getter) ∧
        (p.writable = true → ∃ a ∈ t.accessors .stub, a.method = p.name.setter) := by
  refine ⟨(filter_stub t).symm, (synthesized_accessors t).apart, fun p hp => ⟨?_, fun hw => ?_⟩⟩
  · exact exists_accessor hp (FieldPlan.mem_methods.mpr (.inl rfl))
  · exact exists_accessor hp (FieldPlan.mem_methods.mpr (.inr ⟨hw, rfl⟩))

end

end DataType

end AccessorSchema
