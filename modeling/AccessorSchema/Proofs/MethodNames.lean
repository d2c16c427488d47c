import AccessorSchema.Example.Small
import AccessorSchema.Proofs.Provenance
import AccessorSchema.Proofs.Synthesis

/-! # Names of generated methods

Stubs take free names only, so whether the methods of a type differ in name is decided by its valid
plans: `methods_perm` splits the names into theirs and others that are free.  A getter and a setter of
one plan never meet (`getter_ne_setter`), but those of two plans may, since only the exposed names are
checked: `nodup_methods_iff` says when they do not. -/

namespace AccessorSchema

open TypeDecl

/-! ### Names that two plans share -/

namespace FieldPlan

/-- A method of one plan has the name of a method of the other. -/
def ClashesWith (p q : FieldPlan) : Prop :=
  p.name.getter = q.name.getter ∨ (q.writable = true ∧ p.name.getter = q.name.setter) ∨
    (p.writable = true ∧ p.name.setter = q.name.getter) ∨
      (p.writable = true ∧ q.writable = true ∧ p.name.setter = q.name.setter)

instance (p q : FieldPlan) : Decidable (p.ClashesWith q) := inferInstanceAs (Decidable (_ ∨ _))

theorem mem_methods {p : FieldPlan} {x : Label} :
    x ∈ p.methods ↔ x = p.name.getter ∨ p.writable = true ∧ x = p.name.setter := by
  unfold methods
  cases p.writable <;> simp

theorem disjoint_methods_iff {p q : FieldPlan} : p.methods.Disjoint q.methods ↔ ¬p.ClashesWith q := by
  unfold List.Disjoint ClashesWith
  simp only [mem_methods]
  constructor
  · rintro h (hgg | ⟨hq, hgs⟩ | ⟨hp, hsg⟩ | ⟨hp, hq, hss⟩)
    · exact h (.inl rfl) (.inl hgg)
    · exact h (.inl rfl) (.inr ⟨hq, hgs⟩)
    · exact h (.inr ⟨hp, rfl⟩) (.inl hsg)
    · exact h (.inr ⟨hp, rfl⟩) (.inr ⟨hq, hss⟩)
  · rintro h x (rfl | ⟨hp, rfl⟩) (hx | ⟨hq, hx⟩)
    · exact h (.inl hx)
    · exact h (.inr (.inl ⟨hq, hx⟩))
    · exact h (.inr (.inr (.inl ⟨hp, hx⟩)))
    · exact h (.inr (.inr (.inr ⟨hp, hq, hx⟩)))

theorem map_method_accessors (p : FieldPlan) (owner : Ident) (stubbed : Bool) :
    (p.accessors owner stubbed).map (·.method) = p.methods := by
  unfold accessors methods
  cases p.writable <;> rfl

end FieldPlan

/-! ### A field's own methods -/

namespace AccessorName

/-- The words that keep their marker are no methods of a field called `set_` and the word. -/
theorem method_ne_of_pathWord {word : String} (h : word ∈ pathWords) :
    String.ofList (method (stem ("set_" ++ word).toList)) ≠ word := by
  revert word
  decide +kernel

theorem getter_ne_setter (backing : Label) : (derive backing).getter ≠ (derive backing).setter := by
  unfold derive
  dsimp only
  generalize hm : String.ofList (method (stem backing.name.toList)) = m
  intro h
  unfold getterOf at h
  split at h
  · rename_i hword
    have hname : backing.name = "set_" ++ m := congrArg Label.name h
    rw [hname] at hm
    exact method_ne_of_pathWord (List.contains_iff_mem.mp hword) hm
  · have hname : m = "set_" ++ m := congrArg Label.name h
    have hlength := congrArg String.length hname
    rw [String.length_append] at hlength
    have : "set_".length = 4 := rfl
    omega

end AccessorName

theorem FieldPlan.nodup_methods {p : FieldPlan} (h : p.name = .derive p.backing.value) :
    p.methods.Nodup := by
  have hne : p.name.getter ≠ p.name.setter := h ▸ AccessorName.getter_ne_setter p.backing.value
  unfold methods
  cases p.writable <;> simp [hne]

/-! ### Stubs -/

theorem Accessor.withFreeNames_free (taken : List Label) (candidates : List Accessor) :
    ((withFreeNames taken candidates).map (·.method)).Nodup ∧
      ∀ a ∈ withFreeNames taken candidates, a.method ∉ taken := by
  induction candidates generalizing taken with
  | nil => simp [withFreeNames]
  | cons a rest ih =>
      rw [withFreeNames]
      split
      · exact ih taken
      · rename_i hfree
        obtain ⟨hnodup, havoid⟩ := ih (a.method :: taken)
        have hfree' : a.method ∉ taken := fun hm => hfree (List.contains_iff_mem.mpr hm)
        constructor
        · rw [List.map_cons, List.nodup_cons]
          refine ⟨fun hm => ?_, hnodup⟩
          obtain ⟨b, hb, hba⟩ := List.mem_map.mp hm
          exact havoid b hb (hba ▸ List.mem_cons_self)
        · intro b hb
          rcases List.mem_cons.mp hb with rfl | hb
          · exact hfree'
          · exact fun hm => havoid b hb (List.mem_cons_of_mem _ hm)

namespace DataType

/-- The methods of a type are those of its valid plans, and stubs with names of their own. -/
theorem methods_perm (owner : Ident) (policy : InvalidPolicy) (taken : List Label)
    (plans : List FieldPlan) :
    ∃ stubs : List Label, stubs.Nodup ∧ (∀ x ∈ stubs, x ∉ taken) ∧
      ((accessorsFrom owner policy taken plans).map (·.method)).Perm
        ((plans.filter (·.valid)).flatMap (·.methods) ++ stubs) := by
  induction plans generalizing taken with
  | nil => exact ⟨[], .nil, by simp, .nil⟩
  | cons p rest ih =>
      cases hv : p.valid with
      | true =>
          obtain ⟨stubs, hnodup, hfree, hperm⟩ := ih taken
          refine ⟨stubs, hnodup, hfree, ?_⟩
          rw [accessorsFrom_valid owner policy taken rest hv, List.filter_cons_of_pos hv,
            List.flatMap_cons, List.map_append, FieldPlan.map_method_accessors, List.append_assoc]
          exact hperm.append_left _
      | false =>
          have hno : ¬p.valid = true := by simp [hv]
          rw [List.filter_cons_of_neg hno]
          cases policy with
          | skip =>
              rw [accessorsFrom_skip owner taken rest hv]
              exact ih taken
          | stub =>
              obtain ⟨hnodup, hfree⟩ := Accessor.withFreeNames_free taken (p.accessors owner true)
              obtain ⟨later, hnodup', hfree', hperm⟩ := ih
                (taken ++ (Accessor.withFreeNames taken (p.accessors owner true)).map (·.method))
              rw [accessorsFrom_stub owner taken rest hv, List.map_append]
              generalize Accessor.withFreeNames taken (p.accessors owner true) = stubs at *
              refine ⟨stubs.map (·.method) ++ later, ?_, ?_, (hperm.append_left _).trans ?_⟩
              · refine List.nodup_append.mpr ⟨hnodup, hnodup', fun x hx y hy hxy => ?_⟩
                exact hfree' y hy (List.mem_append_right _ (hxy ▸ hx))
              · intro x hx
                rcases List.mem_append.mp hx with hx | hx
                · obtain ⟨a, ha, rfl⟩ := List.mem_map.mp hx
                  exact hfree a ha
                · exact fun hm => hfree' x hx (List.mem_append_left _ hm)
              · rw [← List.append_assoc, ← List.append_assoc]
                exact List.perm_append_comm.append_right _

/-- Stubs or not, the methods of a type differ in name as soon as those of its valid plans do. -/
theorem nodup_accessors_iff (t : DataType) (policy : InvalidPolicy) :
    ((t.accessors policy).map (·.method)).Nodup ↔ (t.validPlans.flatMap (·.methods)).Nodup := by
  obtain ⟨stubs, hnodup, hfree, hperm⟩ := methods_perm t.ident policy
    (t.validPlans.flatMap (·.methods)) t.plans
  rw [accessors, hperm.nodup_iff, List.nodup_append]
  constructor
  · exact fun h => h.1
  · intro h
    refine ⟨h, hnodup, fun x hx y hy hxy => ?_⟩
    exact hfree y hy (hxy ▸ hx)

end DataType

namespace Run

/-- The methods generated for a type differ in name if and only if no two of its valid plans clash. -/
theorem nodup_methods_iff (resolver : Resolver) (ds : List TypeDecl) (policy : InvalidPolicy)
    {t : DataType} (ht : t ∈ (ofDecls resolver ds).types) :
    ((AccessorSet.ofType t policy).members.map (·.method)).Nodup ↔
      t.validPlans.Pairwise fun p q => ¬p.ClashesWith q := by
  have hown : ∀ p ∈ t.validPlans, p.methods.Nodup := fun p hp =>
    FieldPlan.nodup_methods (name_of_mem_types resolver ds ht (List.mem_of_mem_filter hp))
  have hclash : t.validPlans.Pairwise (Function.onFun List.Disjoint (·.methods)) ↔
      t.validPlans.Pairwise fun p q => ¬p.ClashesWith q :=
    List.Pairwise.iff fun _ _ => FieldPlan.disjoint_methods_iff
  show ((t.accessors policy).map (·.method)).Nodup ↔ _
  rw [DataType.nodup_accessors_iff, List.nodup_flatMap, hclash]
  exact and_iff_right hown

section
open Example

theorem nodup_methods_hero :
    let t := (Step.compile (fun _ _ => .resolved) hero false []).data
    t ∈ (ofDecls (fun _ _ => .resolved) [hero]).types ∧
      ((AccessorSet.ofType t .stub).members.map (·.method)).Nodup := by
  intro t
  have ht : t ∈ (ofDecls (fun _ _ => .resolved) [hero]).types := by
    rw [ofDecls_singleton _ rfl]
    exact List.mem_singleton_self _
  exact ⟨ht, (nodup_methods_iff _ _ .stub ht).mpr (by decide +kernel)⟩

/-- Fields `x` and `set_x` are exposed as `X` and `SetX`, but one's setter is the other's getter. -/
theorem exists_method_clash :
    let r := ofDecls (fun _ _ => .resolved) [counter]
    r.diagnostics = [] ∧ ∃ g ∈ r.generated .skip, ¬(g.members.map (·.method)).Nodup := by
  intro r
  have hr : r = ⟨[], ⟨[0], []⟩, [Step.compile (fun _ _ => .resolved) counter false []]⟩ :=
    ofDecls_singleton _ rfl
  rw [hr]
  exact ⟨rfl, _, List.mem_singleton_self _, by decide +kernel⟩

end

end Run

end AccessorSchema
