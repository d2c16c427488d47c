import AccessorSchema.Proofs.Getters
import AccessorSchema.Schema.Expansion

/-! # Plans and the fields that store them

Accessors are made from plans, the fields of a struct from what the source declares and what is
inherited; the two meet by name.  Where nothing is reported a type has one plan for each name at most
(`Struct.Yields`), so a plan finds the field it was made for, or the one added for it.  What gets in
between are fields that the source leaves out of the schema: they are not checked, but stand for the
storage of a plan of their name.  `forall_isPrivate_iff` says which of them open what should be private,
`types_storage_of_inherited` and `types_storage_of_own` which of them change a type. -/

namespace AccessorSchema

open FieldPlan

/-! ### Fields of a struct -/

theorem Field.of_member? {f : Field} {m : MemberDecl} (h : f.member? = some m) :
    m.ident = f.ident ∧ m.ty = f.ty ∧ (m.surface.isField = true → m.surface = .field f.vis.value) := by
  unfold member? at h
  dsimp only at h
  split at h
  · cases h
  · obtain rfl := Option.some.inj h
    refine ⟨rfl, rfl, ?_⟩
    dsimp only
    split
    · intro hfield
      cases hfield
    · exact fun _ => rfl

namespace Struct

/-- The declared fields of a name. -/
def declared (s : Struct) (x : Ident) : List Field := (namedFields s.fields).filter (·.ident.value == x)

/-- Those of them that are left out of the schema. -/
def skipped (s : Struct) (x : Ident) : List Field := (s.declared x).filter (·.member?.isNone)

theorem mem_skipped {s : Struct} {x : Ident} {f : Field} :
    f ∈ s.skipped x ↔ f ∈ namedFields s.fields ∧ f.ident.value = x ∧ f.member? = none := by
  rw [skipped, declared, List.mem_filter, List.mem_filter, beq_iff_eq, Option.isNone_iff_eq_none, and_assoc]

end Struct

/-- The plans of the members among some fields have the types of these fields. -/
theorem Field.types_classify (resolver : Resolver) (owner : Ident) (mode : Mode) (own : List Field)
    (x : Ident) :
    (((own.filterMap (·.member?)).map (·.classify resolver owner mode)).filter
      (·.backing.value == x)).map (·.ty.value) =
      ((own.filter (·.ident.value == x)).filter (·.member?.isSome)).map (·.ty.value) := by
  induction own with
  | nil => rfl
  | cons f rest ih =>
      cases hm : f.member? with
      | none =>
          rw [List.filterMap_cons_none hm, ih]
          by_cases hx : f.ident.value = x
          · simp [hx, hm]
          · simp [hx]
      | some m =>
          obtain ⟨hident, hty, -⟩ := Field.of_member? hm
          rw [List.filterMap_cons_some hm, List.map_cons]
          by_cases hx : f.ident.value = x
          · simpa [hx, hm, MemberDecl.classify, MemberDecl.planNamed, hident, hty] using ih
          · simpa [hx, MemberDecl.classify, MemberDecl.planNamed, hident] using ih

namespace DataType

variable (t : DataType)

@[simp] theorem ownStorage_ident (f : Field) : (t.ownStorage f).ident = f.ident := by
  unfold ownStorage
  split <;> rfl

@[simp] theorem ownStorage_ty (f : Field) : (t.ownStorage f).ty = f.ty := by
  unfold ownStorage
  split <;> rfl

theorem namedFields_storedFields {fields : Fields}
    (h : ∀ ps trailing, fields ≠ .positional ps trailing) :
    Struct.namedFields (t.storedFields fields) = t.storage (Struct.namedFields fields) := by
  cases fields with
  | named own trailing => rfl
  | positional ps trailing => exact absurd rfl (h ps trailing)
  | unit =>
      show Struct.namedFields (if t.inheritedPlans.isEmpty then .unit else .named (t.storage []) false) =
        t.storage []
      split
      · rename_i hnone
        rw [storage, List.isEmpty_iff.mp hnone]
        rfl
      · rfl

/-- What is stored under a name: what is inherited under it, unless it is declared, and what is declared. -/
theorem filter_storage (own : List Field) (x : Ident) :
    ((t.storage own).filter (·.ident.value == x)).map (·.ty.value) =
      (if (own.filter (·.ident.value == x)).isEmpty then
        (t.inheritedPlans.filter (·.backing.value == x)).map (·.ty.value) else []) ++
      (own.filter (·.ident.value == x)).map (·.ty.value) := by
  have hown : ((own.map t.ownStorage).filter (·.ident.value == x)).map (·.ty.value) =
      (own.filter (·.ident.value == x)).map (·.ty.value) := by
    rw [List.filter_map, List.map_map]
    simp [Function.comp_def]
  have hmissing : (t.inheritedPlans.filter fun p =>
      !own.any (·.ident.value == p.backing.value)).filter (·.backing.value == x) =
      if (own.filter (·.ident.value == x)).isEmpty then t.inheritedPlans.filter (·.backing.value == x)
        else [] := by
    rw [List.filter_filter]
    split
    · rename_i hnew
      rw [List.isEmpty_iff, List.filter_eq_nil_iff] at hnew
      refine List.filter_congr fun p _ => ?_
      by_cases hp : p.backing.value = x
      · simpa [hp] using hnew
      · simp [hp]
    · rename_i hdeclared
      rw [List.isEmpty_iff, List.filter_eq_nil_iff] at hdeclared
      rw [List.filter_eq_nil_iff]
      intro p _ hp
      rw [Bool.and_eq_true, beq_iff_eq] at hp
      refine hdeclared fun f hf hx => ?_
      simp only [hp.1, Bool.not_eq_true', List.any_eq_false] at hp
      exact hp.2 f hf hx
  have hinherited : (((t.inheritedPlans.filter fun p =>
      !own.any (·.ident.value == p.backing.value)).map t.inheritedStorage).filter
        (·.ident.value == x)).map (·.ty.value) =
      if (own.filter (·.ident.value == x)).isEmpty then
        (t.inheritedPlans.filter (·.backing.value == x)).map (·.ty.value) else [] := by
    have hname : (fun f : Field => f.ident.value == x) ∘ t.inheritedStorage =
        fun p => p.backing.value == x := rfl
    have hty : (fun f : Field => f.ty.value) ∘ t.inheritedStorage = fun p => p.ty.value := rfl
    rw [List.filter_map, List.map_map, hname, hty, hmissing]
    split <;> rfl
  rw [storage, List.filter_append, List.map_append, hown, hinherited]

end DataType

/-! ### Accessors of valid plans -/

namespace DataType

theorem accessors_of_valid {t : DataType} (h : ∀ p ∈ t.plans, p.valid = true) (policy : InvalidPolicy) :
    t.accessors policy = t.plans.flatMap (·.accessors t.ident false) := by
  have hfrom : ∀ taken plans, (∀ p ∈ plans, p.valid = true) →
      accessorsFrom t.ident policy taken plans = plans.flatMap (·.accessors t.ident false) := by
    intro taken plans hplans
    induction plans with
    | nil => rfl
    | cons p rest ih =>
        rw [accessorsFrom_valid _ _ _ _ (hplans p List.mem_cons_self), List.flatMap_cons,
          ih fun q hq => hplans q (List.mem_cons_of_mem _ hq)]
  exact hfrom _ _ h

end DataType

theorem FieldPlan.of_mem_accessors {p : FieldPlan} {owner : Ident} {a : Accessor}
    (h : a ∈ p.accessors owner false) : a.backing = p.backing.value ∧ a.key = p.key := by
  rcases List.mem_cons.mp h with rfl | h
  · exact ⟨rfl, key_getter p owner false⟩
  · split at h
    · rw [List.mem_singleton.mp h]
      exact ⟨rfl, key_getter p owner false⟩
    · cases h

theorem DataType.exists_touching_iff {t : DataType} (h : ∀ p ∈ t.plans, p.valid = true)
    (policy : InvalidPolicy) (x : Ident) :
    (∃ a ∈ t.accessors policy, a.backing = x) ↔ ∃ p ∈ t.plans, p.backing.value = x := by
  rw [accessors_of_valid h]
  constructor
  · rintro ⟨a, ha, rfl⟩
    obtain ⟨p, hp, ha⟩ := List.mem_flatMap.mp ha
    exact ⟨p, hp, (of_mem_accessors ha).1.symm⟩
  · rintro ⟨p, hp, rfl⟩
    exact ⟨p.getter t.ident false, List.mem_flatMap.mpr ⟨p, hp, List.mem_cons_self⟩, rfl⟩

/-- What no rule on privacy complains about is private. -/
theorem FieldPlan.isPrivate_of_reports {owner : Ident} {p : FieldPlan} {vis : Vis}
    (h : p.reports owner .immutable = []) (hp : p.surface = .field vis) : vis.isPrivate = true := by
  unfold reports at h
  have hprivacy := (List.append_eq_nil_iff.mp (List.append_eq_nil_iff.mp h).1).2
  simp only [privacyReports, hp, Mode.isMutable] at hprivacy
  by_contra hvis
  simp [hvis] at hprivacy

/-! ### One struct -/

/-- The type came of the struct, among others, and nothing was reported. -/
structure Struct.Yields (st : Struct) (t : DataType) : Prop where
  nodup : (t.plans.map (·.backing.value)).Nodup
  valid : ∀ p ∈ t.plans, p.valid = true
  reports : ∀ p ∈ t.ownPlans, p.reports t.ident t.mode = []
  members : ∀ f ∈ namedFields st.fields, ∀ m, f.member? = some m →
    ∃ p ∈ t.ownPlans, p.backing = f.ident ∧ p.surface = m.surface
  storage : namedFields (st.withStorage t).fields = t.storage (namedFields st.fields)

namespace Struct.Yields

variable {st : Struct} {t : DataType} (h : st.Yields t)

include h

theorem eq_of_backing {p q : FieldPlan} (hp : p ∈ t.plans) (hq : q ∈ t.plans)
    (hpq : p.backing.value = q.backing.value) : p = q :=
  List.inj_on_of_nodup_map h.nodup hp hq hpq

/-- The own plan that a field of that name is stored for. -/
theorem find?_ownPlans {p : FieldPlan} (hp : p ∈ t.plans) :
    t.ownPlans.find? (·.backing.value == p.backing.value) =
      if p.isInheritedBy t.ident then none else some p := by
  rw [← List.head?_filter, DataType.ownPlans, List.filter_comm, filter_of_nodup_map h.nodup hp,
    List.filter_singleton]
  cases p.isInheritedBy t.ident <;> rfl

/-- A declared field of the name of a plan is private in the end if it stores an own property, or was
private. -/
theorem isPrivate_ownStorage_iff {p : FieldPlan} (hp : p ∈ t.plans) {f : Field}
    (hf : f.ident.value = p.backing.value) :
    (t.ownStorage f).vis.value.isPrivate = true ↔
      (p.isInheritedBy t.ident = false ∧ p.surface.isField = false) ∨ f.vis.value.isPrivate = true := by
  have hfind := h.find?_ownPlans hp
  rw [← hf] at hfind
  unfold DataType.ownStorage
  rw [hfind]
  cases hin : p.isInheritedBy t.ident with
  | true => simp
  | false =>
      cases hfield : p.surface.isField with
      | true => simp [hfield]
      | false => simp [hfield, Located.nowhere, Vis.isPrivate]

/-- In an immutable type all that has a plan is stored privately, but for fields that are left out of
the schema: those that stand for the storage of an inherited plan, or of a field. -/
theorem forall_isPrivate_iff (hmode : t.mode = .immutable) :
    (∀ g ∈ t.storage (namedFields st.fields), (∃ p ∈ t.plans, p.backing.value = g.ident.value) →
      g.vis.value.isPrivate = true) ↔
    ∀ p ∈ t.plans, (p.isInheritedBy t.ident = true ∨ p.surface.isField = true) →
      ∀ f ∈ st.skipped p.backing.value, f.vis.value.isPrivate = true := by
  constructor
  · intro hall p hp hkind f hf
    obtain ⟨hf, hname, -⟩ := mem_skipped.mp hf
    have hstored : t.ownStorage f ∈ t.storage (namedFields st.fields) :=
      List.mem_append_right _ (List.mem_map_of_mem hf)
    have hprivate := hall _ hstored ⟨p, hp, by rw [DataType.ownStorage_ident, hname]⟩
    rcases (h.isPrivate_ownStorage_iff hp hname).mp hprivate with ⟨hown, hproperty⟩ | hprivate
    · rw [hown, hproperty] at hkind
      rcases hkind with hkind | hkind <;> cases hkind
    · exact hprivate
  · rintro hskipped g hg ⟨p, hp, hname⟩
    rcases List.mem_append.mp hg with hg | hg
    · obtain ⟨q, -, rfl⟩ := List.mem_map.mp hg
      simp [DataType.inheritedStorage, hmode, Mode.isMutable, Located.nowhere, Vis.isPrivate]
    · obtain ⟨f, hf, rfl⟩ := List.mem_map.mp hg
      rw [DataType.ownStorage_ident] at hname
      refine (h.isPrivate_ownStorage_iff hp hname.symm).mpr ?_
      cases hm : f.member? with
      | some m =>
          obtain ⟨q, hq, hbacking, hsurface⟩ := h.members f hf m hm
          obtain rfl := h.eq_of_backing hp (DataType.mem_ownPlans.mp hq).1 (by rw [hname, hbacking])
          cases hfield : p.surface.isField with
          | false => exact .inl ⟨(DataType.mem_ownPlans.mp hq).2, rfl⟩
          | true =>
              rw [hsurface] at hfield
              have hreports := h.reports p hq
              rw [hmode] at hreports
              exact .inr (isPrivate_of_reports hreports
                (hsurface.trans ((Field.of_member? hm).2.2 hfield)))
      | none =>
          have hf : f ∈ st.skipped p.backing.value := mem_skipped.mpr ⟨hf, hname.symm, hm⟩
          cases hin : p.isInheritedBy t.ident with
          | true => exact .inr (hskipped p hp (.inl hin) f hf)
          | false =>
              cases hfield : p.surface.isField with
              | true => exact .inr (hskipped p hp (.inr hfield) f hf)
              | false => exact .inl ⟨rfl, rfl⟩

theorem filter_inheritedPlans {p : FieldPlan} (hp : p ∈ t.plans) :
    t.inheritedPlans.filter (·.backing.value == p.backing.value) =
      if p.isInheritedBy t.ident then [p] else [] := by
  rw [DataType.inheritedPlans, List.filter_comm, filter_of_nodup_map h.nodup hp, List.filter_singleton]
  cases p.isInheritedBy t.ident <;> rfl

section types
variable {resolver : Resolver} {owner : Ident} {mode : Mode} (hown : t.ownPlans =
    ((namedFields st.fields).filterMap (·.member?)).map (·.classify resolver owner mode))
  {p : FieldPlan} (hp : p ∈ t.plans)

include hown hp

/-- Of the declared fields of a name one is a member, if the plan of that name is own. -/
theorem types_members :
    ((st.declared p.backing.value).filter (·.member?.isSome)).map (·.ty.value) =
      if p.isInheritedBy t.ident then [] else [p.ty.value] := by
  rw [declared, ← Field.types_classify resolver owner mode, ← hown, DataType.ownPlans,
    List.filter_comm, filter_of_nodup_map h.nodup hp, List.filter_singleton]
  cases p.isInheritedBy t.ident <;> rfl

/-- What is inherited is stored as planned unless it is declared, or if it is declared once with the
type of the plan. -/
theorem types_storage_of_inherited (hin : p.isInheritedBy t.ident = true) :
    ((t.storage (namedFields st.fields)).filter (·.ident.value == p.backing.value)).map (·.ty.value) =
        [p.ty.value] ↔
      st.skipped p.backing.value = [] ∨ (st.skipped p.backing.value).map (·.ty.value) = [p.ty.value] := by
  have hskipped : st.skipped p.backing.value = st.declared p.backing.value := by
    have hmembers := h.types_members hown hp
    rw [hin, if_pos rfl, List.map_eq_nil_iff, List.filter_eq_nil_iff] at hmembers
    refine List.filter_eq_self.mpr fun f hf => ?_
    simpa using hmembers f hf
  rw [DataType.filter_storage, h.filter_inheritedPlans hp, hin, ← declared, hskipped]
  cases st.declared p.backing.value with
  | nil => simp
  | cons f rest => simp

/-- A member is stored as planned unless a field of its name is left out of the schema. -/
theorem types_storage_of_own (hin : p.isInheritedBy t.ident = false) :
    ((t.storage (namedFields st.fields)).filter (·.ident.value == p.backing.value)).map (·.ty.value) =
        [p.ty.value] ↔ st.skipped p.backing.value = [] := by
  have hmembers := h.types_members hown hp
  rw [hin, if_neg Bool.false_ne_true] at hmembers
  have hnone : (if (st.declared p.backing.value).isEmpty then
      (if false = true then [p] else []).map (·.ty.value) else []) = ([] : List Ty) := by
    split <;> rfl
  rw [DataType.filter_storage, h.filter_inheritedPlans hp, hin, ← declared, hnone, List.nil_append]
  constructor
  · intro htypes
    have hlength : (st.declared p.backing.value).length =
        ((st.declared p.backing.value).filter (·.member?.isSome)).length +
          (st.skipped p.backing.value).length := by
      rw [skipped, List.length_eq_length_filter_add (·.member?.isSome)]
      simp
    have hone : ((st.declared p.backing.value).filter (·.member?.isSome)).length = 1 := by
      simpa using congrArg List.length hmembers
    have htotal : (st.declared p.backing.value).length = 1 := by
      simpa using congrArg List.length htypes
    exact List.length_eq_zero_iff.mp (by omega)
  · intro hskipped
    have hall : (st.declared p.backing.value).filter (·.member?.isSome) =
        st.declared p.backing.value := by
      rw [skipped, List.filter_eq_nil_iff] at hskipped
      refine List.filter_eq_self.mpr fun f hf => Option.isSome_iff_ne_none.mpr ?_
      simpa using hskipped f hf
    rw [← hall, hmembers]

end types

end Struct.Yields

end AccessorSchema
