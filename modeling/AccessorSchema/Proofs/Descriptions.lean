import AccessorSchema.Proofs.Exposure
import AccessorSchema.Proofs.Permission
import AccessorSchema.Schema.Emission

/-! # Descriptions along a chain of bases

The description of a type lists what its valid plans expose, those that are writable once more
(`Description.ofType`).  Handing plans down a link keeps the first list, and the second as well unless the
heir is immutable (`Link.readNames_inherit`, `Link.writeNames_inherit`).  So the description of an heir goes
on where that of its base ends (`Run.described_of_base`): whatever the heir declares, its checks take
nothing of the base away. -/

namespace AccessorSchema

open TypeDecl FieldPlan

theorem FieldPlan.writeNames_eq_nil {plans : List FieldPlan} (h : ∀ p ∈ plans, p.writable = false) :
    writeNames plans = [] := by
  rw [writeNames, List.map_eq_nil_iff, List.filter_eq_nil_iff]
  intro p hp
  simp [h p (List.mem_of_mem_filter hp)]

namespace Link

variable (l : Link) (plans : List FieldPlan)

theorem readNames_inherit : readNames (plans.map l.inherit) = readNames plans := by
  rw [readNames, List.filter_map, List.map_map]
  rfl

theorem writeNames_inherit (h : l.heir.mode.isMutable = true) :
    writeNames (plans.map l.inherit) = writeNames plans := by
  have hwritable : ((·.writable) ∘ l.inherit : FieldPlan → Bool) = (·.writable) := by
    funext p
    show (p.writable && l.heir.mode.isMutable) = p.writable
    rw [h, Bool.and_true]
  rw [writeNames, List.filter_map, List.filter_map, hwritable, List.map_map]
  rfl

end Link

/-! ### Descriptions -/

/-- The description that goes with the accessors of a type. -/
def DataType.described (t : DataType) (policy : InvalidPolicy) : Description :=
  .ofType t (.ofType t policy)

namespace DataType

variable (t : DataType) (policy : InvalidPolicy)

theorem described_accessors : (t.described policy).accessors = readNames t.plans :=
  AccessorSet.getterNames_ofType t policy

theorem described_writable : (t.described policy).writable = writeNames t.plans :=
  AccessorSet.setterNames_ofType t policy

end DataType

namespace Run

variable (resolver : Resolver) {ds : List TypeDecl}

/-- An immutable type has no plan that is writable, neither of its own nor inherited. -/
theorem writable_of_immutable : ∀ t ∈ (ofDecls resolver ds).types, ∀ p ∈ t.plans,
    t.mode.isMutable = false → p.writable = false := by
  refine plans_induction resolver ds ?_ ?_
  · intro t ht p hp hmode
    obtain ⟨d, hd, hident⟩ := exists_decl resolver ht
    have hlevel := compiledTo_of_ident resolver ht hd hident
    obtain ⟨m, -, hjudged⟩ := hlevel.exists_member hp
    rw [hjudged.same]
    show (m.classify resolver d.ident d.mode).writable = false
    rw [writable_classify, ← hlevel.mode, hmode, Bool.and_false]
  · intro l _ p _ _ hmode
    show (p.writable && l.heir.mode.isMutable) = false
    rw [hmode, Bool.and_false]

/-- What a type can be asked for starts with what its base can be asked for. -/
theorem described_of_base {t : DataType} (ht : t ∈ (ofDecls resolver ds).types) (policy : InvalidPolicy) :
    AccessorSet.ofType t policy ∈ (ofDecls resolver ds).generated policy ∧
      (t.described policy).accessors.Nodup ∧ (t.described policy).writable.Nodup ∧
      (t.described policy).writable.Sublist (t.described policy).accessors ∧
      (t.mode.isMutable = false → (t.described policy).writable = []) ∧
      ∀ ref, t.base = some ref → ∃ b ∈ (ofDecls resolver ds).types,
        (∀ u ∈ (ofDecls resolver ds).types, u.ident = ref.ident ↔ u = b) ∧
        (t.described policy).accessors = (b.described policy).accessors ++ readNames t.ownPlans ∧
        (t.mode.isMutable = true →
          (t.described policy).writable = (b.described policy).writable ++ writeNames t.ownPlans) := by
  have hsublist : (t.described policy).writable.Sublist (t.described policy).accessors := by
    rw [DataType.described_writable, DataType.described_accessors]
    exact writeNames_sublist t.plans
  have hnodup : (t.described policy).accessors.Nodup := by
    rw [DataType.described_accessors]
    exact nodup_exposed resolver t ht
  refine ⟨List.mem_map_of_mem ht, hnodup, hsublist.nodup hnodup, hsublist, fun hmode => ?_,
    fun ref href => ?_⟩
  · rw [DataType.described_writable]
    exact writeNames_eq_nil fun p hp => writable_of_immutable resolver t ht p hp hmode
  · rcases link_of_mem resolver ht with ⟨hnone, -⟩ | ⟨l, hl, rfl, hinherited⟩
    · rw [hnone] at href
      cases href
    obtain rfl := Option.some.inj (hl.ref.symm.trans href)
    refine ⟨l.base, hl.base, fun u hu => ⟨fun hident => ?_, fun h => h ▸ hl.ident⟩, ?_, fun hmode => ?_⟩
    · exact List.inj_on_of_nodup_map (nodup_types resolver ds) hu hl.base (hident.trans hl.ident.symm)
    · rw [DataType.described_accessors, DataType.described_accessors, plans_eq resolver ds ht, hinherited,
        readNames_append, l.readNames_inherit]
    · rw [DataType.described_writable, DataType.described_writable, plans_eq resolver ds ht, hinherited,
        writeNames_append, l.writeNames_inherit _ hmode]

open Example in
/-- A squire redeclares the name of a hero, which costs him his own field but nothing of the hero's. -/
theorem described_of_base_squire :
    let squire := declare "Squire" (some "Hero") .mutable [field "name" "u8", field "_oath" "u8"]
    let r := ofDecls (fun _ _ => .resolved) [squire, hero]
    ∃ t ∈ r.types, ∃ b ∈ r.types, (t.described .stub).accessors = ["Name", "Oath"] ∧
      (t.described .stub).accessors = (b.described .stub).accessors ++ readNames t.ownPlans ∧
      (t.described .stub).writable = (b.described .stub).writable ++ writeNames t.ownPlans := by
  intro squire r
  have ht : ∃ t ∈ r.types, t.mode.isMutable = true ∧ t.base.isSome = true ∧
      (t.described .stub).accessors = ["Name", "Oath"] := by
    decide +kernel
  obtain ⟨t, ht, hmode, hbase, hnames⟩ := ht
  obtain ⟨ref, href⟩ := Option.isSome_iff_exists.mp hbase
  obtain ⟨-, -, -, -, -, h⟩ := described_of_base _ ht .stub
  obtain ⟨b, hb, -, haccessors, hwritable⟩ := h ref href
  exact ⟨t, ht, b, hb, hnames, haccessors, hwritable hmode⟩

end Run

end AccessorSchema
