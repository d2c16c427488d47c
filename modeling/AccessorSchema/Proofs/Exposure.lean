import AccessorSchema.Example.Small
import AccessorSchema.Proofs.Lineage

/-! # Names that valid plans expose

An own plan that stays valid exposes a name that no plan before it does (`DataType.checkNames_distinct`).
What is inherited was checked like that where it comes from and keeps its names and its order, so the
same holds of all valid plans of a type (`Run.pairwise_exposed`).  Hence a valid plan is the first of those
exposed under its name (`Run.exposed_first`), no two valid plans are exposed under one name
(`Run.nodup_exposed`), and since accessors are named after the fields behind them, no two are stored
under one name either (`Run.nodup_backing`). -/

namespace AccessorSchema

open TypeDecl FieldPlan

/-- If `q` is valid, it has a name that `p` does not expose. -/
def FieldPlan.LeavesName (p q : FieldPlan) : Prop := q.valid = true → p.name.exposed ≠ q.name.exposed

namespace DataType

/-- After the checks on names an own plan is valid only if its name is new. -/
theorem checkNames_distinct (owner : Ident) (seen : List (String × Ident)) (plans : List FieldPlan) :
    (∀ q ∈ (checkNames owner seen plans).1, q.isInheritedBy owner = false → q.valid = true →
        seen.lookup q.name.exposed = none) ∧
      (checkNames owner seen plans).1.Pairwise fun p q => q.isInheritedBy owner = false → LeavesName p q := by
  induction plans generalizing seen with
  | nil => simp [checkNames]
  | cons p rest ih =>
      cases hl : seen.lookup p.name.exposed with
      | none =>
          obtain ⟨hnew, hdistinct⟩ := ih (seen ++ [(p.name.exposed, p.origin)])
          have hboth : ∀ q ∈ (checkNames owner (seen ++ [(p.name.exposed, p.origin)]) rest).1,
              q.isInheritedBy owner = false → q.valid = true →
              seen.lookup q.name.exposed = none ∧ q.name.exposed ≠ p.name.exposed :=
            fun q hq hown hv => lookup_snoc_eq_none.mp (hnew q hq hown hv)
          rw [checkNames_of_new hl]
          refine ⟨fun q hq hown hv => ?_, List.pairwise_cons.mpr ⟨?_, hdistinct⟩⟩
          · rcases List.mem_cons.mp hq with rfl | hq
            · exact hl
            · exact (hboth q hq hown hv).1
          · exact fun q hq hown hv => (hboth q hq hown hv).2.symm
      | some first =>
          obtain ⟨hnew, hdistinct⟩ := ih seen
          -- the name of `p` is among those seen, so no later plan with a new name shares it
          have hother : ∀ q ∈ (checkNames owner seen rest).1, q.isInheritedBy owner = false →
              q.valid = true → p.name.exposed ≠ q.name.exposed := by
            intro q hq hown hv hexposed
            rw [hexposed, hnew q hq hown hv] at hl
            cases hl
          cases hp : p.isInheritedBy owner with
          | true =>
              rw [checkNames_of_inherited hl hp]
              refine ⟨fun q hq hown hv => ?_, List.pairwise_cons.mpr ⟨hother, hdistinct⟩⟩
              rcases List.mem_cons.mp hq with rfl | hq
              · rw [hp] at hown
                cases hown
              · exact hnew q hq hown hv
          | false =>
              rw [checkNames_of_duplicate hl hp]
              refine ⟨fun q hq hown hv => ?_, List.pairwise_cons.mpr ⟨hother, hdistinct⟩⟩
              rcases List.mem_cons.mp hq with rfl | hq
              · cases hv
              · exact hnew q hq hown hv

end DataType

namespace Run

variable (resolver : Resolver) {ds : List TypeDecl}

/-- An own plan that is valid exposes another name than all plans before it. -/
theorem pairwise_plans {t : DataType} (ht : t ∈ (ofDecls resolver ds).types) :
    t.plans.Pairwise fun p q => q.isInheritedBy t.ident = false → LeavesName p q := by
  obtain ⟨s, hs, rfl⟩ := List.mem_map.mp ht
  obtain ⟨d, -, c, known, rfl, -⟩ := exists_compile resolver ds hs
  rw [Step.compile_ident]
  exact (DataType.checkNames_distinct d.ident [] _).2

/-- A type whose inherited plans are in order is so as a whole. -/
theorem pairwise_exposed_of_inherited {t : DataType} (ht : t ∈ (ofDecls resolver ds).types)
    (hinherited : t.inheritedPlans.Pairwise LeavesName) : t.plans.Pairwise LeavesName := by
  have hdistinct := pairwise_plans resolver ht
  have hown : ∀ q ∈ t.ownPlans, q.isInheritedBy t.ident = false :=
    fun q hq => (DataType.mem_ownPlans.mp hq).2
  rw [plans_eq resolver ds ht, List.pairwise_append] at hdistinct ⊢
  obtain ⟨-, hown', hcross⟩ := hdistinct
  refine ⟨hinherited, hown'.imp_of_mem fun _ hq hpq => hpq (hown _ hq), ?_⟩
  exact fun p hp q hq => hcross p hp q hq (hown q hq)

/-- A valid plan of a type exposes another name than all plans before it, its own or inherited. -/
theorem pairwise_exposed : ∀ t ∈ (ofDecls resolver ds).types, t.plans.Pairwise LeavesName := by
  refine types_induction resolver ds ?_ ?_
  · intro t ht _ hnone
    exact pairwise_exposed_of_inherited resolver ht (hnone ▸ .nil)
  · intro l hl hinherited ih
    refine pairwise_exposed_of_inherited resolver hl.heir ?_
    rw [hinherited]
    exact List.pairwise_map.mpr ih

/-- No two valid plans of a type are exposed under one name. -/
theorem nodup_exposed : ∀ t ∈ (ofDecls resolver ds).types, (t.validPlans.map (·.name.exposed)).Nodup := by
  intro t ht
  refine List.pairwise_map.mpr (((pairwise_exposed resolver t ht).sublist List.filter_sublist).imp_of_mem ?_)
  exact fun _ hq hpq => hpq (List.mem_filter.mp hq).2

/-- A name is exposed by one valid plan at most, and that is the first plan of all with this name. -/
theorem exposed_first {t : DataType} (ht : t ∈ (ofDecls resolver ds).types) :
    (t.validPlans.map (·.name.exposed)).Nodup ∧
      ∀ pre p post, t.plans = pre ++ p :: post → p.valid = true →
        (∀ q ∈ pre, q.name.exposed ≠ p.name.exposed) ∧ t.plan? p.name.exposed = some p := by
  refine ⟨nodup_exposed resolver t ht, fun pre p post heq hv => ?_⟩
  have hordered := pairwise_exposed resolver t ht
  rw [heq, List.pairwise_append] at hordered
  have hfirst : ∀ q ∈ pre, q.name.exposed ≠ p.name.exposed :=
    fun q hq => hordered.2.2 q hq p List.mem_cons_self hv
  have hnone : pre.find? (·.name.exposed == p.name.exposed) = none :=
    List.find?_eq_none.mpr fun q hq => by simpa using hfirst q hq
  refine ⟨hfirst, ?_⟩
  rw [DataType.plan?, heq, List.find?_append, hnone, Option.none_or]
  exact List.find?_cons_of_pos (beq_self_eq_true _)

open Example in
/-- The public glow of a lamp is invalid, and yet a torch cannot expose the name again. -/
theorem exposed_first_torch :
    let r := ofDecls (fun _ _ => .resolved)
      [declare "Lamp" none .immutable [{ field "glow" "u8" with surface := .field .everywhere }],
        declare "Torch" (some "Lamp") .immutable [field "_glow" "u8", field "_oil" "u8"]]
    ∃ t ∈ r.types, t.plans.map (fun p => (p.name.exposed, p.valid)) =
        [("Glow", false), ("Glow", false), ("Oil", true)] ∧
      (t.validPlans.map (·.name.exposed)).Nodup ∧
      ∀ pre p post, t.plans = pre ++ p :: post → p.valid = true →
        (∀ q ∈ pre, q.name.exposed ≠ p.name.exposed) ∧ t.plan? p.name.exposed = some p := by
  intro r
  have ht : ∃ t ∈ r.types, t.plans.map (fun p => (p.name.exposed, p.valid)) =
      [("Glow", false), ("Glow", false), ("Oil", true)] := by
    decide +kernel
  obtain ⟨t, ht, hplans⟩ := ht
  exact ⟨t, ht, hplans, exposed_first _ ht⟩

/-- No two valid plans of a type are stored under one name. -/
theorem nodup_backing {t : DataType} (ht : t ∈ (ofDecls resolver ds).types) :
    (t.validPlans.map (·.backing.value)).Nodup := by
  refine List.Nodup.of_map (fun x : Ident => (AccessorName.derive x).exposed) ?_
  rw [List.map_map]
  have hexposed : t.validPlans.map ((fun x : Ident => (AccessorName.derive x).exposed) ∘ (·.backing.value)) =
      t.validPlans.map (·.name.exposed) :=
    List.map_congr_left fun p hp => by
      rw [name_of_mem_types resolver ds ht (List.mem_of_mem_filter hp)]
      rfl
  rw [hexposed]
  exact nodup_exposed resolver t ht

end Run

end AccessorSchema
