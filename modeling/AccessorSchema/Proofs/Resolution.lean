import AccessorSchema.Proofs.Complaints
import AccessorSchema.Proofs.Layout
import AccessorSchema.Proofs.Ledger

/-! # What becomes of every type

A run that comes to its end makes one type of each merged declaration and treats its base as it should
(`Run.types_ofDecls?`).  A base is looked up among the types compiled before, but a declared base that counts
is always there, so a type inherits as the ruling on its base says (`Run.inherits_of_ruling`).  The reports on
bases are those of the rulings, type by type, and there are no others (`Run.filter_isOnBase_diagnostics`). -/

namespace AccessorSchema

open TypeDecl

/-! ### Outcomes -/

/-- The rules on a base that is declared. -/
def Rule.isOnBase : Rule → Bool
  | .unknownBase | .cyclicBase | .baseArity => true
  | _ => false

example : (Rule.all.filter (·.isOnBase)).map (·.code) = ["DATA_0008", "DATA_0009", "DATA_0010"] := by
  decide

/-- What a type has of the declaration it inherits from: nothing but its own plans if there is none, and
all plans of the base before its own if there is one. -/
inductive DataType.Inherits (types : List DataType) (d : TypeDecl) (t : DataType) : Option TypeDecl → Prop
  | nothing (hbase : t.base = none) (hplans : t.plans = t.ownPlans) : Inherits types d t none
  | everything {b : Located BaseRef} {e : TypeDecl} {u : DataType} (hb : d.base = some b)
      (hbase : t.base = some b.value) (hu : u ∈ types) (hident : u.ident = e.ident)
      (hplans : t.plans = u.inherit b.value d.mode ++ t.ownPlans) : Inherits types d t (some e)

/-- `t` is the type made of `d`, checked, with what it has of `base`. -/
structure TypeDecl.ResolvedTo (resolver : Resolver) (types : List DataType) (d : TypeDecl)
    (base : Option TypeDecl) (t : DataType) : Prop where
  compiled : CompiledTo resolver types d t
  generics : t.generics = d.generics
  validated : t.validated = true
  inherits : t.Inherits types d base

/-! ### Reports -/

theorem TypeDecl.BaseRuling.isOnBase {ms : List TypeDecl} {d : TypeDecl} {base : Option TypeDecl}
    {reports : List Diagnostic} (h : BaseRuling ms d base reports) :
    reports.filter (·.rule.isOnBase) = reports := by
  cases h <;> rfl

theorem TypeDecl.isOnBase_merge (ds : List TypeDecl) : (merge ds).2.filter (·.rule.isOnBase) = [] := by
  rw [List.filter_eq_nil_iff, merge_reports]
  intro e he
  obtain ⟨x, -, he⟩ := List.mem_flatMap.mp he
  unfold baseConflicts at he
  split at he
  · cases he
  · obtain ⟨other, -, rfl⟩ := List.mem_map.mp he
    exact Bool.false_ne_true

theorem MemberDecl.isOnBase_complaints (resolver : Resolver) (owner : Ident) (mode : Mode)
    (m : MemberDecl) : (m.complaints resolver owner mode).filter (·.rule.isOnBase) = [] := by
  have hexposure : ∀ e ∈ m.exposure?, e.1 = .publicField ∨ e.1 = .publicSetter := by
    intro e he
    unfold exposure? at he
    split at he
    · split at he
      · cases he
      · exact .inl (Option.some.inj he ▸ rfl)
    · obtain ⟨s, -, rfl⟩ := Option.map_eq_some_iff.mp he
      exact .inr rfl
  rw [List.filter_eq_nil_iff]
  intro e he
  simp only [complaints, List.mem_append] at he
  rcases he with ((he | he) | he) | he
  · obtain ⟨r, -, rfl⟩ := List.mem_map.mp he
    cases m.surface.isField <;> simp [Rule.isOnBase]
  · split at he
    · obtain rfl := List.mem_singleton.mp he
      exact Bool.false_ne_true
    · cases he
  · split at he
    · obtain ⟨f, hf, rfl⟩ := List.mem_map.mp he
      rcases hexposure f (Option.mem_toList.mp hf) with h | h <;> simp [h, Rule.isOnBase]
    · cases he
  · split at he
    · obtain rfl := List.mem_singleton.mp he
      exact Bool.false_ne_true
    · cases he

theorem DataType.isOnBase_nameComplaints (t : DataType) :
    t.nameComplaints.filter (·.rule.isOnBase) = [] := by
  rw [List.filter_eq_nil_iff]
  intro e he
  obtain ⟨p, -, he⟩ := List.mem_filterMap.mp he
  unfold FieldPlan.nameComplaint? at he
  split at he
  · cases he
  · obtain ⟨first, -, rfl⟩ := Option.map_eq_some_iff.mp he
    exact Bool.false_ne_true

namespace BaseState

variable {d : TypeDecl} {c : Bool} {known : List DataType} {ref : BaseRef}

/-- A base that is used is the one declared. -/
theorem base_of_ref? (h : (ofDecl d c known).ref? = some ref) : ∃ b, d.base = some b ∧ b.value = ref := by
  unfold ofDecl at h
  split at h
  · cases h
  · rename_i b hb
    split at h
    · exact ⟨b, hb, Option.some.inj h⟩
    · cases h

end BaseState

namespace Step

variable (resolver : Resolver) {d : TypeDecl} (c : Bool) {known : List DataType}

variable (d known) in
@[simp] theorem compile_validated : (compile resolver d c known).data.validated = true := by
  simp [compile, ofPlans, DataType.validate, DataType.resolve]

/-- What a step reports on bases, it reports when it looks at the base. -/
theorem filter_isOnBase_compile (h : ∀ b ∈ known, ∀ p ∈ b.plans, p.origin ≠ d.ident) :
    (compile resolver d c known).diagnostics.filter (·.rule.isOnBase) =
      (compile resolver d c known).base.report?.toList.filter (·.rule.isOnBase) := by
  have hmembers :
      (d.members.flatMap (·.complaints resolver d.ident d.mode)).filter (·.rule.isOnBase) = [] := by
    rw [List.filter_flatMap]
    exact List.flatMap_eq_nil_iff.mpr fun m _ => m.isOnBase_complaints resolver d.ident d.mode
  rw [diagnostics, violations_compile resolver c h, List.filter_append, List.filter_append, hmembers,
    DataType.isOnBase_nameComplaints, List.append_nil, List.append_nil]

end Step

/-! ### Runs -/

section lists
variable {α β γ κ : Type} {l : List α} {l' : List β}

theorem forall₂_of_map_eq {key : α → κ} {key' : β → κ} (h : l.map key = l'.map key') :
    List.Forall₂ (fun a b => a ∈ l ∧ b ∈ l' ∧ key a = key' b) l l' := by
  have hkeys : List.Forall₂ (fun a b => key a = key' b) l l' := by
    rw [← List.forall₂_eq_eq_eq, List.forall₂_map_left_iff, List.forall₂_map_right_iff] at h
    exact h
  refine (List.forall₂_and_left l l').mpr ⟨fun _ ha => ha, ?_⟩
  exact ((List.forall₂_and_left l' l).mpr ⟨fun _ hb => hb, hkeys.flip⟩).flip

theorem flatMap_eq_of_forall₂ {f : α → List γ} {g : β → List γ}
    (h : List.Forall₂ (fun a b => f a = g b) l l') : l.flatMap f = l'.flatMap g := by
  rw [List.flatMap_def, List.flatMap_def, map_eq_of_forall₂ h]

end lists

namespace Run

variable (resolver : Resolver) {ds : List TypeDecl}

/-- The declarations decide on every base, and there is no choice. -/
theorem exists_rulings (ds : List TypeDecl) :
    ∃ (base : TypeDecl → Option TypeDecl) (onBase : TypeDecl → List Diagnostic),
      ∀ d ∈ (merge ds).1, ∀ base' reports,
        BaseRuling (merge ds).1 d base' reports ↔ base' = base d ∧ reports = onBase d := by
  obtain ⟨onBase, honBase⟩ := exists_baseReports ds
  choose! base hbase using honBase
  refine ⟨base, onBase, fun d hd base' reports => ⟨fun h => h.unique (nodup_merge ds) (hbase d hd), ?_⟩⟩
  rintro ⟨rfl, rfl⟩
  exact hbase d hd

/-- Declarations and steps go together. -/
theorem forall₂_scheduled (ds : List TypeDecl) :
    List.Forall₂ (fun d s => d ∈ (merge ds).1 ∧ s ∈ (ofDecls resolver ds).steps ∧ s.data.ident = d.ident)
      (scheduled ds) (ofDecls resolver ds).steps := by
  have hidents := map_ident_scheduled resolver ds
  rw [map_ident_types] at hidents
  refine (forall₂_of_map_eq hidents.symm).imp fun d s h => ?_
  exact ⟨(scheduled_perm ds).mem_iff.mp h.1, h.2.1, h.2.2.symm⟩

/-- A type inherits as the ruling on its base says. -/
theorem inherits_of_ruling {t : DataType} (ht : t ∈ (ofDecls resolver ds).types) {d : TypeDecl}
    (hd : d ∈ (merge ds).1) (hident : t.ident = d.ident) {base : Option TypeDecl}
    {reports : List Diagnostic} (h : BaseRuling (merge ds).1 d base reports) :
    t.Inherits (ofDecls resolver ds).types d base := by
  have hplans := plans_eq resolver ds ht
  have hbase := base_of_ruling resolver ht hd hident h
  have hlink := link_of_mem resolver ht
  cases base with
  | none =>
      rcases hlink with ⟨hnone, hnothing⟩ | ⟨l, hl, rfl, -⟩
      · exact .nothing hnone (by rw [hplans, hnothing, List.nil_append])
      · rw [hl.ref] at hbase
        cases hbase
  | some e =>
      rcases hlink with ⟨hnone, -⟩ | ⟨l, hl, rfl, hinherited⟩
      · rw [hnone] at hbase
        cases hbase
      · obtain ⟨c, known, hcompile, -⟩ := exists_compile_of_type resolver ht hd hident
        have hdeclared := hl.ref
        rw [hcompile, Step.compile_base] at hdeclared
        obtain ⟨b, hb, href⟩ := BaseState.base_of_ref? hdeclared
        rw [hl.ref] at hbase
        refine .everything hb (href ▸ hl.ref) hl.base (hl.ident.trans (Option.some.inj hbase)) ?_
        have hmode := (compiledTo_of_ident resolver ht hd hident).mode
        rw [hplans, hinherited, Link.map_inherit, hmode, href]

/-- Each type is resolved as its declaration has to be. -/
theorem resolvedTo_of_ruling {t : DataType} (ht : t ∈ (ofDecls resolver ds).types) {d : TypeDecl}
    (hd : d ∈ (merge ds).1) (hident : t.ident = d.ident) {base : Option TypeDecl}
    {reports : List Diagnostic} (h : BaseRuling (merge ds).1 d base reports) :
    ResolvedTo resolver (ofDecls resolver ds).types d base t := by
  have hinherits := inherits_of_ruling resolver ht hd hident h
  have hcompiled := compiledTo_of_ident resolver ht hd hident
  obtain ⟨c, known, rfl, -⟩ := exists_compile_of_type resolver ht hd hident
  exact ⟨hcompiled, Step.compile_generics resolver d c known, Step.compile_validated resolver d c known,
    hinherits⟩

/-- The reports on bases are those of the rulings, in the order of compilation. -/
theorem filter_isOnBase_diagnostics {base : TypeDecl → Option TypeDecl}
    {onBase : TypeDecl → List Diagnostic}
    (h : ∀ d ∈ (merge ds).1, BaseRuling (merge ds).1 d (base d) (onBase d)) :
    (ofDecls resolver ds).diagnostics.filter (·.rule.isOnBase) = (scheduled ds).flatMap onBase := by
  have hsteps : List.Forall₂ (fun s d => s.diagnostics.filter (·.rule.isOnBase) = onBase d)
      (ofDecls resolver ds).steps (scheduled ds) := by
    refine (forall₂_scheduled resolver ds).flip.imp fun s d hsd => ?_
    obtain ⟨hd, hs, hident⟩ := hsd
    obtain ⟨base', hruling, -⟩ := exists_ruling resolver hs hd hident
    obtain ⟨c, known, rfl, hnew⟩ := exists_compile_of_ident resolver hs hd hident
    rw [Step.filter_isOnBase_compile resolver c hnew, hruling.isOnBase,
      (hruling.unique (nodup_merge ds) (h d hd)).2]
  have hconflicts : (ofDecls resolver ds).conflicts = (merge ds).2 := rfl
  rw [diagnostics, hconflicts, List.filter_append, isOnBase_merge, List.nil_append, List.filter_flatMap,
    flatMap_eq_of_forall₂ hsteps]

/-- Each declared name is scheduled once. -/
theorem perm_scheduled_names (ds : List TypeDecl) : ((scheduled ds).map (·.ident)).Perm (names ds) :=
  names_merge ds ▸ (scheduled_perm ds).map (·.ident)

theorem map_owner_generated (policy : InvalidPolicy) (ds : List TypeDecl) :
    ((ofDecls resolver ds).generated policy).map (·.owner) = (scheduled ds).map (·.ident) := by
  rw [← map_ident_scheduled resolver, generated, List.map_map]
  rfl

/-- The types of a run are those made of the declarations, in the order of the schedule. -/
theorem forall₂_resolvedTo {base : TypeDecl → Option TypeDecl} {onBase : TypeDecl → List Diagnostic}
    (h : ∀ d ∈ (merge ds).1, BaseRuling (merge ds).1 d (base d) (onBase d)) :
    List.Forall₂ (fun d t => ResolvedTo resolver (ofDecls resolver ds).types d (base d) t)
      (scheduled ds) (ofDecls resolver ds).types := by
  rw [types, List.forall₂_map_right_iff]
  refine (forall₂_scheduled resolver ds).imp fun d s hds => ?_
  obtain ⟨hd, hs, hident⟩ := hds
  exact resolvedTo_of_ruling resolver (List.mem_map_of_mem hs) hd hident (h d hd)

section
open Example

end

open Example in
/-- A type whose own base is out of question is a base like any other. -/
example :
    let r := ofDecls (fun _ _ => .resolved) [declare "Wraith" (some "Ghost") .immutable [], ghost,
      declare "Stray" (some "Nobody") .immutable []]
    (r.types.map fun t => (t.ident.text, t.base.map (·.ident.text), t.plans.length)) =
        [("Ghost", none, 2), ("Wraith", some "Ghost", 2), ("Stray", none, 0)] ∧
      (r.diagnostics.filter (·.rule.isOnBase)).map (fun e => (e.rule, e.symbol)) =
        [(.cyclicBase, "Ghost"), (.unknownBase, "Stray")] := by
  decide +kernel

end Run

end AccessorSchema
