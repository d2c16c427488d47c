import AccessorSchema.Proofs.Lineage

/-! # Which bases count

A declaration inherits from the base it names unless that closes a circle, is not declared, or takes
another number of arguments.  `BaseRuling` lists these cases by the declarations alone, each with what
is reported, and `Run.exists_ruling` says that every step of a run rules like that.  The bases that
count form the ancestry of a declaration: there is exactly one (`Run.exists_chain`), and it never comes
back to a name (`Ancestry.nodup`).  What holds of all types by
going from base to heir is proved with `Run.ancestry_induction`. -/

namespace AccessorSchema

open Relation

namespace TypeDecl

/-! ### Rulings -/

/-- What comes of the base that `d` names: the declaration it inherits from, and the complaint. -/
inductive BaseRuling (ms : List TypeDecl) (d : TypeDecl) : Option TypeDecl → List Diagnostic → Prop
  | absent (hb : d.base = none) : BaseRuling ms d none []
  | cyclic {b : Located BaseRef} (hb : d.base = some b) (hc : IsCyclic ms d.ident) :
      BaseRuling ms d none [⟨.cyclicBase, d.ident.text, [d.ident.text], b.span⟩]
  | unknown {b : Located BaseRef} (hb : d.base = some b) (hc : ¬IsCyclic ms d.ident)
      (hu : ∀ e ∈ ms, e.ident ≠ b.value.ident) :
      BaseRuling ms d none
        [⟨.unknownBase, d.ident.text, [d.ident.text, b.value.display], b.span⟩]
  | arity {b : Located BaseRef} {e : TypeDecl} (hb : d.base = some b) (hc : ¬IsCyclic ms d.ident)
      (he : e ∈ ms) (hident : e.ident = b.value.ident)
      (ha : e.generics.typeParams.length ≠ b.value.args.length) :
      BaseRuling ms d none
        [⟨.baseArity, d.ident.text, [d.ident.text, b.value.display, toString b.value.args.length,
          toString e.generics.typeParams.length], b.span⟩]
  | usable {b : Located BaseRef} {e : TypeDecl} (hb : d.base = some b) (hc : ¬IsCyclic ms d.ident)
      (he : e ∈ ms) (hident : e.ident = b.value.ident)
      (ha : e.generics.typeParams.length = b.value.args.length) :
      BaseRuling ms d (some e) []

namespace BaseRuling

variable {ms : List TypeDecl} {d e : TypeDecl} {base base' : Option TypeDecl}
  {reports reports' : List Diagnostic}

/-- Where no name is declared twice, the declarations leave no choice. -/
theorem unique (hn : (ms.map (·.ident)).Nodup) (h : BaseRuling ms d base reports)
    (h' : BaseRuling ms d base' reports') : base = base' ∧ reports = reports' := by
  have hsame : ∀ {b b' : Located BaseRef}, d.base = some b → d.base = some b' → b = b' :=
    fun hb hb' => Option.some.inj (hb.symm.trans hb')
  have hdecl : ∀ {b : Located BaseRef} {e e' : TypeDecl}, e ∈ ms → e.ident = b.value.ident → e' ∈ ms →
      e'.ident = b.value.ident → e = e' :=
    fun he hi he' hi' => eq_of_ident_eq hn he he' (hi.trans hi'.symm)
  cases h with
  | absent hb => cases h' <;> simp_all
  | cyclic hb hc =>
      cases h' with
      | cyclic hb' => exact ⟨rfl, by rw [hsame hb hb']⟩
      | _ => simp_all
  | unknown hb hc hu =>
      cases h' with
      | unknown hb' => exact ⟨rfl, by rw [hsame hb hb']⟩
      | _ => simp_all
  | arity hb hc he hi ha =>
      cases h' with
      | arity hb' _ he' hi' =>
          obtain rfl := hsame hb hb'
          exact ⟨rfl, by rw [hdecl he hi he' hi']⟩
      | usable hb' _ he' hi' ha' =>
          obtain rfl := hsame hb hb'
          exact absurd (hdecl he hi he' hi' ▸ ha') ha
      | _ => simp_all
  | usable hb hc he hi ha =>
      cases h' with
      | arity hb' _ he' hi' ha' =>
          obtain rfl := hsame hb hb'
          exact absurd (hdecl he hi he' hi' ▸ ha) ha'
      | usable hb' _ he' hi' =>
          obtain rfl := hsame hb hb'
          exact ⟨congrArg some (hdecl he hi he' hi'), rfl⟩
      | _ => simp_all

theorem of_some (h : BaseRuling ms d (some e) reports) :
    e ∈ ms ∧ d.baseName? = some e.ident ∧ ¬IsCyclic ms d.ident := by
  cases h with
  | usable hb hc he hi _ => exact ⟨he, by simp [baseName?, hb, hi], hc⟩

end BaseRuling

/-! ### Ancestries -/

/-- `above` are the declarations that `d` inherits from, root first. -/
inductive Ancestry (ms : List TypeDecl) : List TypeDecl → TypeDecl → Prop
  | root {d : TypeDecl} {reports : List Diagnostic} (h : BaseRuling ms d none reports) :
      Ancestry ms [] d
  | heir {above : List TypeDecl} {e d : TypeDecl} {reports : List Diagnostic}
      (h : Ancestry ms above e) (hd : BaseRuling ms d (some e) reports) : Ancestry ms (above ++ [e]) d

namespace Ancestry

variable {ms above above' : List TypeDecl} {d : TypeDecl}

theorem unique (hn : (ms.map (·.ident)).Nodup) (h : Ancestry ms above d) (h' : Ancestry ms above' d) :
    above = above' := by
  induction h generalizing above' with
  | root hroot =>
      cases h' with
      | root => rfl
      | heir _ hd => cases (hroot.unique hn hd).1
  | heir _ hd ih =>
      cases h' with
      | root hroot => cases (hroot.unique hn hd).1
      | heir h' hd' =>
          obtain rfl := Option.some.inj (hd.unique hn hd').1
          rw [ih h']

theorem reaches (h : Ancestry ms above d) (hd : d ∈ ms) :
    ∀ e ∈ above, TransGen (Extends ms) d.ident e.ident := by
  induction h with
  | root => simp
  | @heir above e d _ _ hde ih =>
      obtain ⟨he, hbase, -⟩ := hde.of_some
      have hstep : Extends ms d.ident e.ident := ⟨d, hd, rfl, hbase⟩
      intro x hx
      rcases List.mem_append.mp hx with hx | hx
      · exact .head hstep (ih he x hx)
      · exact List.mem_singleton.mp hx ▸ .single hstep

/-- Whoever is reached again is cyclic, and has no base that counts. -/
theorem ident_ne (h : Ancestry ms above d) (hd : d ∈ ms) : ∀ e ∈ above, e.ident ≠ d.ident := by
  cases h with
  | root => simp
  | heir h hde =>
      intro e he hident
      exact hde.of_some.2.2 (hident ▸ (Ancestry.heir h hde).reaches hd e he)

/-- No name comes twice. -/
theorem nodup (h : Ancestry ms above d) (hd : d ∈ ms) : ((above ++ [d]).map (·.ident)).Nodup := by
  induction h with
  | root => simp
  | heir h hde ih =>
      rw [List.map_append, List.nodup_append]
      refine ⟨ih hde.of_some.1, by simp, fun x hx y hy => ?_⟩
      obtain ⟨e, he, rfl⟩ := List.mem_map.mp hx
      obtain rfl := List.mem_singleton.mp hy
      exact (Ancestry.heir h hde).ident_ne hd e he

end Ancestry

end TypeDecl

open TypeDecl

/-! ### Steps -/

/-- Judging a base by the types known under the declared names is judging it by the declarations. -/
theorem BaseState.exists_ruling {ms : List TypeDecl} {d : TypeDecl} {c : Bool} {known : List DataType}
    (hc : c = true ↔ IsCyclic ms d.ident)
    (hknown : ∀ y, (DataType.find? known y = none ∧ ∀ e ∈ ms, e.ident ≠ y) ∨
      ∃ base, DataType.find? known y = some base ∧
        ∃ e ∈ ms, e.ident = y ∧ base.generics = e.generics) :
    ∃ base, BaseRuling ms d base (ofDecl d c known).report?.toList ∧
      base.map (·.ident) = (ofDecl d c known).ref?.map (·.ident) := by
  unfold ofDecl
  cases hb : d.base with
  | none => exact ⟨none, .absent hb, rfl⟩
  | some b =>
      cases c with
      | true => exact ⟨none, .cyclic hb (hc.mp rfl), rfl⟩
      | false =>
          have hacyclic : ¬IsCyclic ms d.ident := fun h => Bool.false_ne_true (hc.mpr h)
          rcases hknown b.value.ident with ⟨hnone, hu⟩ | ⟨base, hfind, e, he, hident, hgenerics⟩
          · simp only [checkBase, hnone]
            exact ⟨none, .unknown hb hacyclic hu, rfl⟩
          · simp only [checkBase, hfind, hgenerics]
            by_cases ha : e.generics.typeParams.length = b.value.args.length
            · simp only [ha, beq_self_eq_true]
              exact ⟨some e, .usable hb hacyclic he hident ha, congrArg some hident⟩
            · simp only [Bool.false_eq_true, if_false, beq_eq_false_iff_ne.mpr ha]
              exact ⟨none, .arity hb hacyclic he hident ha, rfl⟩

@[simp] theorem Step.compile_generics (resolver : Resolver) (d : TypeDecl) (c : Bool)
    (known : List DataType) : (Step.compile resolver d c known).data.generics = d.generics := by
  simp [compile, ofPlans, DataType.validate, DataType.resolve]

/-! ### Runs -/

namespace Run

variable (resolver : Resolver) {ds : List TypeDecl}

/-- The step that compiled a declaration, among types none of whose plans come from it. -/
theorem exists_compile_of_ident {s : Step} (hs : s ∈ (ofDecls resolver ds).steps) {d : TypeDecl}
    (hd : d ∈ (merge ds).1) (hident : s.data.ident = d.ident) :
    ∃ c known, s = Step.compile resolver d c known ∧
      ∀ b ∈ known, ∀ p ∈ b.plans, p.origin ≠ d.ident := by
  obtain ⟨e, he, c, known, rfl, hnew⟩ := exists_compile resolver ds hs
  rw [Step.compile_ident] at hident
  obtain rfl := eq_of_ident_eq (nodup_merge ds) he hd hident
  exact ⟨c, known, rfl, hnew⟩

/-- The type of a declaration is what its step made of it. -/
theorem exists_compile_of_type {t : DataType} (ht : t ∈ (ofDecls resolver ds).types) {d : TypeDecl}
    (hd : d ∈ (merge ds).1) (hident : t.ident = d.ident) :
    ∃ c known, t = (Step.compile resolver d c known).data ∧
      ∀ b ∈ known, ∀ p ∈ b.plans, p.origin ≠ d.ident := by
  obtain ⟨s, hs, rfl⟩ := List.mem_map.mp ht
  obtain ⟨c, known, rfl, hnew⟩ := exists_compile_of_ident resolver hs hd hident
  exact ⟨c, known, rfl, hnew⟩

theorem exists_decl {t : DataType} (ht : t ∈ (ofDecls resolver ds).types) :
    ∃ d ∈ (merge ds).1, t.ident = d.ident := by
  obtain ⟨s, hs, rfl⟩ := List.mem_map.mp ht
  obtain ⟨d, hd, c, known, rfl, -⟩ := exists_compile resolver ds hs
  exact ⟨d, hd, Step.compile_ident resolver d c known⟩

variable (ds) in
theorem find?_types_cases (y : Ident) :
    (DataType.find? (ofDecls resolver ds).types y = none ∧ ∀ e ∈ (merge ds).1, e.ident ≠ y) ∨
      ∃ base, DataType.find? (ofDecls resolver ds).types y = some base ∧
        ∃ e ∈ (merge ds).1, e.ident = y ∧ base.generics = e.generics := by
  by_cases hy : y ∈ names ds
  · obtain ⟨s, hs, rfl⟩ := exists_step resolver ds hy
    refine .inr ⟨s.data, find?_types_of_mem resolver ds hs, ?_⟩
    obtain ⟨d, hd, c, known, rfl, -⟩ := exists_compile resolver ds hs
    exact ⟨d, hd, by simp, by simp⟩
  · refine .inl ⟨find?_types_of_undeclared resolver ds hy, fun e he hident => hy ?_⟩
    rw [← names_merge, ← hident]
    exact List.mem_map_of_mem he

/-- A step reports on the base of its declaration what the ruling says, and inherits accordingly. -/
theorem exists_ruling {s : Step} (hs : s ∈ (ofDecls resolver ds).steps) {d : TypeDecl}
    (hd : d ∈ (merge ds).1) (hident : s.data.ident = d.ident) :
    ∃ base, BaseRuling (merge ds).1 d base s.base.report?.toList ∧
      base.map (·.ident) = s.data.base.map (·.ident) := by
  obtain ⟨e, he, c, hc, rfl⟩ := step_eq resolver ds hs
  rw [Step.compile_ident] at hident
  obtain rfl := eq_of_ident_eq (nodup_merge ds) he hd hident
  rw [Step.compile_base]
  exact BaseState.exists_ruling hc (find?_types_cases resolver ds)

theorem base_of_ruling {t : DataType} (ht : t ∈ (ofDecls resolver ds).types) {d : TypeDecl}
    (hd : d ∈ (merge ds).1) (hident : t.ident = d.ident) {base : Option TypeDecl}
    {reports : List Diagnostic} (h : BaseRuling (merge ds).1 d base reports) :
    t.base.map (·.ident) = base.map (·.ident) := by
  obtain ⟨s, hs, rfl⟩ := List.mem_map.mp ht
  obtain ⟨base', h', hbase⟩ := exists_ruling resolver hs hd hident
  rw [← hbase, (h'.unique (nodup_merge ds) h).1]

/-- A type without a base inherits nothing, and any other has a link to its base. -/
theorem link_of_mem {t : DataType} (ht : t ∈ (ofDecls resolver ds).types) :
    t.base = none ∧ t.inheritedPlans = [] ∨
      ∃ l : Link, l.IsIn (ofDecls resolver ds).types ∧ l.heir = t ∧
        l.heir.inheritedPlans = l.base.plans.map l.inherit := by
  obtain ⟨s, hs, rfl⟩ := List.mem_map.mp ht
  obtain ⟨pre, post, hsplit⟩ := List.append_of_mem hs
  refine (link_of_split resolver ds hsplit).imp_right ?_
  rintro ⟨l, hl, hheir, -, hplans⟩
  exact ⟨l, hl, hheir, hheir ▸ hplans⟩

/-- Every declaration has an ancestry. -/
theorem exists_ancestry : ∀ t ∈ (ofDecls resolver ds).types, ∀ d ∈ (merge ds).1, t.ident = d.ident →
    ∃ above, Ancestry (merge ds).1 above d := by
  have hruling : ∀ t ∈ (ofDecls resolver ds).types, ∀ d ∈ (merge ds).1, t.ident = d.ident →
      ∃ base reports, BaseRuling (merge ds).1 d base reports ∧
        base.map (·.ident) = t.base.map (·.ident) := by
    intro t ht d hd hident
    obtain ⟨s, hs, rfl⟩ := List.mem_map.mp ht
    obtain ⟨base, h, hbase⟩ := exists_ruling resolver hs hd hident
    exact ⟨base, _, h, hbase⟩
  refine types_induction resolver ds ?_ ?_
  · intro t ht hnone _ d hd hident
    obtain ⟨base, reports, h, hbase⟩ := hruling t ht d hd hident
    rw [hnone, Option.map_none, Option.map_eq_none_iff] at hbase
    subst hbase
    exact ⟨[], .root h⟩
  · intro l hl _ ih d hd hident
    obtain ⟨base, reports, h, hbase⟩ := hruling l.heir hl.heir d hd hident
    rw [hl.ref, Option.map_some, Option.map_eq_some_iff] at hbase
    obtain ⟨e, rfl, he⟩ := hbase
    obtain ⟨above, habove⟩ := ih e h.of_some.1 (hl.ident.trans he.symm)
    exact ⟨above ++ [e], .heir habove h⟩

/-- Every type has a declaration, and that has exactly one ancestry. -/
theorem exists_chain {t : DataType} (ht : t ∈ (ofDecls resolver ds).types) :
    ∃ d ∈ (merge ds).1, t.ident = d.ident ∧
      ∃ above, ∀ chain, Ancestry (merge ds).1 chain d ↔ chain = above := by
  obtain ⟨d, hd, hident⟩ := exists_decl resolver ht
  obtain ⟨above, h⟩ := exists_ancestry resolver t ht d hd hident
  exact ⟨d, hd, hident, above, fun chain => ⟨fun h' => h'.unique (nodup_merge ds) h, fun h' => h' ▸ h⟩⟩

/-- Induction from base to heir, with the ancestries of both. -/
theorem ancestry_induction {Q : List TypeDecl → TypeDecl → DataType → Prop}
    (root : ∀ t ∈ (ofDecls resolver ds).types, ∀ d ∈ (merge ds).1, t.ident = d.ident →
      t.inheritedPlans = [] → Q [] d t)
    (heir : ∀ (l : Link) (above : List TypeDecl) (e d : TypeDecl),
      l.IsIn (ofDecls resolver ds).types → e ∈ (merge ds).1 → l.base.ident = e.ident →
      d ∈ (merge ds).1 → l.heir.ident = d.ident → Ancestry (merge ds).1 (above ++ [e]) d →
      l.heir.inheritedPlans = l.base.plans.map l.inherit → Q above e l.base →
      Q (above ++ [e]) d l.heir)
    {above : List TypeDecl} {d : TypeDecl} (h : Ancestry (merge ds).1 above d) (hd : d ∈ (merge ds).1)
    {t : DataType} (ht : t ∈ (ofDecls resolver ds).types) (hident : t.ident = d.ident) :
    Q above d t := by
  induction h generalizing t with
  | root h =>
      -- the ruling decides whether the type has a link, so the other case is out of question
      have hbase := base_of_ruling resolver ht hd hident h
      rcases link_of_mem resolver ht with ⟨-, hplans⟩ | ⟨l, hl, rfl, -⟩
      · exact root t ht _ hd hident hplans
      · rw [hl.ref] at hbase
        cases hbase
  | @heir above e d _ h hde ih =>
      have hbase := base_of_ruling resolver ht hd hident hde
      have he := hde.of_some.1
      rcases link_of_mem resolver ht with ⟨hnone, -⟩ | ⟨l, hl, rfl, hplans⟩
      · rw [hnone] at hbase
        cases hbase
      · rw [hl.ref, Option.map_some, Option.map_some] at hbase
        have hle : l.base.ident = e.ident := hl.ident.trans (Option.some.inj hbase)
        exact heir l above e d hl he hle hd hident (.heir h hde) hplans (ih he hl.base hle)

end Run

end AccessorSchema
