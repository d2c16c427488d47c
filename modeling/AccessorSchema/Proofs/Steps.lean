import AccessorSchema.Compilation.Run
import AccessorSchema.Proofs.BaseChain
import AccessorSchema.Proofs.Fragments

/-! # The steps of a run

A run takes one step for each merged declaration (`map_ident_steps`).  A step is determined by its
declaration, by whether that is cyclic, and by the types compiled before it, among which its base is
if it is declared and waited for (`steps_split`).  Since no name is compiled twice, looking the base up
among the types before the step or among all types of the run comes to the same: `step_eq` describes
every step by the run's own result.  `forall_steps` is induction along a run. -/

namespace AccessorSchema

open TypeDecl

/-- The merged declarations in the order of compilation. -/
def TypeDecl.scheduled (ds : List TypeDecl) : List TypeDecl :=
  (Schedule.ofDecls (merge ds).1).order.filterMap ((merge ds).1[·]?)

namespace DataType

variable {known : List DataType} {x : Ident} {t : DataType}

theorem find?_eq_none_iff : find? known x = none ↔ x ∉ known.map (·.ident) := by
  unfold find?
  rw [List.getLast?_eq_none_iff, List.filter_eq_nil_iff]
  simp

theorem mem_of_find? (h : find? known x = some t) : t ∈ known ∧ t.ident = x := by
  simpa using List.mem_filter.mp (List.mem_of_getLast? h)

theorem find?_eq_some_iff (hn : (known.map (·.ident)).Nodup) :
    find? known x = some t ↔ t ∈ known ∧ t.ident = x := by
  refine ⟨mem_of_find?, fun ⟨ht, hx⟩ => ?_⟩
  cases hu : find? known x with
  | none => exact absurd (hx ▸ List.mem_map_of_mem ht) (find?_eq_none_iff.mp hu)
  | some u =>
      obtain ⟨hu, hux⟩ := mem_of_find? hu
      rw [List.inj_on_of_nodup_map hn hu ht (hux.trans hx.symm)]

end DataType

/-- What is reported on a base is the complaint about some fault. -/
theorem BaseState.exists_fault_of_mem_report? {d : TypeDecl} {c : Bool} {known : List DataType}
    {e : Diagnostic} (h : e ∈ (ofDecl d c known).report?) :
    ∃ b, ∃ fault : BaseFault, e = fault.report d b := by
  unfold ofDecl at h
  split at h
  · cases h
  · split at h
    · cases h
    · exact ⟨_, _, (Option.some.inj h).symm⟩

namespace Step

variable (resolver : Resolver) (d : TypeDecl) (c : Bool) (known : List DataType)

@[simp] theorem compile_ident : (compile resolver d c known).data.ident = d.ident := by
  simp [compile, ofPlans, DataType.validate, DataType.resolve]

/-- A step looks at the types before it for the base it waits for, and for nothing else. -/
theorem ofPlans_congr (own : List FieldPlan) {known known' : List DataType}
    (h : c = false → ∀ y, d.baseName? = some y → DataType.find? known y = DataType.find? known' y) :
    ofPlans d own c known = ofPlans d own c known' := by
  have hbase : BaseState.ofDecl d c known = BaseState.ofDecl d c known' := by
    unfold BaseState.ofDecl
    cases hb : d.base with
    | none => rfl
    | some b =>
        cases c with
        | true => rfl
        | false =>
            have hy := h rfl b.value.ident (by simp [baseName?, hb])
            simp only [checkBase, hy]
  rw [ofPlans, ofPlans, hbase]

theorem compile_congr {known known' : List DataType}
    (h : c = false → ∀ y, d.baseName? = some y → DataType.find? known y = DataType.find? known' y) :
    compile resolver d c known = compile resolver d c known' :=
  ofPlans_congr d c _ h

theorem compile?_congr {known known' : List DataType}
    (h : c = false → ∀ y, d.baseName? = some y → DataType.find? known y = DataType.find? known' y) :
    compile? resolver d c known = compile? resolver d c known' :=
  bind_congr fun own => congrArg pure (ofPlans_congr d c own h)

end Step

namespace Run

variable (resolver : Resolver) (ds : List TypeDecl)

/-! ### Steps in a given order -/

theorem map_ident_compileAll (cyclic : List Nat) (known : List DataType) (order : List Nat) :
    (compileAll resolver ds cyclic known order).map (·.data.ident) =
      order.filterMap fun i => ds[i]?.map (·.ident) := by
  induction order generalizing known with
  | nil => rfl
  | cons i order ih =>
      rw [compileAll]
      cases hd : ds[i]? with
      | none => simp [ih, hd]
      | some d => simp [ih, hd]

/-- A step of a run in a given order, with what comes before it. -/
theorem compileAll_split {cyclic : List Nat} {known : List DataType} {order : List Nat}
    {pre post : List Step} {s : Step}
    (h : compileAll resolver ds cyclic known order = pre ++ s :: post) :
    ∃ before i after d, order = before ++ i :: after ∧ ds[i]? = some d ∧
      pre = compileAll resolver ds cyclic known before ∧
      s = Step.compile resolver d (cyclic.contains i) (known ++ pre.map (·.data)) := by
  induction order generalizing known pre with
  | nil => simp [compileAll] at h
  | cons i order ih =>
      rw [compileAll] at h
      cases hd : ds[i]? with
      | none =>
          rw [hd] at h
          obtain ⟨before, j, after, d, rfl, hj, hpre, hs⟩ := ih h
          exact ⟨i :: before, j, after, d, rfl, hj, by rw [compileAll, hd]; exact hpre, hs⟩
      | some d =>
          rw [hd] at h
          cases pre with
          | nil =>
              obtain ⟨rfl, -⟩ := List.cons_eq_cons.mp h
              exact ⟨[], i, order, d, rfl, hd, rfl, by simp⟩
          | cons t pre =>
              obtain ⟨rfl, hrest⟩ := List.cons_eq_cons.mp h
              obtain ⟨before, j, after, e, rfl, hj, hpre, hs⟩ := ih hrest
              refine ⟨i :: before, j, after, e, rfl, hj, ?_, ?_⟩
              · rw [compileAll, hd, hpre]
              · simpa using hs

/-! ### The steps of a run -/

theorem filterMap_range_getElem? (es : List TypeDecl) : (List.range es.length).filterMap (es[·]?) = es := by
  induction es using List.reverseRecOn with
  | nil => rfl
  | append_singleton es e ih =>
      have hold : (List.range es.length).filterMap ((es ++ [e])[·]?) =
          (List.range es.length).filterMap (es[·]?) :=
        List.filterMap_congr fun i hi => List.getElem?_append_left (List.mem_range.mp hi)
      rw [List.length_append, List.length_singleton, List.range_succ, List.filterMap_append, hold, ih]
      simp

/-- Each merged declaration is scheduled once. -/
theorem scheduled_perm : (scheduled ds).Perm (merge ds).1 := by
  have horder := Schedule.order_perm (Schedule.inRange_parents (merge ds).1)
  rw [Schedule.parents_length] at horder
  exact (horder.filterMap _).trans (.of_eq (filterMap_range_getElem? _))

theorem steps_ofDecls :
    (ofDecls resolver ds).steps =
      compileAll resolver (merge ds).1 (Schedule.ofDecls (merge ds).1).cyclic []
        (Schedule.ofDecls (merge ds).1).order := rfl

/-- A type without a base is compiled by itself in one step. -/
theorem ofDecls_singleton {d : TypeDecl} (h : d.base = none) :
    ofDecls resolver [d] = ⟨[], ⟨[0], []⟩, [Step.compile resolver d false []]⟩ := by
  have hschedule : Schedule.ofDecls [d] = ⟨[0], []⟩ := by
    rw [Schedule.ofDecls, Schedule.parents, List.map_singleton, h]
    show Schedule.ofParents [none] = _
    decide
  unfold ofDecls
  rw [merge_of_nodup [d] (List.nodup_singleton _)]
  simp only [hschedule]
  rfl

/-- A run takes one step for each merged declaration. -/
theorem map_ident_steps :
    ((ofDecls resolver ds).steps.map (·.data.ident)).Perm (names ds) := by
  rw [steps_ofDecls, map_ident_compileAll, ← List.map_filterMap, ← names_merge]
  exact (scheduled_perm ds).map _

theorem nodup_steps : ((ofDecls resolver ds).steps.map (·.data.ident)).Nodup :=
  (map_ident_steps resolver ds).nodup_iff.mpr (nodup_names ds)

theorem map_ident_types : (ofDecls resolver ds).types.map (·.ident) =
    (ofDecls resolver ds).steps.map (·.data.ident) := by
  simp [types]

theorem nodup_types : ((ofDecls resolver ds).types.map (·.ident)).Nodup :=
  map_ident_types resolver ds ▸ nodup_steps resolver ds

theorem exists_step {x : Ident} (hx : x ∈ names ds) :
    ∃ s ∈ (ofDecls resolver ds).steps, s.data.ident = x := by
  simpa using (map_ident_steps resolver ds).mem_iff.mpr hx

/-- A step of a run: its declaration, whether that is cyclic, and the types before it, among them
the base it waits for. -/
theorem steps_split {pre post : List Step} {s : Step}
    (h : (ofDecls resolver ds).steps = pre ++ s :: post) :
    ∃ d ∈ (merge ds).1, ∃ c, (c = true ↔ IsCyclic (merge ds).1 d.ident) ∧
      s = Step.compile resolver d c (pre.map (·.data)) ∧
      (c = false → ∀ y ∈ names ds, d.baseName? = some y → y ∈ pre.map (·.data.ident)) := by
  rw [steps_ofDecls] at h
  obtain ⟨before, i, after, d, horder, hd, hpre, hs⟩ := compileAll_split resolver (merge ds).1 h
  have hn := nodup_merge ds
  have hin := Schedule.order_inOrder (Schedule.parents (merge ds).1)
  have hlt : i < (Schedule.parents (merge ds).1).length := by
    rw [Schedule.parents_length]
    exact (List.getElem?_eq_some_iff.mp hd).1
  have hc : (Schedule.ofDecls (merge ds).1).cyclic.contains i = true ↔
      IsCyclic (merge ds).1 d.ident := by
    rw [List.contains_iff_mem, ← Schedule.isCyclic_parents_iff hn hd]
    exact Schedule.mem_cyclic.trans (and_iff_right hlt)
  refine ⟨d, List.mem_of_getElem? hd, _, hc, hs, fun hfalse y hy hb => ?_⟩
  rw [← names_merge] at hy
  obtain ⟨e, he, rfl⟩ := List.mem_map.mp hy
  obtain ⟨j, hj⟩ := List.mem_iff_getElem?.mp he
  have hwait : Schedule.awaited? (Schedule.parents (merge ds).1) i = some j := by
    rw [Schedule.awaited?_eq_some, Schedule.hasParent_parents_iff hn]
    refine ⟨?_, d, e, hd, hj, hb⟩
    rw [← Bool.not_eq_true, Schedule.isCyclic_parents_iff hn hd, ← hc, hfalse]
    exact Bool.false_ne_true
  rw [hpre, map_ident_compileAll, List.mem_filterMap]
  exact ⟨j, hin.waits before i after horder j hwait, by rw [hj]; rfl⟩

/-- What holds of a step whenever it holds of the steps before it, holds of all steps. -/
theorem forall_steps {Q : Step → Prop}
    (h : ∀ pre s post, (ofDecls resolver ds).steps = pre ++ s :: post → (∀ u ∈ pre, Q u) → Q s) :
    ∀ s ∈ (ofDecls resolver ds).steps, Q s := by
  have hpre : ∀ pre post, (ofDecls resolver ds).steps = pre ++ post → ∀ u ∈ pre, Q u := by
    intro pre
    induction pre using List.reverseRecOn with
    | nil => simp
    | append_singleton pre s ih =>
        intro post hsplit u hu
        rw [List.append_assoc, List.singleton_append] at hsplit
        rcases List.mem_append.mp hu with hu | hu
        · exact ih _ hsplit u hu
        · obtain rfl := List.mem_singleton.mp hu
          exact h pre u post hsplit (ih _ hsplit)
  exact hpre _ [] (List.append_nil _).symm

theorem find?_types_of_mem {s : Step} (hs : s ∈ (ofDecls resolver ds).steps) :
    DataType.find? (ofDecls resolver ds).types s.data.ident = some s.data :=
  (DataType.find?_eq_some_iff (nodup_types resolver ds)).mpr ⟨List.mem_map_of_mem hs, rfl⟩

theorem find?_types_of_undeclared {y : Ident} (hy : y ∉ names ds) :
    DataType.find? (ofDecls resolver ds).types y = none := by
  rw [DataType.find?_eq_none_iff, map_ident_types, (map_ident_steps resolver ds).mem_iff]
  exact hy

/-- A step looks up its base in the types before it, or in all types of the run: it is the same. -/
theorem find?_types_of_split {pre post : List Step} {s : Step}
    (h : (ofDecls resolver ds).steps = pre ++ s :: post) {y : Ident}
    (hy : y ∈ names ds → y ∈ pre.map (·.data.ident)) :
    DataType.find? (pre.map (·.data)) y = DataType.find? (ofDecls resolver ds).types y := by
  have hsplit : (ofDecls resolver ds).types.map (·.ident) =
      (pre.map (·.data)).map (·.ident) ++ ((s :: post).map (·.data)).map (·.ident) := by
    rw [types, h, List.map_append, List.map_append]
  by_cases hd : y ∈ names ds
  · obtain ⟨t, ht, rfl⟩ := List.mem_map.mp (hy hd)
    have hpre : ((pre.map (·.data)).map (·.ident)).Nodup :=
      (List.nodup_append.mp (hsplit ▸ nodup_types resolver ds)).1
    rw [find?_types_of_mem resolver ds (h ▸ List.mem_append_left _ ht)]
    exact (DataType.find?_eq_some_iff hpre).mpr ⟨List.mem_map_of_mem ht, rfl⟩
  · have hnone := find?_types_of_undeclared resolver ds hd
    rw [hnone, DataType.find?_eq_none_iff]
    rw [DataType.find?_eq_none_iff, hsplit] at hnone
    exact fun hm => hnone (List.mem_append_left _ hm)

/-- Every step is determined by its declaration and the types of the whole run. -/
theorem step_eq {s : Step} (hs : s ∈ (ofDecls resolver ds).steps) :
    ∃ d ∈ (merge ds).1, ∃ c, (c = true ↔ IsCyclic (merge ds).1 d.ident) ∧
      s = Step.compile resolver d c (ofDecls resolver ds).types := by
  obtain ⟨pre, post, h⟩ := List.append_of_mem hs
  obtain ⟨d, hd, c, hc, hs, hbase⟩ := steps_split resolver ds h
  refine ⟨d, hd, c, hc, hs.trans ?_⟩
  exact Step.compile_congr resolver d c fun hfalse y hy =>
    find?_types_of_split resolver ds h fun hdecl => hbase hfalse y hdecl hy

end Run

end AccessorSchema
