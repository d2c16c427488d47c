import AccessorSchema.Proofs.Provenance
import AccessorSchema.Proofs.Synthesis

/-! # Rejected members leave no trace

Take the members whose plans ended invalid out of the merged declarations and compile again.  Step by
step the second run does what is left of the first (`compile_surviving`, `compileAll_surviving`): it has
the same schedule, the same types without their invalid plans, and reports on write policies only
(`ofDecls_survivors`).  A type is judged against all plans of its base chain, the invalid ones included;
that these change no verdict on a plan that stays valid is `DataType.validate_surviving`. -/

namespace AccessorSchema

open TypeDecl FieldPlan

/-! ### What is left -/

/-- The declaration without the members whose plans are invalid in `t`, the type compiled from it. -/
def TypeDecl.surviving (d : TypeDecl) (t : DataType) : TypeDecl :=
  { d with members := ((d.members.zip t.ownPlans).filter (·.2.valid)).map (·.1) }

def TypeDecl.survivingIn (types : List DataType) (d : TypeDecl) : TypeDecl :=
  match DataType.find? types d.ident with
  | some t => d.surviving t
  | none => d

def BaseState.surviving : BaseState → BaseState
  | .usable ref base => .usable ref base.surviving
  | state => state

/-- The step without the members that it found invalid. -/
def Step.surviving (s : Step) : Step :=
  { own := s.data.ownPlans.filter (·.valid)
    base := s.base.surviving
    merged := { s.merged with plans := s.data.validPlans }
    data := s.data.surviving
    violations := (s.data.validPlans.filter (!·.isInheritedBy s.merged.ident)).flatMap
      (·.policyReports s.merged.ident s.merged.mode) }

/-- The declarations without the members whose plans ended invalid in the run. -/
def Run.survivors (r : Run) (ds : List TypeDecl) : List TypeDecl := ds.map (·.survivingIn r.types)

@[simp] theorem TypeDecl.survivingIn_ident (types : List DataType) (d : TypeDecl) :
    (d.survivingIn types).ident = d.ident := by
  unfold survivingIn
  split <;> rfl

@[simp] theorem TypeDecl.survivingIn_base (types : List DataType) (d : TypeDecl) :
    (d.survivingIn types).base = d.base := by
  unfold survivingIn
  split <;> rfl

/-! ### Own plans -/

section plans
variable {owner : Ident} {mode : Mode}

/-- The plans of the members that are left are the plans that are valid. -/
theorem MemberDecl.map_classify_surviving (resolver : Resolver) {ms : List MemberDecl}
    {qs : List FieldPlan}
    (h : List.Forall₂ (Judged owner mode) (ms.map (·.classify resolver owner mode)) qs) :
    (((ms.zip qs).filter (·.2.valid)).map (·.1)).map (·.classify resolver owner mode) =
      qs.filter (·.valid) := by
  induction ms generalizing qs with
  | nil =>
      cases h
      rfl
  | cons m ms ih =>
      cases h with
      | @cons _ q _ qs hq hrest =>
          have hms := ih hrest
          cases hv : q.valid with
          | true =>
              have hplan := hq.eq_of_valid hv
              rw [List.zip_cons_cons, List.filter_cons_of_pos (a := (m, q)) hv,
                List.filter_cons_of_pos hv, List.map_cons, List.map_cons, hms, hplan]
          | false =>
              have hno : ¬q.valid = true := by simp [hv]
              rw [List.zip_cons_cons, List.filter_cons_of_neg (a := (m, q)) hno,
                List.filter_cons_of_neg hno, hms]

end plans

/-! ### Bases -/

theorem DataType.find?_map_surviving (known : List DataType) (x : Ident) :
    find? (known.map surviving) x = (find? known x).map surviving := by
  unfold find?
  rw [List.filter_map, List.getLast?_map]
  rfl

theorem DataType.inherit_surviving (base : DataType) (ref : BaseRef) (mode : Mode) :
    base.surviving.inherit ref mode = (base.inherit ref mode).filter (·.valid) := by
  unfold inherit
  rw [List.filter_map]
  rfl

theorem DataType.inherited_surviving (mode : Mode) (state : BaseState) :
    inherited mode state.surviving = (inherited mode state).filter (·.valid) := by
  cases state with
  | usable ref base => exact inherit_surviving base ref mode
  | absent => rfl
  | faulty report => rfl

theorem BaseState.ofDecl_surviving {d d' : TypeDecl} (hident : d'.ident = d.ident)
    (hbase : d'.base = d.base) (c : Bool) (known : List DataType) :
    ofDecl d' c (known.map DataType.surviving) = (ofDecl d c known).surviving := by
  unfold ofDecl
  rw [hbase]
  cases d.base with
  | none => rfl
  | some b =>
      unfold checkBase
      cases c with
      | true => simp [BaseFault.report, hident, surviving]
      | false =>
          simp only [DataType.find?_map_surviving]
          cases DataType.find? known b.value.ident with
          | none => simp [BaseFault.report, hident, surviving]
          | some base =>
              by_cases h : base.generics.typeParams.length = b.value.args.length
              · simp [h, surviving, DataType.surviving]
              · simp [h, surviving, BaseFault.report, hident, DataType.surviving]

/-! ### Steps -/

namespace Step

variable (resolver : Resolver) {d : TypeDecl} (c : Bool) {known : List DataType}

/-- A step follows from what its declaration, its base and the checks come to. -/
theorem compile_eq {own : List FieldPlan} {base : BaseState} {merged data : DataType}
    {violations : List Diagnostic} (hown : d.members.map (·.classify resolver d.ident d.mode) = own)
    (hbase : BaseState.ofDecl d c known = base) (hmerged : DataType.resolve d own base = merged)
    (hvalidate : merged.validate = (data, violations)) :
    compile resolver d c known = ⟨own, base, merged, data, violations⟩ := by
  subst hown hbase hmerged
  simp only [compile, ofPlans, hvalidate]

/-- Compiling what is left of a declaration, after what is left of the types before it. -/
theorem compile_surviving (h : ∀ b ∈ known, ∀ p ∈ b.plans, p.origin ≠ d.ident) :
    compile resolver (d.surviving (compile resolver d c known).data) c
        (known.map DataType.surviving) =
      (compile resolver d c known).surviving := by
  obtain ⟨hplans, hjudged⟩ := plans_compile resolver c h
  have hvalid : (compile resolver d c known).data.validPlans =
      DataType.inherited d.mode (BaseState.ofDecl d c known).surviving ++
        (compile resolver d c known).data.ownPlans.filter (·.valid) := by
    rw [DataType.validPlans, hplans, List.filter_append, DataType.inherited_surviving]
  have href : (BaseState.ofDecl d c known).surviving.ref? = (BaseState.ofDecl d c known).ref? := by
    cases BaseState.ofDecl d c known <;> rfl
  have hown := MemberDecl.map_classify_surviving resolver hjudged
  have hbase : BaseState.ofDecl (d.surviving (compile resolver d c known).data) c
      (known.map DataType.surviving) = (BaseState.ofDecl d c known).surviving :=
    BaseState.ofDecl_surviving rfl rfl c known
  have hmerged : DataType.resolve (d.surviving (compile resolver d c known).data)
      ((compile resolver d c known).data.ownPlans.filter (·.valid))
      (BaseState.ofDecl d c known).surviving =
      { (compile resolver d c known).merged with
        plans := (compile resolver d c known).data.validPlans } := by
    rw [hvalid, DataType.resolve, href]
    rfl
  have hvalidate := DataType.validate_surviving (t := (compile resolver d c known).merged) rfl
  exact compile_eq resolver c hown hbase hmerged hvalidate

end Step

/-! ### Runs -/

theorem Schedule.ofDecls_congr {ds : List TypeDecl} {f : TypeDecl → TypeDecl}
    (hident : ∀ d, (f d).ident = d.ident) (hbase : ∀ d, (f d).base = d.base) :
    Schedule.ofDecls (ds.map f) = Schedule.ofDecls ds := by
  simp [Schedule.ofDecls, Schedule.parents, Function.comp_def, hident, hbase]

namespace Run

variable (resolver : Resolver)

/-- The induction is on the order of compilation: each step finds what is left of the types before it,
none of whose plans comes from the type it compiles. -/
theorem compileAll_surviving {ds : List TypeDecl} {cyclic : List Nat} {types known : List DataType}
    {order : List Nat} (hclosed : DataType.AreClosed known)
    (hn : (known.map (·.ident) ++
      (compileAll resolver ds cyclic known order).map (·.data.ident)).Nodup)
    (hfind : ∀ s ∈ compileAll resolver ds cyclic known order,
      DataType.find? types s.data.ident = some s.data) :
    compileAll resolver (ds.map (·.survivingIn types)) cyclic (known.map DataType.surviving) order =
      (compileAll resolver ds cyclic known order).map Step.surviving := by
  induction order generalizing known with
  | nil => rfl
  | cons i order ih =>
      rw [compileAll, compileAll, List.getElem?_map]
      cases hd : ds[i]? with
      | none =>
          rw [compileAll, hd] at hn hfind
          exact ih hclosed hn hfind
      | some d =>
          rw [compileAll, hd] at hn hfind
          have hleft : d.survivingIn types =
              d.surviving (Step.compile resolver d (cyclic.contains i) known).data := by
            have hself := hfind _ List.mem_cons_self
            rw [Step.compile_ident] at hself
            rw [survivingIn, hself]
          have hnew : ∀ b ∈ known, ∀ p ∈ b.plans, p.origin ≠ d.ident := by
            intro b hb p hp horigin
            refine (List.nodup_append.mp hn).2.2 _ (hclosed b hb p hp) d.ident ?_ horigin
            rw [List.map_cons, Step.compile_ident]
            exact List.mem_cons_self
          have hstep := Step.compile_surviving resolver (cyclic.contains i) hnew
          have hrest := ih (hclosed.snoc resolver d (cyclic.contains i)) (by simpa using hn)
            fun s hs => hfind s (List.mem_cons_of_mem _ hs)
          simp only [Option.map_some, hleft, hstep, List.map_cons]
          rw [← hrest, List.map_append]
          rfl

variable (ds : List TypeDecl)

/-- The run on what is left has the same schedule and what is left of each step. -/
theorem ofDecls_survivors :
    ofDecls resolver ((ofDecls resolver ds).survivors (merge ds).1) =
      ⟨[], (ofDecls resolver ds).schedule, (ofDecls resolver ds).steps.map Step.surviving⟩ := by
  have hnodup : (((ofDecls resolver ds).survivors (merge ds).1).map (·.ident)).Nodup := by
    have hkept : ((·.ident) ∘ TypeDecl.survivingIn (ofDecls resolver ds).types) = (·.ident) :=
      funext fun d => survivingIn_ident _ d
    rw [survivors, List.map_map, hkept]
    exact nodup_merge ds
  have hschedule : Schedule.ofDecls ((ofDecls resolver ds).survivors (merge ds).1) =
      Schedule.ofDecls (merge ds).1 :=
    Schedule.ofDecls_congr (survivingIn_ident _) (survivingIn_base _)
  have hclosed : DataType.AreClosed [] := by simp [DataType.AreClosed]
  have hsteps : compileAll resolver ((ofDecls resolver ds).survivors (merge ds).1)
      (ofDecls resolver ds).schedule.cyclic [] (ofDecls resolver ds).schedule.order =
      (ofDecls resolver ds).steps.map Step.surviving :=
    compileAll_surviving resolver hclosed (nodup_steps resolver ds) fun s hs =>
      find?_types_of_mem resolver ds hs
  rw [ofDecls, merge_of_nodup _ hnodup]
  simp only [hschedule]
  exact congrArg (Run.mk [] _) hsteps

end Run

/-! ### What shows of the rejected members -/

/-- The rules on members, all but those on bases and fragments. -/
def Rule.isOnMembers : Rule → Bool
  | .unknownBase | .cyclicBase | .baseArity | .conflictingBase => false
  | _ => true

example : (Rule.all.filter (·.isOnMembers)).map (·.code) =
    ["DATA_0001", "DATA_0002", "DATA_0003", "DATA_0004", "DATA_0005", "DATA_0006", "DATA_0007"] := by
  decide

theorem DataType.accessors_skip_surviving (t : DataType) :
    t.surviving.accessors .skip = t.accessors .skip := by
  have hvalid : t.surviving.validPlans = t.validPlans := by simp [validPlans, surviving]
  rw [accessors_skip, accessors_skip, hvalid, surviving_ident]

theorem BaseState.isOnMembers_of_mem_report? {d : TypeDecl} {c : Bool} {known : List DataType}
    {e : Diagnostic} (h : e ∈ (ofDecl d c known).report?) : e.rule.isOnMembers = false := by
  obtain ⟨b, fault, rfl⟩ := exists_fault_of_mem_report? h
  cases fault <;> rfl

/-- What a step on the surviving members reports was reported before, and no rejection is left. -/
theorem Step.mem_diagnostics_surviving {resolver : Resolver} {d : TypeDecl} {c : Bool}
    {known : List DataType} {e : Diagnostic}
    (h : e ∈ (Step.compile resolver d c known).surviving.diagnostics) :
    e ∈ (Step.compile resolver d c known).diagnostics ∧
      (e.rule.isOnMembers = true → e.rule = .policyOnImmutable) := by
  rcases List.mem_append.mp h with h | h
  · have hreport : (BaseState.ofDecl d c known).surviving.report? =
        (BaseState.ofDecl d c known).report? := by
      cases BaseState.ofDecl d c known <;> rfl
    have he : e ∈ (BaseState.ofDecl d c known).report? :=
      hreport ▸ Option.mem_toList.mp h
    refine ⟨List.mem_append_left _ (Option.mem_toList.mpr he), fun hrule => ?_⟩
    rw [BaseState.isOnMembers_of_mem_report? he] at hrule
    cases hrule
  · obtain ⟨q, hq, he⟩ := List.mem_flatMap.mp h
    obtain ⟨hq, hown⟩ := List.mem_filter.mp hq
    obtain ⟨hq, hv⟩ := List.mem_filter.mp hq
    obtain ⟨p, hp, hjudged⟩ := DataType.judged_of_mem (t := DataType.resolve d _ _) rfl hq
    have hqp := hjudged.eq_of_valid hv
    refine ⟨List.mem_append_right _ ?_, fun _ => (of_mem_policyReports he).2⟩
    have hreports : e ∈ q.reports d.ident d.mode := by
      unfold reports
      simp only [List.mem_append]
      exact .inl (.inl (.inr he))
    exact List.mem_append_left _ (List.mem_flatMap.mpr
      ⟨q, List.mem_filter.mpr ⟨hqp ▸ hp, hown⟩, hreports⟩)

/-- Rejected members leave no trace in the code generated for the others. -/
theorem Run.ofDecls_without_rejected (resolver : Resolver) (ds : List TypeDecl) :
    let r := ofDecls resolver ds
    let r' := ofDecls resolver (r.survivors (merge ds).1)
    r'.types = r.types.map DataType.surviving ∧
      r'.generated .skip = r.generated .skip ∧
      (∀ t ∈ r'.types, ∀ p ∈ t.plans, p.valid = true) ∧
      ∀ e ∈ r'.diagnostics,
        e ∈ r.diagnostics ∧ (e.rule.isOnMembers = true → e.rule = .policyOnImmutable) := by
  intro r r'
  have hr' : r' = ⟨[], r.schedule, r.steps.map Step.surviving⟩ := ofDecls_survivors resolver ds
  have htypes : r'.types = r.types.map DataType.surviving := by
    rw [hr', types, types, List.map_map, List.map_map]
    rfl
  refine ⟨htypes, ?_, ?_, ?_⟩
  · rw [generated, generated, htypes, List.map_map]
    refine List.map_congr_left fun t _ => ?_
    show AccessorSet.ofType t.surviving .skip = AccessorSet.ofType t .skip
    unfold AccessorSet.ofType
    rw [DataType.accessors_skip_surviving]
    rfl
  · intro t ht p hp
    rw [htypes] at ht
    obtain ⟨u, -, rfl⟩ := List.mem_map.mp ht
    exact (List.mem_filter.mp hp).2
  · intro e he
    have he : e ∈ (r.steps.map Step.surviving).flatMap (·.diagnostics) := by
      rw [hr'] at he
      exact he
    obtain ⟨s', hs', he⟩ := List.mem_flatMap.mp he
    obtain ⟨s, hs, rfl⟩ := List.mem_map.mp hs'
    obtain ⟨d, -, c, -, hstep⟩ := step_eq resolver ds hs
    obtain ⟨hmem, hrule⟩ := Step.mem_diagnostics_surviving (hstep ▸ he)
    exact ⟨List.mem_append_right _ (List.mem_flatMap.mpr ⟨s, hs, hstep ▸ hmem⟩), hrule⟩

end AccessorSchema
