import AccessorSchema.Example.Small
import AccessorSchema.Proofs.Bases
import AccessorSchema.Proofs.Naming

/-! # All that a run reports

The reports of a run, told by the declarations: `TypeDecl.baseConflicts` on the fragments of a type,
and, put together by `TypeDecl.complaints`, a `BaseRuling` on its base, `MemberDecl.complaints` on each
member that it declares and `DataType.nameComplaints` on the names of its plans.  The main statement is
`Run.diagnostics_ofDecls?`: a run that comes to its end reports exactly these, type by type in the order of
compilation, and a run that does not reports nothing.  What a type inherits is not reported again, since only its
own members are looked at. -/

namespace AccessorSchema

open TypeDecl

/-! ### Complaints -/

namespace TypeDecl

/-- The complaints about bases named by the fragments of a type: each is held against the first. -/
def baseConflicts (x : Ident) (fragments : List TypeDecl) : List Diagnostic :=
  match fragments.filterMap (·.base) with
  | [] => []
  | first :: later =>
    (later.filter (·.value != first.value)).map fun other =>
      ⟨.conflictingBase, x.text, [x.text, first.value.display, other.value.display], other.span⟩

end TypeDecl

namespace MemberDecl

variable (resolver : Resolver) (owner : Ident) (mode : Mode) (m : MemberDecl)

/-- The paths a member refers to: those of its decorations in order, then its converter. -/
def references : List (Located Path × Role) :=
  m.decorations.map (fun d => (d.content.path, .decoration)) ++ m.converter.toList.map (·, .converter)

def refused : List (Located Path × Role) :=
  m.references.filter fun r => !(resolver r.1.value r.2).isResolved

/-- What is not as private as an immutable type asks for, with the rule that asks. -/
def exposure? : Option (Rule × Span) :=
  match m.surface with
  | .field vis => if vis.isPrivate then none else some (.publicField, m.ident.span)
  | .property _ setter => (setter.filter (!·.value.isPrivate)).map fun s => (.publicSetter, s.span)

/-- The complaints about a member by itself. -/
def complaints : List Diagnostic :=
  let about (rule : Rule) (args : List String) (span : Span) : Diagnostic :=
    ⟨rule, owner.text ++ "." ++ m.ident.value.text, args, span⟩
  ((m.refused resolver).map fun r =>
      about (if m.surface.isField then .unresolvedField else .unresolvedProperty)
        [m.ident.value.text, r.1.value.key.text] r.1.span) ++
    (if mode = .immutable ∧ m.policy.isSome then [about .policyOnImmutable [owner.text] m.ident.span]
      else []) ++
    (if mode = .immutable then m.exposure?.toList.map fun e => about e.1 [owner.text] e.2 else []) ++
    (if m.kind.isKeyed then [about .keyedMapping [m.ident.value.text, owner.text] m.ty.span] else [])

end MemberDecl

/-- The complaint about an own plan whose name one of the plans before it exposes. -/
def FieldPlan.nameComplaint? (owner : Ident) (earlier : List FieldPlan) (p : FieldPlan) :
    Option Diagnostic :=
  if p.isInheritedBy owner then none
  else
    (earlier.find? (·.name.exposed == p.name.exposed)).map fun first =>
      ⟨.duplicateAccessor, p.symbol owner, [owner.text, p.name.exposed, first.origin.text],
        p.backing.span⟩

/-- The complaints about the accessor names of a type. -/
def DataType.nameComplaints (t : DataType) : List Diagnostic :=
  t.plans.zipIdx.filterMap fun e => e.1.nameComplaint? t.ident (t.plans.take e.2)

/-- All complaints about a type `t` made of `d`: those about its base, its members and its names. -/
def TypeDecl.complaints (resolver : Resolver) (onBase : List Diagnostic) (d : TypeDecl) (t : DataType) :
    List Diagnostic :=
  onBase ++ d.members.flatMap (·.complaints resolver d.ident d.mode) ++ t.nameComplaints

/-! ### Fragments -/

namespace TypeDecl

/-- A fragment is held against the first base before it; it names that base itself if none did. -/
theorem baseConflicts_cons_cons (d f : TypeDecl) (fs : List TypeDecl) :
    baseConflicts d.ident (d :: f :: fs) =
      (d.conflict? f).toList ++ baseConflicts d.ident (d.absorb f :: fs) := by
  cases hd : d.base with
  | none => cases hf : f.base <;> simp [baseConflicts, conflict?, absorb, hd, hf]
  | some first =>
      cases hf : f.base with
      | none => simp [baseConflicts, conflict?, absorb, hd, hf]
      | some other =>
          by_cases h : first.value = other.value
          · simp [baseConflicts, conflict?, absorb, hd, hf, h]
          · have h' : ¬other.value = first.value := fun he => h he.symm
            simp [baseConflicts, conflict?, absorb, hd, hf, h, h']

theorem absorbAll_reports (d : TypeDecl) (fs : List TypeDecl) :
    (d.absorbAll fs).2 = baseConflicts d.ident (d :: fs) := by
  induction fs generalizing d with
  | nil => cases hd : d.base <;> simp [absorbAll, baseConflicts, hd]
  | cons f rest ih =>
      rw [absorbAll, baseConflicts_cons_cons]
      exact congrArg ((d.conflict? f).toList ++ ·) (ih (d.absorb f))

theorem mergeGroup_reports {ds : List TypeDecl} {x : Ident} {m : TypeDecl × List Diagnostic}
    (h : mergeGroup (fragments ds x) = some m) : m.2 = baseConflicts x (byKey (fragments ds x)) := by
  have hident := mergeGroup_ident ds x h
  unfold mergeGroup at h
  cases hb : byKey (fragments ds x) with
  | nil => simp [hb] at h
  | cons first later =>
      simp only [hb, Option.some.injEq] at h
      rw [← h, absorbAll_ident] at hident
      rw [← h, absorbAll_reports, hident]

/-- The reports of merging, name by name. -/
theorem merge_reports (ds : List TypeDecl) :
    (merge ds).2 = (names ds).flatMap fun x => baseConflicts x (byKey (fragments ds x)) := by
  suffices hall : ∀ xs : List Ident, (∀ x ∈ xs, x ∈ names ds) →
      (xs.filterMap fun x => mergeGroup (fragments ds x)).flatMap (·.2) =
        xs.flatMap fun x => baseConflicts x (byKey (fragments ds x)) by
    rw [merge_eq]
    exact hall _ fun _ hx => hx
  intro xs hxs
  induction xs with
  | nil => rfl
  | cons x xs ih =>
      obtain ⟨m, hm⟩ := Option.isSome_iff_exists.mp (mergeGroup_isSome.mpr (hxs x List.mem_cons_self))
      have hrest := ih fun y hy => hxs y (List.mem_cons_of_mem _ hy)
      simp [hm, hrest, mergeGroup_reports hm]

end TypeDecl

/-! ### Members -/

namespace MemberDecl

variable (resolver : Resolver) (owner : Ident) (mode : Mode) (m : MemberDecl)

theorem map_refused : (m.refused resolver).map (·.1) = (m.unresolved resolver).map (·.path) := by
  have hdecorations : ((m.decorations.map fun d => (d.content.path, Role.decoration)).filter
      fun r => !(resolver r.1.value r.2).isResolved).map (·.1) =
      (m.unresolvedDecorations resolver).map (·.path) := by
    rw [List.filter_map, unresolvedDecorations, List.map_map, List.map_map]
    rfl
  have hconverter : ((m.converter.toList.map (·, Role.converter)).filter
      fun r => !(resolver r.1.value r.2).isResolved).map (·.1) =
      (m.unresolvedConverter resolver).map (·.path) := by
    unfold unresolvedConverter
    cases m.converter with
    | none => rfl
    | some c => cases h : (resolver c.value .converter).isResolved <;> simp [h]
  rw [refused, references, List.filter_append, List.map_append, hdecorations, hconverter, unresolved,
    List.map_append]

theorem privacyReports_classify :
    (m.classify resolver owner mode).privacyReports owner mode =
      if mode = .immutable then m.exposure?.toList.map fun e =>
        (⟨e.1, owner.text ++ "." ++ m.ident.value.text, [owner.text], e.2⟩ : Diagnostic) else [] := by
  cases mode with
  | mutable => rfl
  | immutable =>
      unfold FieldPlan.privacyReports exposure?
      simp only [Mode.isMutable, classify, planNamed]
      cases m.surface with
      | field vis => cases h : vis.isPrivate <;> simp [h, FieldPlan.symbol]
      | property vis setter =>
          cases setter with
          | none => rfl
          | some s => cases h : s.value.isPrivate <;> simp [h, FieldPlan.symbol, Option.filter]

/-- The checks on a plan report what there is to complain about its member. -/
theorem reports_classify :
    (m.classify resolver owner mode).reports owner mode = m.complaints resolver owner mode := by
  have hunresolved : (m.classify resolver owner mode).unresolvedReports owner =
      ((m.refused resolver).map (·.1)).map fun path =>
        ⟨if m.surface.isField then .unresolvedField else .unresolvedProperty,
          owner.text ++ "." ++ m.ident.value.text, [m.ident.value.text, path.value.key.text],
          path.span⟩ := by
    rw [map_refused, List.map_map]
    rfl
  have hpolicy : (m.classify resolver owner mode).policyReports owner mode =
      if mode = .immutable ∧ m.policy.isSome then
        [⟨.policyOnImmutable, owner.text ++ "." ++ m.ident.value.text, [owner.text], m.ident.span⟩]
      else [] := by
    unfold FieldPlan.policyReports
    cases mode <;> simp [Mode.isMutable, classify, planNamed, FieldPlan.symbol]
  rw [FieldPlan.reports, hunresolved, hpolicy, privacyReports_classify, List.map_map]
  rfl

end MemberDecl

/-! ### Names -/

namespace DataType

open FieldPlan

/-- `seen` holds the names that the plans expose, each with the origin of the first of them. -/
def Tracks (seen : List (String × Ident)) (plans : List FieldPlan) : Prop :=
  ∀ x, seen.lookup x = (plans.find? (·.name.exposed == x)).map (·.origin)

variable {owner : Ident} {seen : List (String × Ident)} {earlier : List FieldPlan} {p : FieldPlan}

theorem Tracks.nil : Tracks [] [] := fun _ => rfl

theorem Tracks.snoc (h : Tracks seen earlier) :
    Tracks (seen ++ [(p.name.exposed, p.origin)]) (earlier ++ [p]) := by
  intro x
  rw [List.lookup_append, List.find?_append, h x]
  cases earlier.find? (·.name.exposed == x) with
  | some first => rfl
  | none =>
      by_cases hx : p.name.exposed = x
      · simp [hx]
      · simp [List.lookup_cons, hx, beq_eq_false_iff_ne.mpr (Ne.symm hx)]

/-- A name seen before need not be kept again. -/
theorem Tracks.snoc_of_seen (h : Tracks seen earlier) {first : Ident}
    (hp : seen.lookup p.name.exposed = some first) : Tracks seen (earlier ++ [p]) := by
  intro x
  rw [← h.snoc, List.lookup_append]
  by_cases hx : x = p.name.exposed
  · rw [hx, hp]
    rfl
  · cases seen.lookup x with
    | some _ => rfl
    | none => simp [List.lookup_cons, beq_eq_false_iff_ne.mpr hx]

/-- Complaints about a name do not depend on what is valid. -/
theorem nameComplaint?_of_sameMember {q : FieldPlan} (h : SameMember p q) :
    q.nameComplaint? owner earlier = p.nameComplaint? owner earlier := by
  unfold nameComplaint? isInheritedBy symbol
  rw [h.backing, h.name, h.origin]

theorem nameComplaint?_of_new (h : Tracks seen earlier) (hp : seen.lookup p.name.exposed = none) :
    p.nameComplaint? owner earlier = none := by
  rw [h, Option.map_eq_none_iff] at hp
  simp [nameComplaint?, hp]

theorem nameComplaint?_of_duplicate (h : Tracks seen earlier) {first : Ident}
    (hp : seen.lookup p.name.exposed = some first) (hown : p.isInheritedBy owner = false) :
    p.nameComplaint? owner earlier =
      some ⟨.duplicateAccessor, p.symbol owner, [owner.text, p.name.exposed, first.text],
        p.backing.span⟩ := by
  rw [h, Option.map_eq_some_iff] at hp
  obtain ⟨found, hfound, rfl⟩ := hp
  simp [nameComplaint?, hown, hfound]

/-- The checks on names complain about the own plans whose name one of the plans before them exposes. -/
theorem checkNames_reports {plans judged : List FieldPlan} (hsame : List.Forall₂ SameMember plans judged)
    (h : Tracks seen earlier) :
    (checkNames owner seen plans).2 = (judged.zipIdx earlier.length).filterMap fun e =>
      e.1.nameComplaint? owner ((earlier ++ judged).take e.2) := by
  induction hsame generalizing seen earlier with
  | nil => rfl
  | @cons p q plans judged hpq _ ih =>
      -- in all three cases the rest is checked with names that track the plans up to and with `q`
      have hlater : ∀ {seen'}, Tracks seen' (earlier ++ [q]) →
          (checkNames owner seen' plans).2 = (judged.zipIdx (earlier.length + 1)).filterMap fun e =>
            e.1.nameComplaint? owner ((earlier ++ q :: judged).take e.2) := by
        intro seen' h'
        have := ih h'
        rwa [List.length_append, List.append_assoc] at this
      have hhere : (earlier ++ q :: judged).take earlier.length = earlier := by simp
      rw [List.zipIdx_cons, List.filterMap_cons, hhere, nameComplaint?_of_sameMember hpq]
      cases hl : seen.lookup p.name.exposed with
      | none =>
          rw [checkNames_of_new hl, nameComplaint?_of_new h hl, ← hpq.name, ← hpq.origin]
          exact hlater h.snoc
      | some first =>
          have hseen : Tracks seen (earlier ++ [q]) := h.snoc_of_seen (hpq.name ▸ hl)
          cases hp : p.isInheritedBy owner with
          | true =>
              rw [checkNames_of_inherited hl hp, nameComplaint?, if_pos hp]
              exact hlater hseen
          | false =>
              rw [checkNames_of_duplicate hl hp, nameComplaint?_of_duplicate h hl hp]
              exact congrArg _ (hlater hseen)

end DataType

/-! ### Steps and runs -/

/-- The checks on a type report what there is to complain about its own members. -/
theorem Step.violations_compile (resolver : Resolver) {d : TypeDecl} (c : Bool) {known : List DataType}
    (h : ∀ b ∈ known, ∀ p ∈ b.plans, p.origin ≠ d.ident) :
    (compile resolver d c known).violations =
      d.members.flatMap (·.complaints resolver d.ident d.mode) ++
        (compile resolver d c known).data.nameComplaints := by
  set t := DataType.resolve d (d.members.map (·.classify resolver d.ident d.mode))
    (BaseState.ofDecl d c known) with ht
  have hfresh : t.validated = false := rfl
  have hown : t.plans.filter (!·.isInheritedBy d.ident) =
      d.members.map (·.classify resolver d.ident d.mode) := by
    rw [ht, DataType.resolve, List.filter_append, List.filter_eq_nil_iff.mpr, List.filter_eq_self.mpr,
      List.nil_append]
    · intro p hp
      rw [isInheritedBy_of_mem_classify resolver hp, Bool.not_false]
    · intro p hp
      simp [isInheritedBy_of_mem_inherited c h hp]
  have hmembers : DataType.planReports d.ident d.mode t.plans =
      d.members.flatMap (·.complaints resolver d.ident d.mode) := by
    rw [DataType.planReports, hown, List.flatMap_map]
    exact List.flatMap_congr fun m _ => m.reports_classify resolver d.ident d.mode
  have hsame : List.Forall₂ FieldPlan.SameMember (t.plans.map (·.checked d.ident d.mode))
      t.validate.1.plans := by
    rw [DataType.validate_plans hfresh]
    refine (DataType.forall₂_checkNames d.ident [] _).imp fun p q hpq => ?_
    rcases hpq with rfl | ⟨-, rfl⟩ <;> exact ⟨rfl, rfl, rfl⟩
  have hnames : (DataType.checkNames d.ident [] (t.plans.map (·.checked d.ident d.mode))).2 =
      (compile resolver d c known).data.nameComplaints := by
    rw [DataType.checkNames_reports hsame .nil, DataType.nameComplaints, compile_ident]
    rfl
  have hreports := DataType.validate_reports hfresh
  rw [← hmembers, ← hnames]
  exact hreports

/-- Lists with the same keys can be gone through together. -/
theorem flatMap_of_map_eq {α β γ δ κ : Type} {key : α → κ} {key' : β → κ} {l : List α} {l' : List β}
    {f : β → List δ} (g : α × γ → List δ) (out : β → γ) (h : l.map key = l'.map key')
    (hfg : ∀ a ∈ l, ∀ b ∈ l', key a = key' b → f b = g (a, out b)) :
    l'.flatMap f = (l.zip (l'.map out)).flatMap g := by
  induction l generalizing l' with
  | nil =>
      obtain rfl := List.map_eq_nil_iff.mp h.symm
      rfl
  | cons a l ih =>
      obtain ⟨b, l', rfl, hkey, hrest⟩ := List.map_eq_cons_iff.mp h.symm
      rw [List.flatMap_cons, List.map_cons, List.zip_cons_cons, List.flatMap_cons,
        hfg a List.mem_cons_self b List.mem_cons_self hkey.symm,
        ih hrest.symm fun a ha b hb => hfg a (List.mem_cons_of_mem _ ha) b (List.mem_cons_of_mem _ hb)]

namespace Run

variable (resolver : Resolver) (ds : List TypeDecl)

/-- Types are compiled in the order of the schedule. -/
theorem map_ident_scheduled :
    (ofDecls resolver ds).types.map (·.ident) = (scheduled ds).map (·.ident) := by
  rw [map_ident_types, steps_ofDecls, map_ident_compileAll, scheduled, List.map_filterMap]

/-- There is a ruling on every base, whatever resolves. -/
theorem exists_baseReports : ∃ onBase : TypeDecl → List Diagnostic,
    ∀ d ∈ (merge ds).1, ∃ base, BaseRuling (merge ds).1 d base (onBase d) := by
  have hall : ∀ d : TypeDecl, ∃ reports, d ∈ (merge ds).1 →
      ∃ base, BaseRuling (merge ds).1 d base reports := by
    intro d
    by_cases hd : d ∈ (merge ds).1
    · obtain ⟨s, hs, hident⟩ := exists_step (fun _ _ => .resolved) ds (x := d.ident)
        (names_merge ds ▸ List.mem_map_of_mem hd)
      obtain ⟨base, h, -⟩ := exists_ruling _ hs hd hident
      exact ⟨_, fun _ => ⟨base, h⟩⟩
    · exact ⟨[], fun h => absurd h hd⟩
  choose onBase honBase using hall
  exact ⟨onBase, honBase⟩

open Example in
/-- An heir says nothing about what it inherits. -/
example :
    let r := ofDecls (fun _ _ => .resolved) [ghost, declare "Wraith" (some "Ghost") .immutable []]
    (r.diagnostics.map fun e => (e.rule, e.symbol)) =
      [(.cyclicBase, "Ghost"), (.duplicateAccessor, "Ghost._sight")] := by
  decide +kernel

end Run

end AccessorSchema
