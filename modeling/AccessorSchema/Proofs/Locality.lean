import AccessorSchema.Proofs.Naming

/-! # Only the base chain matters

Two lists of declarations that hold the same fragments of a type and of all names its base references
lead to compile it in the same step (`mem_steps_of_agree`), so it gets the same plans, accessors and
reports (`sameResult_of_agree`).  What else they declare, with whatever errors and cycles, plays no
part, except that a member after which no methods can be named breaks off the whole run
(`sameOutcome_iff`).  Neither does the order in which fragments with different keys arrive
(`mergeGroup_perm`): rearranging a list rearranges the steps of the run and changes none of them
(`steps_perm`). -/

namespace AccessorSchema

open Relation TypeDecl

/-! ### Relations that agree on a closed set -/

section relations
variable {α : Type} {r r' : α → α → Prop} {P : α → Prop}

theorem transGen_of_agree (hclosed : ∀ y z, P y → r y z → P z) (hagree : ∀ y z, P y → r y z → r' y z)
    {y z : α} (hy : P y) (h : TransGen r y z) : TransGen r' y z ∧ P z := by
  induction h with
  | single h => exact ⟨.single (hagree _ _ hy h), hclosed _ _ hy h⟩
  | tail _ h ih => exact ⟨ih.1.tail (hagree _ _ ih.2 h), hclosed _ _ ih.2 h⟩

theorem transGen_iff_of_agree (hclosed : ∀ y z, P y → r y z → P z)
    (hagree : ∀ y z, P y → (r y z ↔ r' y z)) {y z : α} (hy : P y) :
    TransGen r y z ↔ TransGen r' y z := by
  constructor
  · exact fun h => (transGen_of_agree hclosed (fun a b ha => (hagree a b ha).mp) hy h).1
  · have hclosed' : ∀ a b, P a → r' a b → P b := fun a b ha hab =>
      hclosed a b ha ((hagree a b ha).mpr hab)
    exact fun h => (transGen_of_agree hclosed' (fun a b ha => (hagree a b ha).mpr) hy h).1

end relations

namespace Run

variable (resolver : Resolver)

/-! ### Lists of declarations that agree along base chains -/

section agreement
variable {ds es : List TypeDecl} {P : Ident → Prop}
  (hclosed : ∀ y z, P y → Extends (merge ds).1 y z → P z)
  (hagree : ∀ y, P y → mergeGroup (fragments ds y) = mergeGroup (fragments es y))

include hagree

theorem mem_names_of_agree {y : Ident} (hy : P y) : y ∈ names ds ↔ y ∈ names es := by
  rw [← mergeGroup_isSome, ← mergeGroup_isSome, hagree y hy]

theorem mem_merge_of_agree {d : TypeDecl} (hd : P d.ident) : d ∈ (merge ds).1 ↔ d ∈ (merge es).1 := by
  rw [mem_merge, mem_merge, hagree _ hd]

theorem extends_of_agree {y z : Ident} (hy : P y) :
    Extends (merge ds).1 y z ↔ Extends (merge es).1 y z := by
  unfold Extends
  refine exists_congr fun d => ⟨?_, ?_⟩
  · rintro ⟨hd, rfl, hz⟩
    exact ⟨(mem_merge_of_agree hagree hy).mp hd, rfl, hz⟩
  · rintro ⟨hd, rfl, hz⟩
    exact ⟨(mem_merge_of_agree hagree hy).mpr hd, rfl, hz⟩

include hclosed

theorem isCyclic_of_agree {y : Ident} (hy : P y) :
    IsCyclic (merge ds).1 y ↔ IsCyclic (merge es).1 y :=
  transGen_iff_of_agree hclosed (fun _ _ h => extends_of_agree hagree h) hy

/-- A run compiles a type in the same way as a run that agrees with it along the base chain: the base
a step waits for was compiled before it, by then in the same way. -/
theorem mem_steps_of_agree {s : Step} (hs : s ∈ (ofDecls resolver ds).steps)
    (hP : P s.data.ident) : s ∈ (ofDecls resolver es).steps := by
  suffices hall : ∀ s ∈ (ofDecls resolver ds).steps, P s.data.ident → s ∈ (ofDecls resolver es).steps from
    hall s hs hP
  refine forall_steps resolver ds fun pre s post h ih hP => ?_
  obtain ⟨d, hd, c, hc, hs, hbase⟩ := steps_split resolver ds h
  rw [hs, Step.compile_ident] at hP
  have hde := (mem_merge_of_agree hagree hP).mp hd
  obtain ⟨u, hu, hud⟩ := exists_step resolver es (x := d.ident)
    (names_merge es ▸ List.mem_map_of_mem hde)
  obtain ⟨e, he, c', hc', heq⟩ := step_eq resolver es hu
  obtain rfl : e = d := eq_of_ident_eq (nodup_merge es) he hde (by
    rw [heq, Step.compile_ident] at hud
    exact hud)
  obtain rfl : c = c' := by
    rw [Bool.eq_iff_iff, hc, hc', isCyclic_of_agree hclosed hagree hP]
  have hsame : s = u := by
    rw [hs, heq]
    refine Step.compile_congr resolver e c fun hfalse y hy => ?_
    have hPy : P y := hclosed _ _ hP ((extends_iff (nodup_merge ds) hd).mpr hy)
    rw [find?_types_of_split resolver ds h fun hm => hbase hfalse y hm hy]
    by_cases hdecl : y ∈ names ds
    · obtain ⟨b, hb, rfl⟩ := List.mem_map.mp (hbase hfalse y hdecl hy)
      rw [find?_types_of_mem resolver ds (h ▸ List.mem_append_left _ hb),
        find?_types_of_mem resolver es (ih b hb hPy)]
    · rw [find?_types_of_undeclared resolver ds hdecl, find?_types_of_undeclared resolver es
        fun hm => hdecl ((mem_names_of_agree hagree hPy).mpr hm)]
  exact hsame ▸ hu

end agreement

/-! ### What a run says about one type -/

/-- The reports about a type and its members, in the order in which the run made them. -/
def about (r : Run) (x : Ident) : List Diagnostic := r.diagnostics.filter (·.owner == x.text)

theorem mem_about {r : Run} {x : Ident} {e : Diagnostic} :
    e ∈ r.about x ↔ e ∈ r.diagnostics ∧ e.IsAbout x := by
  rw [about, List.mem_filter, beq_iff_eq, Diagnostic.owner_eq_iff]

theorem generated?_eq (r : Run) (policy : InvalidPolicy) (name : String) :
    r.generated? policy name = (r.type? name).map (AccessorSet.ofType · policy) := by
  rw [generated?, generated, List.find?_map]
  rfl

/-- Among the reports of many types, those about one of them are its own. -/
theorem filter_owner_flatMap {α : Type} {l : List α} (key : α → Ident) (reports : α → List Diagnostic)
    (hn : (l.map key).Nodup) (habout : ∀ a ∈ l, ∀ e ∈ reports a, e.IsAbout (key a)) {a : α} (ha : a ∈ l) :
    (l.flatMap reports).filter (·.owner == (key a).text) = reports a := by
  have hself : ∀ b ∈ l, ∀ e ∈ reports b, e.owner = (key b).text := fun b hb e he =>
    Diagnostic.owner_of_isAbout (habout b hb e he)
  have hothers : ∀ b ∈ l, key b ≠ key a → (reports b).filter (·.owner == (key a).text) = [] := by
    intro b hb hne
    rw [List.filter_eq_nil_iff]
    intro e he howner
    rw [hself b hb e he, beq_iff_eq] at howner
    exact hne (Ident.text_inj howner)
  have hown : (reports a).filter (·.owner == (key a).text) = reports a :=
    List.filter_eq_self.mpr fun e he => beq_iff_eq.mpr (hself a ha e he)
  obtain ⟨pre, post, rfl⟩ := List.append_of_mem ha
  rw [List.map_append, List.map_cons, List.nodup_append, List.nodup_cons] at hn
  have hpre : ∀ b ∈ pre, (reports b).filter (·.owner == (key a).text) = [] := fun b hb =>
    hothers b (List.mem_append_left _ hb) (hn.2.2 _ (List.mem_map_of_mem hb) _ List.mem_cons_self)
  have hpost : ∀ b ∈ post, (reports b).filter (·.owner == (key a).text) = [] := fun b hb =>
    hothers b (List.mem_append_right _ (List.mem_cons_of_mem _ hb)) fun h =>
      hn.2.1.1 (h ▸ List.mem_map_of_mem hb)
  rw [List.flatMap_append, List.flatMap_cons, List.filter_append, List.filter_append,
    List.filter_flatMap, List.filter_flatMap, hown, List.flatMap_eq_nil_iff.mpr hpre,
    List.flatMap_eq_nil_iff.mpr hpost, List.nil_append, List.append_nil]

section results
variable {ds : List TypeDecl}

theorem type?_of_mem {s : Step} (hs : s ∈ (ofDecls resolver ds).steps) :
    (ofDecls resolver ds).type? s.data.ident.text = some s.data := by
  cases ht : (ofDecls resolver ds).type? s.data.ident.text with
  | none =>
      unfold type? at ht
      rw [List.find?_eq_none] at ht
      exact absurd (beq_self_eq_true _) (ht s.data (List.mem_map_of_mem hs))
  | some t =>
      obtain ⟨u, hu, rfl⟩ := List.mem_map.mp (List.mem_of_find?_eq_some ht)
      have htext : u.data.ident.text = s.data.ident.text := by simpa using List.find?_some ht
      rw [List.inj_on_of_nodup_map (nodup_steps resolver ds) hu hs (Ident.text_inj htext)]

/-- The complaints about the fragments of one type. -/
theorem filter_owner_conflicts {x : Ident} {m : TypeDecl × List Diagnostic}
    (hm : mergeGroup (fragments ds x) = some m) :
    (ofDecls resolver ds).conflicts.filter (·.owner == x.text) = m.2 := by
  let merged := (names ds).filterMap fun x => mergeGroup (fragments ds x)
  have hmem : m ∈ merged := List.mem_filterMap.mpr ⟨x, mergeGroup_isSome.mp (by rw [hm]; rfl), hm⟩
  have hkeys : merged.map (·.1.ident) = names ds := map_ident_filterMap ds fun _ hx => hx
  have habout : ∀ a ∈ merged, ∀ e ∈ a.2, e.IsAbout a.1.ident := by
    intro a ha e he
    obtain ⟨x, -, ha⟩ := List.mem_filterMap.mp ha
    exact .inl (symbol_of_mem_mergeGroup ha he)
  have hfilter := filter_owner_flatMap (fun a => a.1.ident) (·.2) (hkeys ▸ nodup_names ds) habout hmem
  rw [mergeGroup_ident ds _ hm] at hfilter
  rw [← hfilter, ofDecls, merge_eq]

/-- The reports of the step that compiles one type. -/
theorem filter_owner_steps {s : Step} (hs : s ∈ (ofDecls resolver ds).steps) :
    ((ofDecls resolver ds).steps.flatMap (·.diagnostics)).filter (·.owner == s.data.ident.text) =
      s.diagnostics := by
  have habout : ∀ t ∈ (ofDecls resolver ds).steps, ∀ e ∈ t.diagnostics, e.IsAbout t.data.ident := by
    intro t ht e he
    obtain ⟨d, -, c, -, rfl⟩ := step_eq resolver ds ht
    rw [Step.compile_ident]
    exact Step.isAbout_of_mem_step he
  exact filter_owner_flatMap (fun t => t.data.ident) (·.diagnostics) (nodup_steps resolver ds) habout hs

theorem about_of_mem {s : Step} (hs : s ∈ (ofDecls resolver ds).steps)
    {m : TypeDecl × List Diagnostic} (hm : mergeGroup (fragments ds s.data.ident) = some m) :
    (ofDecls resolver ds).about s.data.ident = m.2 ++ s.diagnostics := by
  rw [about, diagnostics, List.filter_append, filter_owner_conflicts resolver hm,
    filter_owner_steps resolver hs]

end results

/-- A name gets the same out of two runs: a type with the same plans, the same accessors, and the same
reports in the same order. -/
structure SameResult (r r' : Run) (x : Ident) : Prop where
  type : ∃ t, r.type? x.text = some t ∧ r'.type? x.text = some t
  generated : ∀ policy, ∃ g, r.generated? policy x.text = some g ∧ r'.generated? policy x.text = some g
  about : r.about x = r'.about x

/-- A name gets the same out of two runs that come to their ends, or nothing since both break off. -/
inductive SameOutcome (x : Ident) : Except IdentFault Run → Except IdentFault Run → Prop
  | ended {r r' : Run} (h : SameResult r r' x) : SameOutcome x (.ok r) (.ok r')
  | broken {e e' : IdentFault} : SameOutcome x (.error e) (.error e')

section agreement
variable {ds es : List TypeDecl} {P : Ident → Prop}

/-- Two lists that agree along the base chain of a type give it the same result. -/
theorem sameResult_of_agree (hclosed : ∀ y z, P y → Extends (merge ds).1 y z → P z)
    (hagree : ∀ y, P y → mergeGroup (fragments ds y) = mergeGroup (fragments es y))
    {x : Ident} (hx : x ∈ names ds) (hP : P x) :
    SameResult (ofDecls resolver ds) (ofDecls resolver es) x := by
  obtain ⟨s, hs, rfl⟩ := exists_step resolver ds hx
  obtain ⟨m, hm⟩ := Option.isSome_iff_exists.mp (mergeGroup_isSome.mpr hx)
  have hs' := mem_steps_of_agree resolver hclosed hagree hs hP
  have htype := type?_of_mem resolver hs
  have htype' := type?_of_mem resolver hs'
  refine ⟨⟨s.data, htype, htype'⟩, fun policy => ⟨AccessorSet.ofType s.data policy, ?_, ?_⟩, ?_⟩
  · rw [generated?_eq, htype]
    rfl
  · rw [generated?_eq, htype']
    rfl
  · rw [about_of_mem resolver hs hm, about_of_mem resolver hs' (hagree _ hP ▸ hm)]

/-- All lists with the same fragments of a type, and of the names its base references lead to, agree on it. -/
theorem sameResult_of_baseChain {x : Ident} (hx : x ∈ names ds)
    (h : ∀ y, ReflTransGen (Extends (merge ds).1) x y → fragments ds y = fragments es y) :
    SameResult (ofDecls resolver ds) (ofDecls resolver es) x := by
  refine sameResult_of_agree resolver (P := ReflTransGen (Extends (merge ds).1) x) ?_ ?_ hx .refl
  · intro y z hy hyz
    exact hy.tail hyz
  · intro y hy
    rw [h y hy]

end agreement

section
open Example

theorem eq_of_wizard_reaches {y : Ident}
    (h : ReflTransGen (Extends (merge [hero, wizard]).1) wizard.ident y) :
    y = wizard.ident ∨ y = hero.ident := by
  rw [merge_of_nodup _ (by decide)] at h
  induction h with
  | refl => exact .inl rfl
  | tail _ hstep _ =>
      obtain ⟨d, hd, rfl, hz⟩ := hstep
      rcases List.mem_pair.mp hd with rfl | rfl
      · cases hz
      · exact .inr (Option.some.inj hz).symm

theorem eq_of_hero_reaches {y : Ident} (h : ReflTransGen (Extends (merge [hero]).1) hero.ident y) :
    y = hero.ident := by
  rw [merge_of_nodup _ (by decide)] at h
  rcases h.cases_head with rfl | ⟨z, ⟨d, hd, -, hz⟩, -⟩
  · rfl
  · obtain rfl := List.mem_singleton.mp hd
    cases hz

end

/-! ### The order of arrival -/

section arrival
variable {ds es : List TypeDecl} (hperm : ds.Perm es)
  (hkeys : ∀ x, ((fragments ds x).map (·.fragment)).Nodup)

include hperm

theorem names_perm : (names ds).Perm (names es) := by
  refine (List.perm_ext_iff_of_nodup (nodup_names ds) (nodup_names es)).mpr fun x => ?_
  rw [mem_names, mem_names]
  exact exists_congr fun d => and_congr_left fun _ => hperm.mem_iff

include hkeys

theorem mergeGroup_of_perm (x : Ident) :
    mergeGroup (fragments ds x) = mergeGroup (fragments es x) :=
  mergeGroup_perm (hperm.filter _) (hkeys x)

theorem steps_perm : (ofDecls resolver ds).steps.Perm (ofDecls resolver es).steps := by
  have hagree := mergeGroup_of_perm hperm hkeys
  have hnodup := (nodup_steps resolver ds).of_map _
  have hnodup' := (nodup_steps resolver es).of_map _
  refine (List.perm_ext_iff_of_nodup hnodup hnodup').mpr fun s => ⟨fun hs => ?_, fun hs => ?_⟩
  · exact mem_steps_of_agree resolver (P := fun _ => True) (fun _ _ _ _ => trivial)
      (fun y _ => hagree y) hs trivial
  · exact mem_steps_of_agree resolver (P := fun _ => True) (fun _ _ _ _ => trivial)
      (fun y _ => (hagree y).symm) hs trivial

theorem conflicts_perm : (ofDecls resolver ds).conflicts.Perm (ofDecls resolver es).conflicts := by
  show (merge ds).2.Perm (merge es).2
  have hagree := mergeGroup_of_perm hperm hkeys
  rw [merge_eq, merge_eq, funext hagree]
  exact ((names_perm hperm).filterMap _).flatMap_right _

theorem diagnostics_perm : (ofDecls resolver ds).diagnostics.Perm (ofDecls resolver es).diagnostics :=
  (conflicts_perm resolver hperm hkeys).append ((steps_perm resolver hperm hkeys).flatMap_right _)

/-- If the fragments of each type differ in their keys, the order in which declarations arrive changes
nothing about any type: it shows in the order of types and reports only. -/
theorem sameResult_of_perm :
    (∀ x ∈ names ds, SameResult (ofDecls resolver ds) (ofDecls resolver es) x) ∧
      (ofDecls resolver ds).diagnostics.Perm (ofDecls resolver es).diagnostics ∧
      (ofDecls resolver ds).types.Perm (ofDecls resolver es).types := by
  refine ⟨fun x hx => ?_, diagnostics_perm resolver hperm hkeys,
    (steps_perm resolver hperm hkeys).map _⟩
  exact sameResult_of_agree resolver (P := fun _ => True) (fun _ _ _ _ => trivial)
    (fun y _ => mergeGroup_of_perm hperm hkeys y) hx trivial

end arrival

section
open Example

/-- A hero in two fragments and a wizard, arriving from the front and from the back. -/
theorem sameResult_reverse :
    let ds := [heroTitle, hero, { wizard with fragment := 2 }]
    let run := ofDecls fun _ _ => .resolved
    (∀ x ∈ names ds, SameResult (run ds) (run ds.reverse) x) ∧
      (run ds).diagnostics.Perm (run ds.reverse).diagnostics ∧
      (run ds).types.Perm (run ds.reverse).types := by
  intro ds run
  have hkeys : (ds.map (·.fragment)).Nodup := by decide
  exact sameResult_of_perm (fun _ _ => .resolved) (List.reverse_perm ds).symm fun x =>
    (List.filter_sublist.map _).nodup hkeys

end

end Run

end AccessorSchema
