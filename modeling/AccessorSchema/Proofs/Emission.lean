import AccessorSchema.Example.Game
import AccessorSchema.Example.Small
import AccessorSchema.Proofs.Storage

/-! # What a schema without reports emits

Each data struct of a schema is emitted with the storage and the accessors of the type that its
declaration became (`Schema.exists_type_of_isData`).  So what accessors and fields have to do with each
other is told by the plans of that type: `Schema.isEncapsulated_iff` says when immutable data keeps its
storage to itself, `Schema.isFaithful_iff` when every accessor finds the field it was made for. -/

namespace AccessorSchema

open TypeDecl FieldPlan

/-! ### Reading a module -/

namespace Schema

variable {args : List TokenTree} {m : Module} {s : Schema}

theorem decls_of_ofModule (h : ofModule args m = .ok s) :
    s.decls = (declsOf s.items).map (·.1) ∧ ∀ x ∈ declsOf s.items, x.2 = [] := by
  unfold ofModule at h
  dsimp only at h
  split at h
  · cases h
  · split at h
    · rename_i hnone
      obtain rfl := Except.ok.inj h
      rw [List.isEmpty_iff, List.append_eq_nil_iff, List.flatMap_eq_nil_iff] at hnone
      exact ⟨rfl, hnone.2⟩
    · cases h

/-- A data struct declares the members of its named fields; it has no other fields. -/
theorem exists_decl_of_isData (h : ofModule args m = .ok s) {st : Struct} (hst : .struct st ∈ s.items)
    (hdata : st.isData = true) :
    ∃ d ∈ s.decls, d.ident = st.ident.value ∧
      d.members = (Struct.namedFields st.fields).filterMap (·.member?) ∧
      ∀ fields trailing, st.fields ≠ .positional fields trailing := by
  obtain ⟨hdecls, herrors⟩ := decls_of_ofModule h
  obtain ⟨a, ha⟩ := Option.isSome_iff_exists.mp hdata
  obtain ⟨o, es⟩ : ∃ o : DataOptions × List AttributeError, Struct.dataOptions a = o := ⟨_, rfl⟩
  have hdecl : st.decl? = some (st.declWith o.1, o.2 ++ st.fieldErrors) := by
    rw [Struct.decl?, ha, Option.map_some, es]
  have hmem : (st.declWith o.1, o.2 ++ st.fieldErrors) ∈ declsOf s.items := by
    unfold declsOf
    exact List.mem_filterMap.mpr ⟨st, List.mem_filterMap.mpr ⟨.struct st, hst, rfl⟩, hdecl⟩
  refine ⟨st.declWith o.1, hdecls ▸ List.mem_map_of_mem hmem, rfl, rfl, fun fields trailing hfields => ?_⟩
  have hnone := (List.append_eq_nil_iff.mp (herrors _ hmem)).2
  rw [Struct.fieldErrors, hfields] at hnone
  cases hnone

end Schema

/-! ### Emitted structs -/

namespace Emitted

/-- The accessors of an immutable type touch private fields only. -/
def IsEncapsulated : Emitted → Prop
  | kept _ => True
  | data st accessors description => description.isMutable = false →
      ∀ f ∈ Struct.namedFields st.fields,
        (∃ a ∈ accessors.members, a.backing = f.ident.value) → f.vis.value.isPrivate = true

instance : (e : Emitted) → Decidable e.IsEncapsulated
  | kept _ => instDecidableTrue
  | data _ _ _ => inferInstanceAs (Decidable (_ → _))

/-- Each accessor touches exactly one field, and that has the type of the plan for its member. -/
def IsFaithful (r : Run) : Emitted → Prop
  | kept _ => True
  | data st accessors _ => ∀ a ∈ accessors.members,
      ∃ t ∈ r.types, t.ident = accessors.owner ∧ ∃ p ∈ t.plans, p.key = a.key ∧
        (st.declared a.backing).map (·.ty.value) = [p.ty.value]

instance (r : Run) : (e : Emitted) → Decidable (e.IsFaithful r)
  | kept _ => instDecidableTrue
  | data _ accessors _ => inferInstanceAs (Decidable (∀ a ∈ accessors.members, _))

end Emitted

namespace Schema

/-- What is emitted for a data struct of a type. -/
def emission (s : Schema) (st : Struct) (t : DataType) : Emitted :=
  .data (st.withStorage t) (.ofType t s.options.invalid) (.ofType t (.ofType t s.options.invalid))

section emission
variable {args : List TokenTree} {m : Module} {s : Schema} (hs : ofModule args m = .ok s)

include hs

/-- A data struct is emitted with the storage of the type that its declaration became. -/
theorem exists_type_of_isData {st : Struct} (hst : .struct st ∈ s.items) (hdata : st.isData = true) :
    ∃ t ∈ s.run.types, t.ident = st.ident.value ∧
      Emitted.ofItem s.run s.options.invalid (.struct st) = s.emission st t := by
  obtain ⟨d, hd, hident, -, -⟩ := exists_decl_of_isData hs hst hdata
  obtain ⟨step, hstep, hname⟩ := Run.exists_step s.symbols.resolve s.decls (x := d.ident)
    ((mem_names _ _).mpr ⟨d, hd, rfl⟩)
  have hfound := Run.type?_of_mem s.symbols.resolve hstep
  rw [hname, hident] at hfound
  refine ⟨step.data, List.mem_map_of_mem hstep, hname.trans hident, ?_⟩
  simp only [Emitted.ofItem, hdata, if_true, run, hfound]
  rfl

/-- What holds of kept items holds of all that is emitted, if it holds of the data structs. -/
theorem forall_emitted_iff {Q : Emitted → Prop} (hkept : ∀ i, Q (.kept i)) :
    (∀ e ∈ s.emitted s.run, Q e) ↔ ∀ st, .struct st ∈ s.items → st.isData = true →
      ∀ t ∈ s.run.types, t.ident = st.ident.value → Q (s.emission st t) := by
  constructor
  · intro h st hst hdata t ht hident
    obtain ⟨u, hu, huident, hemit⟩ := exists_type_of_isData hs hst hdata
    obtain rfl : u = t :=
      List.inj_on_of_nodup_map (Run.nodup_types _ _) hu ht (huident.trans hident.symm)
    exact hemit ▸ h _ (List.mem_map_of_mem hst)
  · intro h e he
    obtain ⟨i, hi, rfl⟩ := List.mem_map.mp he
    cases i with
    | struct st =>
        cases hdata : st.isData with
        | true =>
            obtain ⟨t, ht, hident, hemit⟩ := exists_type_of_isData hs hi hdata
            exact hemit ▸ h st hi hdata t ht hident
        | false =>
            simp only [Emitted.ofItem, hdata, Bool.false_eq_true, if_false]
            exact hkept _
    | implementation trait self code => exact hkept _
    | naming x code => exact hkept _
    | other code => exact hkept _

variable (hnone : s.run.diagnostics = [])

include hnone in
/-- Without reports a data struct yields the type of its name. -/
theorem yields_of_flawless {st : Struct} (hst : .struct st ∈ s.items) (hdata : st.isData = true)
    {t : DataType} (ht : t ∈ s.run.types) (hident : t.ident = st.ident.value) : st.Yields t := by
  obtain ⟨e, he, heident, hmembers, hnamed⟩ := exists_decl_of_isData hs hst hdata
  obtain ⟨d, hd, hd', hown, hreports⟩ := Run.exists_decl_of_flawless _ hnone ht
  have hfragment : e ∈ fragments s.decls d.ident :=
    List.mem_filter.mpr ⟨he, by rw [heident, ← hident, hd', beq_self_eq_true]⟩
  refine ⟨Run.nodup_backing_of_flawless _ hnone ht, fun p hp => Run.valid_of_flawless _ hnone ht hp,
    hreports, fun f hf m hm => ?_, DataType.namedFields_storedFields t hnamed⟩
  have hmem : m ∈ d.members := (mem_members_of_mem_merge _ _ hd).mpr
    ⟨e, hfragment, hmembers ▸ List.mem_filterMap.mpr ⟨f, hf, hm⟩⟩
  exact ⟨m.classify s.symbols.resolve d.ident d.mode, hown ▸ List.mem_map_of_mem hmem,
    (Field.of_member? hm).1, rfl⟩

include hnone in
/-- Where data structs differ in name, the own plans of a type are those of its struct's fields. -/
theorem ownPlans_of_distinct (hn : (s.decls.map (·.ident)).Nodup) {st : Struct}
    (hst : .struct st ∈ s.items) (hdata : st.isData = true) {t : DataType} (ht : t ∈ s.run.types)
    (hident : t.ident = st.ident.value) :
    ∃ owner mode, t.ownPlans = ((Struct.namedFields st.fields).filterMap (·.member?)).map
      (·.classify s.symbols.resolve owner mode) := by
  obtain ⟨e, he, heident, hmembers, -⟩ := exists_decl_of_isData hs hst hdata
  obtain ⟨d, hd, hd', hown, -⟩ := Run.exists_decl_of_flawless _ hnone ht
  have hde : d = e := by
    rw [merge_of_nodup s.decls hn] at hd
    exact eq_of_ident_eq hn hd he (by rw [← hd', hident, heident])
  rw [← hmembers, ← hde]
  exact ⟨d.ident, d.mode, hown⟩

omit hs in
theorem emission_isEncapsulated_iff {st : Struct} {t : DataType} (hyields : st.Yields t) :
    (s.emission st t).IsEncapsulated ↔ (t.mode = .immutable →
      ∀ g ∈ t.storage (Struct.namedFields st.fields), (∃ p ∈ t.plans, p.backing.value = g.ident.value) →
        g.vis.value.isPrivate = true) := by
  have hmode : t.mode = .immutable ↔ t.mode.isMutable = false := by
    cases t.mode <;> simp [Mode.isMutable]
  rw [← hyields.storage, hmode]
  refine imp_congr_right fun _ => forall_congr' fun g => imp_congr_right fun _ => ?_
  exact imp_congr_left (DataType.exists_touching_iff hyields.valid _ _)

omit hs in
theorem emission_isFaithful_iff {st : Struct} {t : DataType} (hyields : st.Yields t)
    (ht : t ∈ s.run.types) :
    (s.emission st t).IsFaithful s.run ↔ ∀ p ∈ t.plans,
      ((t.storage (Struct.namedFields st.fields)).filter (·.ident.value == p.backing.value)).map
        (·.ty.value) = [p.ty.value] := by
  have hmembers : ∀ a, a ∈ (AccessorSet.ofType t s.options.invalid).members ↔
      ∃ p ∈ t.plans, a ∈ p.accessors t.ident false := by
    intro a
    show a ∈ t.accessors s.options.invalid ↔ _
    rw [DataType.accessors_of_valid hyields.valid, List.mem_flatMap]
  rw [← hyields.storage]
  constructor
  · intro h p hp
    obtain ⟨u, hu, hut, q, hq, hkey, htypes⟩ :=
      h (p.getter t.ident false) ((hmembers _).mpr ⟨p, hp, List.mem_cons_self⟩)
    obtain rfl : u = t := List.inj_on_of_nodup_map (Run.nodup_types _ _) hu ht hut
    rw [key_getter] at hkey
    obtain rfl := hyields.eq_of_backing hq hp (congrArg Prod.snd hkey)
    exact htypes
  · intro h a ha
    obtain ⟨p, hp, ha⟩ := (hmembers a).mp ha
    obtain ⟨hbacking, hkey⟩ := of_mem_accessors ha
    exact ⟨t, ht, rfl, p, hp, hkey.symm, hbacking ▸ h p hp⟩

include hnone in
/-- Immutable data keeps what its accessors touch private, if and only if every field that is left out
of the schema and has the name of an inherited plan, or of a field, is private. -/
theorem isEncapsulated_iff :
    (∀ e ∈ s.emitted s.run, e.IsEncapsulated) ↔
      ∀ st, .struct st ∈ s.items → st.isData = true → ∀ t ∈ s.run.types, t.ident = st.ident.value →
        t.mode = .immutable → ∀ p ∈ t.plans,
          (p.isInheritedBy t.ident = true ∨ p.surface.isField = true) →
            ∀ f ∈ st.skipped p.backing.value, f.vis.value.isPrivate = true := by
  rw [forall_emitted_iff hs (Q := Emitted.IsEncapsulated) fun _ => trivial]
  refine forall_congr' fun st => forall_congr' fun hst => forall_congr' fun hdata =>
    forall_congr' fun t => forall_congr' fun ht => forall_congr' fun hident => ?_
  have hyields := yields_of_flawless hs hnone hst hdata ht hident
  rw [emission_isEncapsulated_iff hyields]
  exact forall_congr' fun himmutable => hyields.forall_isPrivate_iff himmutable

end emission

open Example

theorem exists_of_schemaOf? {text : String} {f : Schema → Bool} (h : (schemaOf? text).any f = true) :
    ∃ m s, schemaOf? text = some s ∧ ofModule [] m = .ok s ∧ f s = true := by
  obtain ⟨s, hs, hf⟩ : ∃ s, schemaOf? text = some s ∧ f s = true := by
    cases hs : schemaOf? text with
    | none => simp [hs] at h
    | some s => exact ⟨s, rfl, by simpa [hs] using h⟩
  have hread := hs
  unfold schemaOf? at hread
  obtain ⟨trees, -, hread⟩ := Option.bind_eq_some_iff.mp hread
  obtain ⟨m, -, hread⟩ := Option.bind_eq_some_iff.mp hread
  refine ⟨m, s, hs, ?_, hf⟩
  cases hm : ofModule [] m with
  | error es => simp [hm, Except.toOption] at hread
  | ok u =>
      rw [hm] at hread
      exact congrArg Except.ok (Option.some.inj hread)

set_option maxRecDepth 10000 in
/-- A chest that declares the inherited gold again, as it was. -/
theorem exists_chest :
    ∃ m s, ofModule [] m = .ok s ∧
      (s.decls.map (·.ident)).Nodup ∧ s.run.diagnostics = [] := by
  have h : (schemaOf? (chest "gold: i32")).any fun s =>
      decide ((s.decls.map (·.ident)).Nodup ∧ s.run.diagnostics = []) := by decide +kernel
  obtain ⟨m, s, -, hs, hf⟩ := exists_of_schemaOf? h
  exact ⟨m, s, hs, of_decide_eq_true hf⟩

theorem isEncapsulated_iff_chest :
    ∃ m s, ofModule [] m = .ok s ∧ s.run.diagnostics = [] ∧
      ((∀ e ∈ s.emitted s.run, e.IsEncapsulated) ↔
        ∀ st, .struct st ∈ s.items → st.isData = true → ∀ t ∈ s.run.types, t.ident = st.ident.value →
          t.mode = .immutable → ∀ p ∈ t.plans,
            (p.isInheritedBy t.ident = true ∨ p.surface.isField = true) →
              ∀ f ∈ st.skipped p.backing.value, f.vis.value.isPrivate = true) := by
  obtain ⟨m, s, hs, -, hnone⟩ := exists_chest
  exact ⟨m, s, hs, hnone, isEncapsulated_iff hs hnone⟩

set_option maxRecDepth 10000 in
/-- A chest that declares the inherited gold again, openly, hands it out without its getter. -/
theorem exists_open_storage :
    ∃ s, schemaOf? (chest "pub gold: i32") = some s ∧ s.run.diagnostics = [] ∧
      ¬∀ e ∈ s.emitted s.run, e.IsEncapsulated := by
  have h : (schemaOf? (chest "pub gold: i32")).any fun s =>
      decide (s.run.diagnostics = [] ∧ ¬∀ e ∈ s.emitted s.run, e.IsEncapsulated) := by decide +kernel
  obtain ⟨-, s, hs, -, hf⟩ := exists_of_schemaOf? h
  exact ⟨s, hs, of_decide_eq_true hf⟩

section emission
variable {args : List TokenTree} {m : Module} {s : Schema} (hs : ofModule args m = .ok s)
  (hnone : s.run.diagnostics = [])

include hs hnone

/-- Accessors agree with the fields they touch, if and only if a field that is left out of the schema
has the name of a plan only where that is inherited, is the only one, and has its type. -/
theorem isFaithful_iff (hn : (s.decls.map (·.ident)).Nodup) :
    (∀ e ∈ s.emitted s.run, e.IsFaithful s.run) ↔
      ∀ st, .struct st ∈ s.items → st.isData = true → ∀ t ∈ s.run.types, t.ident = st.ident.value →
        ∀ p ∈ t.plans, st.skipped p.backing.value = [] ∨
          p.isInheritedBy t.ident = true ∧
            (st.skipped p.backing.value).map (·.ty.value) = [p.ty.value] := by
  rw [forall_emitted_iff hs (Q := Emitted.IsFaithful s.run) fun _ => trivial]
  refine forall_congr' fun st => forall_congr' fun hst => forall_congr' fun hdata =>
    forall_congr' fun t => forall_congr' fun ht => forall_congr' fun hident => ?_
  have hyields := yields_of_flawless hs hnone hst hdata ht hident
  obtain ⟨owner, mode, hown⟩ := ownPlans_of_distinct hs hnone hn hst hdata ht hident
  rw [emission_isFaithful_iff hyields ht]
  refine forall_congr' fun p => forall_congr' fun hp => ?_
  cases hin : p.isInheritedBy t.ident with
  | true => simpa using hyields.types_storage_of_inherited hown hp hin
  | false => simpa using hyields.types_storage_of_own hown hp hin

end emission

theorem isFaithful_iff_chest :
    ∃ m s, ofModule [] m = .ok s ∧ s.run.diagnostics = [] ∧
      ((∀ e ∈ s.emitted s.run, e.IsFaithful s.run) ↔
        ∀ st, .struct st ∈ s.items → st.isData = true → ∀ t ∈ s.run.types, t.ident = st.ident.value →
          ∀ p ∈ t.plans, st.skipped p.backing.value = [] ∨
            p.isInheritedBy t.ident = true ∧
              (st.skipped p.backing.value).map (·.ty.value) = [p.ty.value]) := by
  obtain ⟨m, s, hs, hn, hnone⟩ := exists_chest
  exact ⟨m, s, hs, hnone, isFaithful_iff hs hnone hn⟩

set_option maxRecDepth 10000 in
/-- A chest that declares the inherited gold again, with another type, has a getter of the old one. -/
theorem exists_mistyped_storage :
    ∃ s, schemaOf? (chest "gold: u8") = some s ∧ (s.decls.map (·.ident)).Nodup ∧
      s.run.diagnostics = [] ∧ ¬∀ e ∈ s.emitted s.run, e.IsFaithful s.run := by
  have h : (schemaOf? (chest "gold: u8")).any fun s => decide ((s.decls.map (·.ident)).Nodup ∧
      s.run.diagnostics = [] ∧ ¬∀ e ∈ s.emitted s.run, e.IsFaithful s.run) := by decide +kernel
  obtain ⟨-, s, hs, -, hf⟩ := exists_of_schemaOf? h
  exact ⟨s, hs, of_decide_eq_true hf⟩

end Schema

end AccessorSchema
