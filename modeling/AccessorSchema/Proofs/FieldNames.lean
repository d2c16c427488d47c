import AccessorSchema.Example.Small
import AccessorSchema.Proofs.Emission
import AccessorSchema.Proofs.Layout

/-! # The field names of a rewritten struct

A data struct is emitted with the names that its bases declare, root first, as far as it does not declare
them itself, and with its own names behind (`DataType.fieldNames_withStorage`).  Whether they repeat is up
to the bases: names that two of them declare meet where the heir does not declare them as well
(`Schema.nodup_fieldNames_iff`).  Of the two declarations the later one is reported, so without reports no
name repeats. -/

namespace AccessorSchema

open TypeDecl FieldPlan

/-- The names of the fields, in their order. -/
def Struct.fieldNames (s : Struct) : List Ident := (namedFields s.fields).map (·.ident.value)

/-- The names of the members, in their order. -/
def TypeDecl.memberNames (d : TypeDecl) : List Ident := d.members.map (·.ident.value)

/-! ### What a base hands down -/

/-- A type stores the members of its declaration under their names. -/
theorem TypeDecl.CompiledTo.backing_own {resolver : Resolver} {types : List DataType} {d : TypeDecl}
    {t : DataType} (h : CompiledTo resolver types d t) :
    t.ownPlans.map (·.backing.value) = d.memberNames := by
  have hnames := map_eq_of_forall₂
    (h.own.imp fun p q hpq => congrArg Located.value hpq.sameMember.backing.symm)
  rw [← hnames, List.map_map]
  rfl

/-- What a type inherits is stored under the names of its bases' members. -/
theorem Run.backing_inherited (resolver : Resolver) {ds : List TypeDecl} {above : List TypeDecl}
    {d : TypeDecl} (h : Ancestry (merge ds).1 above d) (hd : d ∈ (merge ds).1) {t : DataType}
    (ht : t ∈ (ofDecls resolver ds).types) (hident : t.ident = d.ident) :
    t.inheritedPlans.map (·.backing.value) = above.flatMap (·.memberNames) := by
  obtain ⟨bases, hbases, hkept⟩ := exists_bases resolver h hd ht hident
  have hnames := map_eq_of_forall₂
    (hkept.imp fun p q hpq => congrArg Located.value hpq.sameMember.backing.symm)
  have hlevels := map_eq_of_forall₂ (hbases.imp fun e u hlevel => hlevel.backing_own.symm)
  rw [← hnames, List.map_flatMap, List.flatMap_def, ← hlevels, List.flatMap_def]

/-! ### Names of one struct -/

namespace DataType

variable (t : DataType)

/-- The storage of a type has the names of the inherited plans that are not declared, and the declared ones. -/
theorem names_storage (own : List Field) :
    (t.storage own).map (·.ident.value) =
      (t.inheritedPlans.map (·.backing.value)).filter (· ∉ own.map (·.ident.value)) ++
        own.map (·.ident.value) := by
  have hmissing : (fun p : FieldPlan => !own.any (·.ident.value == p.backing.value)) =
      (fun x => decide (x ∉ own.map (·.ident.value))) ∘ (·.backing.value) := by
    funext p
    simp only [Function.comp_apply, decide_not, List.mem_map, List.any_eq, beq_iff_eq]
  rw [storage, List.map_append, List.map_map, List.map_map, List.filter_map, hmissing]
  exact congrArg _ (List.map_congr_left fun f _ => congrArg Located.value (t.ownStorage_ident f))

theorem fieldNames_withStorage {st : Struct} (h : ∀ ps trailing, st.fields ≠ .positional ps trailing) :
    (st.withStorage t).fieldNames =
      (t.inheritedPlans.map (·.backing.value)).filter (· ∉ st.fieldNames) ++ st.fieldNames := by
  rw [Struct.fieldNames, Struct.withStorage, namedFields_storedFields t h, names_storage]
  rfl

/-- A struct that repeats no name does not either when it is rewritten, if and only if what is added to
it does not. -/
theorem nodup_withStorage_iff {st : Struct} (h : ∀ ps trailing, st.fields ≠ .positional ps trailing)
    (hn : st.fieldNames.Nodup) :
    (st.withStorage t).fieldNames.Nodup ↔
      ((t.inheritedPlans.map (·.backing.value)).filter (· ∉ st.fieldNames)).Nodup := by
  rw [fieldNames_withStorage t h, List.nodup_append']
  refine and_iff_left ⟨hn, fun x hx hown => ?_⟩
  exact of_decide_eq_true (List.mem_filter.mp hx).2 hown

end DataType

/-! ### Emitted structs -/

theorem Item.struct_of_mem {items : List Item} {st : Struct} (h : st ∈ items.filterMap (·.struct?)) :
    .struct st ∈ items := by
  obtain ⟨i, hi, hstruct⟩ := List.mem_filterMap.mp h
  cases i with
  | struct st' => exact Option.some.inj hstruct ▸ hi
  | implementation trait self code => cases hstruct
  | naming x code => cases hstruct
  | other code => cases hstruct

namespace Schema

/-- A data struct without repeated names is emitted without them, if and only if no name that it leaves to
its bases is declared twice there; without reports that is so. -/
theorem nodup_fieldNames_iff {args : List TokenTree} {m : Module} {s : Schema}
    (hs : ofModule args m = .ok s) {st : Struct} (hst : .struct st ∈ s.items) (hdata : st.isData = true)
    (hn : st.fieldNames.Nodup) :
    ∃ t ∈ s.run.types, t.ident.text = st.ident.value.text ∧
      Emitted.ofItem s.run s.options.invalid (.struct st) = s.emission st t ∧
      ∃ d ∈ (merge s.decls).1, t.ident = d.ident ∧
        ∃ above, (∀ chain, Ancestry (merge s.decls).1 chain d ↔ chain = above) ∧
          ((st.withStorage t).fieldNames.Nodup ↔
            ((above.flatMap (·.memberNames)).filter (· ∉ st.fieldNames)).Nodup) ∧
          (s.run.diagnostics = [] → (st.withStorage t).fieldNames.Nodup) := by
  obtain ⟨t, ht, hname, hemitted⟩ := exists_type_of_isData hs hst hdata
  obtain ⟨-, -, -, -, hnamed⟩ := exists_decl_of_isData hs hst hdata
  obtain ⟨d, hd, hident, above, hchain⟩ := Run.exists_chain s.symbols.resolve ht
  have hinherited := Run.backing_inherited s.symbols.resolve ((hchain above).mpr rfl) hd ht hident
  refine ⟨t, ht, congrArg (·.text) hname, hemitted, d, hd, hident, above, hchain, ?_, fun hnone => ?_⟩
  · rw [t.nodup_withStorage_iff hnamed hn, hinherited]
  · have hall := Run.nodup_backing_of_flawless s.symbols.resolve hnone ht
    refine (t.nodup_withStorage_iff hnamed hn).mpr (List.Nodup.filter _ ?_)
    exact hall.sublist (List.filter_sublist.map _)

open Example

set_option maxRecDepth 10000 in
/-- A purse that declares the gold itself, which its bases declare twice. -/
theorem nodup_fieldNames_iff_purse :
    ∃ m s st t, ofModule [] m = .ok s ∧ .struct st ∈ s.items ∧ st.ident.value = .plain "Purse" ∧
      st.fieldNames = [.plain "gold"] ∧ t ∈ s.run.types ∧
      Emitted.ofItem s.run s.options.invalid (.struct st) = s.emission st t ∧
      ∃ d ∈ (merge s.decls).1, t.ident = d.ident ∧
        ∃ above, (∀ chain, Ancestry (merge s.decls).1 chain d ↔ chain = above) ∧
          ((st.withStorage t).fieldNames.Nodup ↔
            ((above.flatMap (·.memberNames)).filter (· ∉ st.fieldNames)).Nodup) := by
  have h : (schemaOf? (purse "gold: i32")).any fun s => (s.items.filterMap (·.struct?)).any fun st =>
      decide (st.isData = true ∧ st.ident.value = .plain "Purse" ∧ st.fieldNames = [.plain "gold"]) := by
    decide +kernel
  obtain ⟨m, s, -, hs, hf⟩ := exists_of_schemaOf? h
  obtain ⟨st, hst, hst'⟩ := List.any_eq_true.mp hf
  obtain ⟨hdata, hident, hnames⟩ := of_decide_eq_true hst'
  obtain ⟨t, ht, -, hemitted, d, hd, htd, above, hchain, hiff, -⟩ :=
    nodup_fieldNames_iff hs (Item.struct_of_mem hst) hdata (by rw [hnames]; exact List.nodup_singleton _)
  exact ⟨m, s, st, t, hs, Item.struct_of_mem hst, hident, hnames, ht, hemitted, d, hd, htd, above, hchain, hiff⟩

set_option maxRecDepth 10000 in
/-- A purse that declares nothing gets the gold of the vault and that of the chest. -/
theorem exists_repeated_field :
    ∃ s, schemaOf? (purse "") = some s ∧ ∃ st, .struct st ∈ s.items ∧ st.isData = true ∧
      st.fieldNames.Nodup ∧ ∃ t,
        Emitted.ofItem s.run s.options.invalid (.struct st) = s.emission st t ∧
          ¬(st.withStorage t).fieldNames.Nodup := by
  have h : (schemaOf? (purse "")).any fun s => (s.items.filterMap (·.struct?)).any fun st =>
      decide (st.isData = true ∧ st.fieldNames.Nodup ∧ ∀ t ∈ s.run.types,
        t.ident.text = st.ident.value.text → ¬(st.withStorage t).fieldNames.Nodup) := by decide +kernel
  obtain ⟨m, s, hread, hs, hf⟩ := exists_of_schemaOf? h
  obtain ⟨st, hst, hst'⟩ := List.any_eq_true.mp hf
  obtain ⟨hdata, hn, hrepeated⟩ := of_decide_eq_true hst'
  obtain ⟨t, ht, hname, hemitted⟩ := exists_type_of_isData hs (Item.struct_of_mem hst) hdata
  exact ⟨s, hread, st, Item.struct_of_mem hst, hdata, hn, t, hemitted, hrepeated t ht (congrArg (·.text) hname)⟩

end Schema

end AccessorSchema
