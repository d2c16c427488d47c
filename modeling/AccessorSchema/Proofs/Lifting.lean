import AccessorSchema.Proofs.Reemission
import AccessorSchema.Proofs.Resolution
import AccessorSchema.Proofs.StructOptions

/-! # Reading a whole module

The options, every data struct and every field of it are read on their own, and what is wrong with them is put
together in their order.  So a module has declarations exactly if each of them can be read
(`Struct.complaints_eq_nil_iff`), these are the structs with their fields (`Struct.DeclaredAs`), and otherwise
no error is lost (`Schema.ofModule_outcome`).  The attribute of a struct is its first `data` attribute. -/

namespace AccessorSchema

/-- What is wrong, nothing if there is a result. -/
def errorsOf {ε α : Type} : Except (List ε) α → List ε
  | .ok _ => []
  | .error es => es

/-! ### Structs -/

namespace Struct

variable (s : Struct)

/-- Errors in the attribute of a struct, or in its base if the attribute can be read. -/
def optionErrors : List AttributeError :=
  s.dataAttr?.toList.flatMap fun a =>
    match DataOptions.ofAttr a with
    | .ok o => baseErrors o
    | .error es => es

/-- Fields without names are one error, at the name of the struct. -/
def formErrors : List AttributeError :=
  match s.fields with
  | .positional _ _ => [⟨.unnamedFields, s.ident.span, none⟩]
  | _ => []

/-- All that is wrong with a struct, in the order of the source. -/
def complaints : List AttributeError :=
  s.optionErrors ++ s.formErrors ++ (namedFields s.fields).flatMap fun f => f.attrErrors ++ f.surfaceErrors

/-- A data struct can be read: its attribute with its base, its form and each of its fields. -/
structure Parses : Prop where
  options : ∃ a o, s.dataAttr? = some a ∧ DataOptions.ofAttr a = .ok o ∧
    ∀ t, o.base = some t → (BaseRef.ofType? t.value).isSome = true
  named : ∀ fields trailing, s.fields ≠ .positional fields trailing
  fields : ∀ f ∈ namedFields s.fields, f.Parses

/-- The declaration is the struct with its options and with those fields that are not left out. -/
structure DeclaredAs (s : Struct) (d : TypeDecl) : Prop where
  ident : d.ident = s.ident.value
  generics : d.generics = s.generics
  options : ∃ a o, s.dataAttr? = some a ∧ DataOptions.ofAttr a = .ok o ∧ d.mode = .ofBool o.isMutable ∧
    Option.Rel (fun t b => BaseRef.ofType? t.value = some b.value ∧ b.span = t.span) o.base d.base
  members : List.Forall₂ Field.DeclaredAs ((namedFields s.fields).filter (!·.isLeftOut)) d.members

variable {s} {a : Attr} {d : TypeDecl} {es : List AttributeError}

theorem baseErrors_eq_nil_iff {o : DataOptions} :
    baseErrors o = [] ↔ ∀ t, o.base = some t → (BaseRef.ofType? t.value).isSome = true := by
  unfold baseErrors
  cases o.base with
  | none => simp
  | some t => simp [Option.isSome_iff_ne_none]

theorem optionErrors_eq (ha : s.dataAttr? = some a) : s.optionErrors = (dataOptions a).2 := by
  rw [optionErrors, ha, Option.toList_some, List.flatMap_singleton, dataOptions]
  cases DataOptions.ofAttr a <;> rfl

theorem fieldErrors_eq (s : Struct) : s.fieldErrors =
    s.formErrors ++ (namedFields s.fields).flatMap fun f => f.attrErrors ++ f.surfaceErrors := by
  have herrors : (fun f : Field => f.errors) = fun f => f.attrErrors ++ f.surfaceErrors :=
    funext Field.errors_eq
  unfold fieldErrors formErrors
  cases s.fields <;> simp [namedFields, herrors]

theorem exists_decl (h : s.isData = true) : ∃ d, s.decl? = some (d, s.complaints) := by
  obtain ⟨a, ha⟩ := Option.isSome_iff_exists.mp h
  refine ⟨s.declWith (dataOptions a).1, ?_⟩
  rw [decl?, ha, Option.map_some, complaints, optionErrors_eq ha, List.append_assoc, ← fieldErrors_eq]

theorem optionErrors_eq_nil_iff (ha : s.dataAttr? = some a) : s.optionErrors = [] ↔
    ∃ o, DataOptions.ofAttr a = .ok o ∧ ∀ t, o.base = some t → (BaseRef.ofType? t.value).isSome = true := by
  rw [optionErrors, ha, Option.toList_some, List.flatMap_singleton]
  cases ho : DataOptions.ofAttr a with
  | error es => simpa using Attr.errors_ne_nil_of_ofAttr ho
  | ok o => simpa using baseErrors_eq_nil_iff

theorem formErrors_eq_nil_iff (s : Struct) :
    s.formErrors = [] ↔ ∀ fields trailing, s.fields ≠ .positional fields trailing := by
  unfold formErrors
  cases s.fields <;> simp

theorem complaints_eq_nil_iff (h : s.isData = true) : s.complaints = [] ↔ s.Parses := by
  obtain ⟨a, ha⟩ := Option.isSome_iff_exists.mp h
  have hfields : ((namedFields s.fields).flatMap fun f => f.attrErrors ++ f.surfaceErrors) = [] ↔
      ∀ f ∈ namedFields s.fields, f.Parses := by
    simp only [List.flatMap_eq_nil_iff, ← Field.errors_eq, Field.errors_eq_nil_iff]
  rw [complaints, List.append_eq_nil_iff, List.append_eq_nil_iff, optionErrors_eq_nil_iff ha,
    formErrors_eq_nil_iff, hfields]
  constructor
  · rintro ⟨⟨⟨o, ho, hbase⟩, hnamed⟩, hparses⟩
    exact ⟨⟨a, o, ha, ho, hbase⟩, hnamed, hparses⟩
  · rintro ⟨⟨b, o, hb, ho, hbase⟩, hnamed, hparses⟩
    obtain rfl := Option.some.inj (ha.symm.trans hb)
    exact ⟨⟨⟨o, ho, hbase⟩, hnamed⟩, hparses⟩

/-- A struct that can be read is declared as it stands. -/
theorem declaredAs_of_parses (h : s.Parses) (hd : s.decl? = some (d, es)) : s.DeclaredAs d := by
  obtain ⟨a, o, ha, ho, hbase⟩ := h.options
  have hdecl : s.declWith o = d := by
    rw [decl?, ha, Option.map_some, dataOptions, ho] at hd
    exact (Prod.mk.inj (Option.some.inj hd)).1
  subst hdecl
  refine ⟨rfl, rfl, ⟨a, o, ha, ho, rfl, ?_⟩, Field.forall₂_members _⟩
  unfold declWith
  cases hgiven : o.base with
  | none => exact .none
  | some t =>
      obtain ⟨b, hb⟩ := Option.isSome_iff_exists.mp (hbase t hgiven)
      dsimp only [Option.bind_some]
      rw [hb]
      exact .some ⟨hb, rfl⟩

end Struct

/-! ### Modules -/

namespace Schema

/-- The structs that are data types, in their order. -/
def dataStructs (items : List Item) : List Struct := (items.filterMap (·.struct?)).filter (·.isData)

variable (items : List Item)

/-- Each data struct is read on its own. -/
theorem forall₂_declsOf : List.Forall₂ (fun s x => s.decl? = some x ∧ x.2 = s.complaints)
    (dataStructs items) (declsOf items) := by
  refine forall₂_filterMap (fun s h => ?_) (fun s h => ?_) _
  · obtain ⟨d, hd⟩ := Struct.exists_decl h
    exact ⟨_, hd, hd, rfl⟩
  · rw [Struct.decl?, Option.not_isSome_iff_eq_none.mp (Bool.eq_false_iff.mp h), Option.map_none]

theorem errors_declsOf : (declsOf items).flatMap (·.2) = (dataStructs items).flatMap (·.complaints) :=
  (flatMap_eq_of_forall₂ ((forall₂_declsOf items).imp fun _ _ h => h.2.symm)).symm

theorem complaints_dataStructs_eq_nil_iff :
    (dataStructs items).flatMap (·.complaints) = [] ↔ ∀ s ∈ dataStructs items, s.Parses := by
  rw [List.flatMap_eq_nil_iff]
  exact forall₂_congr fun s hs => Struct.complaints_eq_nil_iff (List.mem_filter.mp hs).2

theorem forall₂_decls (h : ∀ s ∈ dataStructs items, s.Parses) :
    List.Forall₂ Struct.DeclaredAs (dataStructs items) ((declsOf items).map (·.1)) := by
  rw [List.forall₂_map_right_iff]
  have hall := (List.forall₂_and_left _ _).mpr ⟨h, forall₂_declsOf items⟩
  exact hall.imp fun s x hx => Struct.declaredAs_of_parses hx.1 hx.2.1

variable {items} {args : List TokenTree} {m : Module}

theorem ofModule_eq (hitems : m.items = some items) :
    ofModule args m =
      if (errorsOf (SchemaOptions.read args) ++ (dataStructs items).flatMap (·.complaints)).isEmpty then
        .ok ⟨(optionsOf args).1, (declsOf items).map (·.1), items⟩
      else .error (errorsOf (SchemaOptions.read args) ++ (dataStructs items).flatMap (·.complaints)) := by
  have herrors : (optionsOf args).2 = errorsOf (SchemaOptions.read args) := by
    unfold optionsOf
    cases SchemaOptions.read args <;> rfl
  rw [ofModule, hitems, ← errors_declsOf, ← herrors]

theorem errorsOf_read_eq_nil_iff (args : List TokenTree) :
    errorsOf (SchemaOptions.read args) = [] ↔ ∃ o, SchemaOptions.read args = .ok o := by
  cases h : SchemaOptions.read args with
  | ok o => simp [errorsOf]
  | error es => simpa [errorsOf] using OptionItem.errors_ne_nil_of_readOptions h

/-- A module with a body is read exactly if its options and all its data structs can be, its declarations are
then these structs in their order, and otherwise all that is wrong with any of them is reported, in the order of
the source. -/
theorem ofModule_outcome (args : List TokenTree) {m : Module} {items : List Item} (hitems : m.items = some items) :
    ((∃ s, ofModule args m = .ok s) ↔
      (∃ o, SchemaOptions.read args = .ok o) ∧ ∀ st ∈ dataStructs items, st.Parses) ∧
    (∀ s, ofModule args m = .ok s → SchemaOptions.read args = .ok s.options ∧ s.items = items ∧
      List.Forall₂ Struct.DeclaredAs (dataStructs items) s.decls) ∧
    ∀ es, ofModule args m = .error es →
      es = errorsOf (SchemaOptions.read args) ++ (dataStructs items).flatMap (·.complaints) := by
  have hsound : errorsOf (SchemaOptions.read args) ++ (dataStructs items).flatMap (·.complaints) = [] ↔
      (∃ o, SchemaOptions.read args = .ok o) ∧ ∀ st ∈ dataStructs items, st.Parses := by
    rw [List.append_eq_nil_iff, errorsOf_read_eq_nil_iff, complaints_dataStructs_eq_nil_iff]
  rw [ofModule_eq hitems]
  split
  next hnone =>
    rw [List.isEmpty_iff] at hnone
    obtain ⟨⟨o, ho⟩, hparses⟩ := hsound.mp hnone
    refine ⟨iff_of_true ⟨_, rfl⟩ (hsound.mp hnone), fun s hs => ?_, fun es hes => ?_⟩
    · obtain rfl := Except.ok.inj hs
      exact ⟨by simp [optionsOf, ho], rfl, forall₂_decls items hparses⟩
    · cases hes
  next hsome =>
    rw [List.isEmpty_iff] at hsome
    refine ⟨iff_of_false ?_ (mt hsound.mpr hsome), fun s hs => ?_, fun es hes => (Except.error.inj hes).symm⟩
    · rintro ⟨s, hs⟩
      cases hs
    · cases hs

open Example

set_option maxRecDepth 10000 in
/-- A chest is declared behind the vault without the field that it leaves out; of the ruins everything is reported. -/
theorem ofModule_outcome_ruins :
    (∃ item m items s, (Grammar.moduleRule (.deepFor item)).run item = .ok m ∧ m.items = some items ∧
      ofModule [] m = .ok s ∧ List.Forall₂ Struct.DeclaredAs (dataStructs items) s.decls ∧
        s.decls.map (·.members.length) = [1, 1]) ∧
      ∃ args item m items es, TokenTree.read "invalid" = some args ∧
        (Grammar.moduleRule (.deepFor item)).run item = .ok m ∧ m.items = some items ∧
          ofModule args m = .error es ∧
            es = errorsOf (SchemaOptions.read args) ++ (dataStructs items).flatMap (·.complaints) ∧
              es.map (·.located) = ruinsReport := by
  constructor
  · have hread : ((TokenTree.read (chest "gold: i32, silver: u8")).bind Source.readModule).any (fun m =>
        m.items.isSome && (ofModule [] m).toOption.any fun s =>
          decide (s.decls.map (·.members.length) = [1, 1])) = true := by
      decide +kernel
    obtain ⟨item, m, hm, hf⟩ := Expansion.exists_module_of_read hread
    obtain ⟨hitems, hf⟩ := Bool.and_eq_true_iff.mp hf
    obtain ⟨items, hitems⟩ := Option.isSome_iff_exists.mp hitems
    have houtcome := ofModule_outcome [] hitems
    cases hs : ofModule [] m with
    | error es => simp [hs, Except.toOption] at hf
    | ok s =>
        rw [hs] at hf
        exact ⟨item, m, items, s, hm, hitems, hs, (houtcome.2.1 s hs).2.2, of_decide_eq_true hf⟩
  · have hread : (TokenTree.read "invalid").any (fun args =>
        ((TokenTree.read ruins).bind Source.readModule).any fun m =>
          m.items.isSome && decide ((errorsOf (ofModule args m)).map (·.located) = ruinsReport)) = true := by
      decide +kernel
    obtain ⟨args, hargs, hread⟩ := (Option.any_eq_true _ _).mp hread
    obtain ⟨item, m, hm, hf⟩ := Expansion.exists_module_of_read hread
    obtain ⟨hitems, hf⟩ := Bool.and_eq_true_iff.mp hf
    obtain ⟨items, hitems⟩ := Option.isSome_iff_exists.mp hitems
    have houtcome := ofModule_outcome args hitems
    cases hs : ofModule args m with
    | ok s => simp [hs, errorsOf, ruinsReport] at hf
    | error es =>
        rw [hs] at hf
        exact ⟨args, item, m, items, es, hargs, hm, hitems, hs, houtcome.2.2 es hs, of_decide_eq_true hf⟩

end Schema

end AccessorSchema
