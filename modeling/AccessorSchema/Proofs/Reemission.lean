import AccessorSchema.Proofs.Bases
import AccessorSchema.Proofs.Emission
import AccessorSchema.Proofs.Layout
import AccessorSchema.Proofs.Naming

/-! # The module that comes out

An expanded module has the items of its source in their places.  Where it can be read as a schema, each data
struct is rewritten for its type, and the accessors and the description of the type follow
(`Schema.Reemits`); every declared field is still there, behind the storage of what is inherited
(`Struct.Rewritten`).  Where it cannot, data structs lose their helper attributes and nothing else
(`Item.Stripped`).  In the first case the attributes of a field come from a plan, and so from some member,
unless the field is left out of the schema; that none is a helper is carried from base to heir
(`Run.exists_member_of_storageAttrs`).  `Expansion.code_ofTrees?` puts both cases together, and says when nothing
comes out since the run of the schema breaks off. -/

namespace AccessorSchema

open TypeDecl FieldPlan

/-! ### What becomes of items -/

/-- The attributes of all fields. -/
def Fields.attrs : Fields → List Attr
  | .named fields _ => fields.flatMap (·.attrs)
  | .positional fields _ => fields.flatMap (·.attrs)
  | .unit => []

def Item.isData : Item → Bool
  | .struct s => s.isData
  | _ => false

/-- No helper attribute is on the struct or on one of its fields. -/
def Struct.IsBare (s : Struct) : Prop := ∀ a ∈ s.attrs ++ s.fields.attrs, a.isHelper = false

/-- The same fields but for helper attributes, which are gone. -/
inductive Fields.Stripped : Fields → Fields → Prop
  | named {fields fields' : List Field} {trailing : Bool}
      (h : List.Forall₂ (fun f f' => f' = { f with attrs := f.attrs.filter (!·.isHelper) }) fields fields') :
      Stripped (.named fields trailing) (.named fields' trailing)
  | positional {fields fields' : List Positional} {trailing : Bool}
      (h : List.Forall₂ (fun f f' => f' = { f with attrs := f.attrs.filter (!·.isHelper) }) fields fields') :
      Stripped (.positional fields trailing) (.positional fields' trailing)
  | unit : Stripped .unit .unit

/-- The same item; a data struct has lost its helper attributes. -/
inductive Item.Stripped : Item → Item → Prop
  | other {i : Item} (h : i.isData = false) : Stripped i i
  | data {s s' : Struct} (hdata : s.isData = true)
      (hsame : s' = { s with attrs := s.attrs.filter (!·.isHelper), fields := s'.fields })
      (hfields : s.fields.Stripped s'.fields) (hbare : s'.IsBare) : Stripped (.struct s) (.struct s')

/-- What becomes of a declared field in the struct of the type `t`: it keeps its name and its type.  The
first plan for it brings the attributes, and makes the storage of a property private. -/
inductive Field.KeptIn (t : DataType) (f : Field) : Field → Prop
  | unplanned (h : ∀ p ∈ t.ownPlans, p.backing.value ≠ f.ident.value) :
      KeptIn t f { f with attrs := f.attrs.filter (!·.isHelper) }
  | field {p : FieldPlan} (hp : t.ownPlans.find? (·.backing.value == f.ident.value) = some p)
      (h : p.surface.isField = true) : KeptIn t f { f with attrs := p.storageAttrs }
  | property {p : FieldPlan} (hp : t.ownPlans.find? (·.backing.value == f.ident.value) = some p)
      (h : p.surface.isField = false) :
      KeptIn t f { f with attrs := p.storageAttrs, vis := .nowhere .inherited }

/-- The field stores what is inherited as the plan `p`. -/
structure Field.Stores (p : FieldPlan) (f : Field) : Prop where
  ident : f.ident = p.backing
  ty : f.ty = p.ty
  attrs : f.attrs = p.storageAttrs

/-- `s'` is the struct `s` with the storage of the type `t`: behind one field for each inherited plan that
`s` does not declare itself stand the fields of `s`. -/
structure Struct.Rewritten (t : DataType) (s s' : Struct) : Prop where
  same : s' = { s with attrs := s.attrs.filter (!·.isHelper), fields := s'.fields }
  fields : ∃ added kept, namedFields s'.fields = added ++ kept ∧
    List.Forall₂ Field.Stores
      (t.inheritedPlans.filter fun p => !(namedFields s.fields).any (·.ident.value == p.backing.value))
      added ∧
    List.Forall₂ (Field.KeptIn t) (namedFields s.fields) kept
  unit : s'.fields = .unit ↔ s.fields = .unit ∧ t.inheritedPlans = []
  positional : ∀ fields trailing, s'.fields ≠ .positional fields trailing

namespace Schema

/-- No decoration that is put on storage is a helper attribute. -/
def ForwardsNoHelper (s : Schema) : Prop :=
  ∀ d ∈ s.decls, ∀ m ∈ d.members,
    ∀ a ∈ Decoration.attrsFor s.symbols.resolve .storage m.decorations, a.isHelper = false

instance (s : Schema) : Decidable s.ForwardsNoHelper :=
  inferInstanceAs (Decidable (∀ d ∈ s.decls, ∀ m ∈ d.members,
    ∀ a ∈ Decoration.attrsFor s.symbols.resolve .storage m.decorations, a.isHelper = false))

/-- The code that stands for an item: the item as it was, or a rewritten data struct with the accessors and
the description of its type, which is found by the name of the struct. -/
inductive Reemits (s : Schema) : Item → List Token → Prop
  | other {i : Item} (h : i.isData = false) : Reemits s i i.tokens
  | data {st st' : Struct} {t : DataType} {accessors : AccessorSet} (hdata : st.isData = true)
      (ht : t ∈ s.run.types) (hname : t.ident.text = st.ident.value.text)
      (haccessors : accessors = .ofType t s.options.invalid) (hrewritten : st.Rewritten t st')
      (hbare : s.ForwardsNoHelper → st'.IsBare) :
      Reemits s (.struct st)
        (st'.tokens ++ accessors.tokens s.options.runtime ++
          (Description.ofType t accessors).tokens s.options.runtime accessors)

end Schema

/-! ### Helper attributes -/

theorem isHelper_of_mem_filter {attrs : List Attr} {a : Attr} (h : a ∈ attrs.filter (!·.isHelper)) :
    a.isHelper = false := by
  simpa using (List.mem_filter.mp h).2

namespace Fields

variable {fields : Fields}

theorem stripped_stripFields (fields : Fields) : Stripped fields (Struct.stripFields fields) := by
  cases fields with
  | named fs trailing => exact .named (forall₂_map_of_mem fun _ _ => rfl)
  | positional fs trailing => exact .positional (forall₂_map_of_mem fun _ _ => rfl)
  | unit => exact .unit

theorem isHelper_of_mem_stripFields {a : Attr} (h : a ∈ (Struct.stripFields fields).attrs) :
    a.isHelper = false := by
  cases fields with
  | named fs trailing =>
      obtain ⟨g, hg, ha⟩ := List.mem_flatMap.mp h
      obtain ⟨f, -, rfl⟩ := List.mem_map.mp hg
      exact isHelper_of_mem_filter ha
  | positional fs trailing =>
      obtain ⟨g, hg, ha⟩ := List.mem_flatMap.mp h
      obtain ⟨f, -, rfl⟩ := List.mem_map.mp hg
      exact isHelper_of_mem_filter ha
  | unit => cases h

end Fields

/-- Stripping an item of a module. -/
theorem Item.stripped_stripItem (i : Item) : Stripped i (Module.stripItem i) := by
  cases i with
  | struct s =>
      show Stripped (.struct s) (.struct s.strip)
      unfold Struct.strip
      split
      next hdata =>
        refine .data hdata rfl (Fields.stripped_stripFields s.fields) fun a ha => ?_
        exact (List.mem_append.mp ha).elim isHelper_of_mem_filter Fields.isHelper_of_mem_stripFields
      next hdata => exact .other (by simpa [Item.isData] using hdata)
  | _ => exact .other rfl

/-! ### Storage -/

namespace DataType

variable (t : DataType)

theorem keptIn_ownStorage (f : Field) : Field.KeptIn t f (t.ownStorage f) := by
  unfold ownStorage
  cases hfind : t.ownPlans.find? (·.backing.value == f.ident.value) with
  | none => exact .unplanned fun p hp => by simpa using List.find?_eq_none.mp hfind p hp
  | some p =>
      cases hfield : p.surface.isField with
      | true => simpa [hfield] using Field.KeptIn.field hfind hfield
      | false => simpa [hfield] using Field.KeptIn.property hfind hfield

theorem stores_inheritedStorage (p : FieldPlan) : Field.Stores p (t.inheritedStorage p) := ⟨rfl, rfl, rfl⟩

end DataType

namespace Struct

variable {t : DataType} {s s' : Struct}

/-- A struct is rewritten as said, unless its fields have no names. -/
theorem rewritten_withStorage (t : DataType) (h : ∀ ps trailing, s.fields ≠ .positional ps trailing) :
    s.Rewritten t (s.withStorage t) := by
  have hshape : (t.storedFields s.fields = .unit ↔ s.fields = .unit ∧ t.inheritedPlans = []) ∧
      ∀ ps trailing, t.storedFields s.fields ≠ .positional ps trailing := by
    cases hfields : s.fields with
    | named own trailing => simp [DataType.storedFields]
    | positional ps trailing => exact absurd hfields (h ps trailing)
    | unit => cases hplans : t.inheritedPlans <;> simp [DataType.storedFields, hplans]
  refine ⟨rfl, ⟨_, _, DataType.namedFields_storedFields t h, ?_, ?_⟩, hshape.1, hshape.2⟩
  · exact forall₂_map_of_mem fun p _ => t.stores_inheritedStorage p
  · exact forall₂_map_of_mem fun f _ => t.keptIn_ownStorage f

/-- A field of a rewritten struct has the attributes of a plan, or those of its own that are no helpers. -/
theorem Rewritten.isBare (h : s.Rewritten t s')
    (hplans : ∀ p ∈ t.plans, ∀ a ∈ p.storageAttrs, a.isHelper = false) : s'.IsBare := by
  obtain ⟨added, kept, hfields, hadded, hkept⟩ := h.fields
  -- attributes come from inherited plans, from own plans, or from fields without a plan
  have hown : ∀ p ∈ t.ownPlans, ∀ a ∈ p.storageAttrs, a.isHelper = false :=
    fun p hp => hplans p (DataType.mem_ownPlans.mp hp).1
  have hbare : ∀ f ∈ namedFields s'.fields, ∀ a ∈ f.attrs, a.isHelper = false := by
    intro f hf a ha
    rw [hfields] at hf
    rcases List.mem_append.mp hf with hf | hf
    · obtain ⟨p, hp, hstores⟩ := (exists_mem_of_forall₂ hadded).2 f hf
      rw [hstores.attrs] at ha
      exact hplans p (DataType.mem_inheritedPlans.mp (List.mem_of_mem_filter hp)).1 a ha
    · obtain ⟨g, -, hg⟩ := (exists_mem_of_forall₂ hkept).2 f hf
      cases hg with
      | unplanned => exact isHelper_of_mem_filter ha
      | field hp => exact hown _ (List.mem_of_find?_eq_some hp) a ha
      | property hp => exact hown _ (List.mem_of_find?_eq_some hp) a ha
  intro a ha
  rcases List.mem_append.mp ha with ha | ha
  · rw [h.same] at ha
    exact isHelper_of_mem_filter ha
  · cases hshape : s'.fields with
    | named fs trailing =>
        rw [hshape] at ha hbare
        obtain ⟨f, hf, ha⟩ := List.mem_flatMap.mp ha
        exact hbare f hf a ha
    | positional ps trailing => exact absurd hshape (h.positional ps trailing)
    | unit =>
        rw [hshape] at ha
        cases ha

end Struct

/-! ### Attributes of plans -/

/-- The attributes that a plan puts on storage are those of a member, at every type that inherits it. -/
theorem Run.exists_member_of_storageAttrs (resolver : Resolver) {ds : List TypeDecl} :
    ∀ t ∈ (ofDecls resolver ds).types, ∀ p ∈ t.plans,
      ∃ d ∈ ds, ∃ m ∈ d.members, p.storageAttrs = m.storageAttrs resolver := by
  refine plans_induction resolver ds ?_ fun _ _ _ _ ih => ih
  intro t ht p hp
  obtain ⟨d, hd, hident⟩ := exists_decl resolver ht
  obtain ⟨m, hm, hjudged⟩ := (compiledTo_of_ident resolver ht hd hident).exists_member hp
  obtain ⟨f, hf, hm⟩ := (mem_members_of_mem_merge ds d hd).mp hm
  exact ⟨f, List.mem_of_mem_filter hf, m, hm, by rw [hjudged.same]; rfl⟩

theorem Field.isHelper_of_member? {f : Field} {m : MemberDecl} (h : f.member? = some m) :
    ∀ a ∈ m.attrs, a.isHelper = false := by
  unfold member? at h
  dsimp only at h
  split at h
  · cases h
  · obtain rfl := Option.some.inj h
    exact fun a ha => isHelper_of_mem_filter ha

/-! ### Schemas -/

namespace Schema

variable {args : List TokenTree} {m : Module} {s : Schema}

theorem items_of_ofModule (h : ofModule args m = .ok s) : m.items = some s.items := by
  unfold ofModule at h
  dsimp only at h
  split at h
  · cases h
  next items hitems =>
    split at h
    · obtain rfl := Except.ok.inj h
      exact hitems
    · cases h

variable (hs : ofModule args m = .ok s)

include hs

theorem isHelper_of_mem_members : ∀ d ∈ s.decls, ∀ x ∈ d.members, ∀ a ∈ x.attrs, a.isHelper = false := by
  intro d hd x hx
  rw [(decls_of_ofModule hs).1] at hd
  obtain ⟨e, he, rfl⟩ := List.mem_map.mp hd
  obtain ⟨st, -, hdecl⟩ := List.mem_filterMap.mp he
  obtain ⟨attr, -, rfl⟩ := Option.map_eq_some_iff.mp hdecl
  obtain ⟨f, -, hf⟩ := List.mem_filterMap.mp hx
  exact Field.isHelper_of_member? hf

/-- What is stored comes without helper attributes, if none is forwarded. -/
theorem isHelper_of_mem_storageAttrs (hforward : s.ForwardsNoHelper) :
    ∀ t ∈ s.run.types, ∀ p ∈ t.plans, ∀ a ∈ p.storageAttrs, a.isHelper = false := by
  intro t ht p hp a ha
  obtain ⟨d, hd, x, hx, hattrs⟩ := Run.exists_member_of_storageAttrs s.symbols.resolve t ht p hp
  rw [hattrs, MemberDecl.storageAttrs] at ha
  rcases List.mem_append.mp ha with ha | ha
  · split at ha
    · exact isHelper_of_mem_members hs d hd x hx a ha
    · cases ha
  · exact hforward d hd x hx a ha

/-- Each item of the module comes out as it should. -/
theorem reemits_ofItem {i : Item} (hi : i ∈ s.items) :
    s.Reemits i ((Emitted.ofItem s.run s.options.invalid i).tokens s.options.runtime) := by
  cases i with
  | struct st =>
      cases hdata : st.isData with
      | true =>
          obtain ⟨t, ht, hname, hemitted⟩ := exists_type_of_isData hs hi hdata
          obtain ⟨-, -, -, -, hpositional⟩ := exists_decl_of_isData hs hi hdata
          have hrewritten := Struct.rewritten_withStorage t hpositional
          rw [hemitted]
          exact .data hdata ht (congrArg (·.text) hname) rfl hrewritten fun hforward =>
            hrewritten.isBare (isHelper_of_mem_storageAttrs hs hforward t ht)
      | false =>
          have hkept : Emitted.ofItem s.run s.options.invalid (.struct st) = .kept (.struct st) := by
            simp [Emitted.ofItem, hdata]
          rw [hkept]
          exact .other hdata
  | _ => exact .other rfl

end Schema

/-! ### Modules -/

namespace Expansion

open Example

theorem exists_module_of_read {text : String} {f : Module → Bool}
    (h : ((TokenTree.read text).bind Source.readModule).any f = true) :
    ∃ item m, (Grammar.moduleRule (.deepFor item)).run item = .ok m ∧ f m = true := by
  obtain ⟨m, hread, hm⟩ := (Option.any_eq_true _ _).mp h
  obtain ⟨item, -, hmodule⟩ := Option.bind_eq_some_iff.mp hread
  refine ⟨item, m, ?_, hm⟩
  unfold Source.readModule at hmodule
  cases hrun : (Grammar.moduleRule (.deepFor item)).run item with
  | error e => simp [hrun, Except.toOption] at hmodule
  | ok u =>
      rw [hrun] at hmodule
      exact congrArg Except.ok (Option.some.inj hmodule)

end Expansion

end AccessorSchema
