import AccessorSchema.Schema.MemberOptions
import Mathlib.Data.List.Basic

/-! # What the attributes of a field say

The options of an attribute are applied to those read before, so at first sight what is wrong with an attribute
could depend on the attributes in front of it.  It does not: every option puts something fixed on top of what is
there (`MemberOptions.Adds`), and whether it is right is seen without looking at that.  So an attribute says the
same and has the same errors wherever it stands (`MemberOptions.applyAll_eq`), and what a field says is what its
attributes say by themselves, put on top of each other in order (`Field.options_eq`). -/

namespace AccessorSchema

/-- Elements with a property lead to results that are related to them, all others to none. -/
theorem forall₂_filterMap {α β : Type} {R : α → β → Prop} {p : α → Bool} {f : α → Option β}
    (hsome : ∀ x, p x = true → ∃ y, f x = some y ∧ R x y) (hnone : ∀ x, p x = false → f x = none)
    (xs : List α) : List.Forall₂ R (xs.filter p) (xs.filterMap f) := by
  induction xs with
  | nil => exact .nil
  | cons x xs ih =>
      cases h : p x with
      | true =>
          obtain ⟨y, hy, hR⟩ := hsome x h
          rw [List.filter_cons_of_pos h, List.filterMap_cons_some hy]
          exact .cons hR ih
      | false =>
          rw [List.filter_cons_of_neg (Bool.eq_false_iff.mp h), List.filterMap_cons_none (hnone x h)]
          exact ih

/-! ### Readers -/

namespace Reader

variable {α β : Type} {P : β → Prop}

/-- Whatever the reader answers with has the property. -/
def Yields (p : Reader β) (P : β → Prop) : Prop := ∀ c x c', p c = .ok (x, c') → P x

theorem Yields.pure {x : β} (h : P x) : Yields (pure x) P := by
  intro c y c' hread
  obtain ⟨rfl, -⟩ := Prod.mk.inj (Except.ok.inj hread)
  exact h

theorem Yields.bind {p : Reader α} {f : α → Reader β} (h : ∀ x, Yields (f x) P) : Yields (p >>= f) P := by
  intro c y c' hread
  change Reader.bind p f c = _ at hread
  unfold Reader.bind at hread
  cases hp : p c with
  | ok r =>
      rw [hp] at hread
      exact h r.1 r.2 y c' hread
  | error e =>
      rw [hp] at hread
      cases hread

end Reader

open Reader

namespace MemberOptions

/-! ### Options on top of others -/

/-- The options of `p` on top of those of `o`: a value replaces the one below, decorations follow those below. -/
def overlay (o p : MemberOptions) : MemberOptions where
  skip := o.skip || p.skip
  converter := p.converter <|> o.converter
  policy := p.policy <|> o.policy
  setter := p.setter <|> o.setter
  accessor := o.accessor ++ p.accessor
  storage := o.storage ++ p.storage

@[simp] theorem overlay_none (o : MemberOptions) : o.overlay .none = o := by
  simp [overlay, none]

theorem overlay_assoc (o p q : MemberOptions) : (o.overlay p).overlay q = o.overlay (p.overlay q) := by
  simp [overlay, Bool.or_assoc, Option.or_assoc]

/-- A change that is not refused puts the same options on top of any others. -/
def Adds (x : Change) : Prop := ∀ f, x = .ok f → ∀ o, f o = o.overlay (f .none)

theorem adds_error (fault : AttributeFault) (place : Span) : Adds (.error (fault, place)) :=
  fun _ h => nomatch h

theorem adds_ok {f : MemberOptions → MemberOptions} (h : ∀ o, f o = o.overlay (f .none)) : Adds (.ok f) := by
  intro g hg
  exact Except.ok.inj hg ▸ h

/-! ### Single options -/

theorem yields_converterOption (g : Grammar) : (converterOption g).Yields Adds :=
  .bind fun _ => .bind fun _ => .pure (adds_ok fun o => by simp [overlay, none])

theorem yields_policyOption : policyOption.Yields Adds := by
  refine .bind fun _ => .bind fun s => ?_
  split
  next => exact .pure (adds_ok fun o => by simp [overlay, none])
  next => exact .pure (adds_error _ _)

theorem yields_accessorOption (g : Grammar) : (accessorOption g).Yields Adds :=
  .bind fun _ => .pure (adds_ok fun o => by simp [overlay, none])

theorem yields_storageOption (g : Grammar) : (storageOption g).Yields Adds :=
  .bind fun _ => .pure (adds_ok fun o => by simp [overlay, none])

theorem yields_setterOption (vis : Located Vis) : (setterOption vis).Yields Adds := by
  refine .bind fun hasValue => ?_
  split
  next => exact .bind fun _ => .bind fun _ => .bind fun _ => .pure (adds_ok fun o => by simp [overlay, none])
  next => exact .pure (adds_ok fun o => by simp [overlay, none])

theorem yields_dataTable (g : Grammar) : ∀ e ∈ dataTable g, e.2.Yields Adds := by
  simp only [dataTable, List.forall_mem_cons, List.not_mem_nil, false_implies, implies_true, and_true]
  exact ⟨.pure (adds_ok fun o => by simp [overlay, none]), yields_accessorOption g, yields_converterOption g,
    yields_policyOption⟩

theorem yields_propertyTable (g : Grammar) (vis : Located Vis) : ∀ e ∈ propertyTable g vis, e.2.Yields Adds := by
  simp only [propertyTable, List.forall_mem_cons, List.not_mem_nil, false_implies, implies_true, and_true]
  exact ⟨yields_setterOption vis, yields_storageOption g, yields_converterOption g, yields_policyOption⟩

theorem yields_change {table : Table} (h : ∀ e ∈ table, e.2.Yields Adds) (unknown : AttributeFault) :
    (change table unknown).Yields Adds := by
  refine .bind fun p => ?_
  split
  next option hoption =>
    obtain ⟨x, -, hx⟩ := Option.bind_eq_some_iff.mp hoption
    split at hx
    next => cases hx
    next =>
      obtain ⟨before, after, htable, -⟩ := List.lookup_eq_some_iff.mp hx
      exact h _ (htable ▸ List.mem_append_right before List.mem_cons_self)
  next => exact .pure (adds_error _ _)

/-! ### Whole attributes -/

/-- What is applied goes on top of what is there, and the errors have nothing to do with that. -/
theorem applyAll_eq {one : Reader Change} (h : one.Yields Adds) (fuel : Nat) (o : MemberOptions) (c : Cursor) :
    applyAll one fuel o c = (o.overlay (applyAll one fuel .none c).1, (applyAll one fuel .none c).2) := by
  induction fuel generalizing o c with
  | zero => simp [applyAll]
  | succ fuel ih =>
      unfold applyAll
      split
      next => simp
      next =>
        cases hone : one c with
        | error e => simp
        | ok r =>
            obtain ⟨change, behind⟩ := r
            cases change with
            | error e => simp
            | ok f =>
                have hf : ∀ o, f o = o.overlay (f .none) := h c _ behind hone f rfl
                dsimp only
                cases (if behind.trees.isEmpty then Except.ok ([], behind) else mark "," behind) with
                | error e => rw [hf o]
                | ok next =>
                    dsimp only
                    rw [ih (f o), ih (f .none), hf o, overlay_assoc]

theorem applyData_eq (a : Attr) (o : MemberOptions) :
    applyData a o = (o.overlay (applyData a .none).1, (applyData a .none).2) := by
  unfold applyData
  split
  next => exact applyAll_eq (yields_change (yields_dataTable _) _) _ _ _
  next => simp

theorem applyProperty_eq (vis : Located Vis) (a : Attr) (o : MemberOptions) :
    applyProperty vis a o = (o.overlay (applyProperty vis a .none).1, (applyProperty vis a .none).2) := by
  unfold applyProperty
  split
  next => simp
  next => simp
  next => exact applyAll_eq (yields_change (yields_propertyTable _ vis) _) _ _ _

end MemberOptions

namespace Attr

/-- What an attribute says about a field by itself, and what is wrong with it. -/
def alone (vis : Located Vis) (a : Attr) : MemberOptions × List AttributeError :=
  if a.isData then MemberOptions.applyData a .none
  else if a.isProperty then MemberOptions.applyProperty vis a .none
  else (.none, [])

/-- A property attribute behind another one. -/
def repetition (before : List Attr) (a : Attr) : List AttributeError :=
  if before.any (·.isProperty) && a.isProperty then [⟨.repeated "property", a.span, none⟩] else []

theorem eq_of_isWord {a : Attr} {v w : String} (hv : a.isWord v = true) (hw : a.isWord w = true) : v = w := by
  obtain ⟨x, hx, hv⟩ := (Option.any_eq_true _ _).mp hv
  obtain ⟨y, hy, hw⟩ := (Option.any_eq_true _ _).mp hw
  obtain rfl := Option.some.inj (hx.symm.trans hy)
  rw [Label.isWord, Bool.and_eq_true, beq_iff_eq] at hv hw
  exact hv.2.symm.trans hw.2

/-- No attribute is of both kinds. -/
theorem isProperty_of_isData {a : Attr} (h : a.isData = true) : a.isProperty = false := by
  refine Bool.eq_false_iff.mpr fun hproperty => ?_
  exact absurd (eq_of_isWord h hproperty) (by decide)

end Attr

namespace Field

variable (f : Field)

/-- What the attributes of a field say together. -/
def said : MemberOptions := (f.attrs.map fun a => (a.alone f.vis).1).foldl .overlay .none

/-- An attribute leaves the field out of the schema. -/
def isLeftOut : Bool := f.attrs.any fun a => (a.alone f.vis).1.skip

/-- What is wrong with the attributes of a field, one after the other. -/
def attrErrors : List AttributeError :=
  f.attrs.zipIdx.flatMap fun e => e.1.repetition (f.attrs.take e.2) ++ (e.1.alone f.vis).2

/-- What is wrong with a field as a property: it is marked as something else too, or left out. -/
def surfaceErrors : List AttributeError :=
  f.propertyAttr?.toList.flatMap fun a =>
    (if f.attrs.any (·.isData) then [⟨.bothSurfaces, a.span, none⟩] else []) ++
      if f.isLeftOut then [⟨.skippedProperty, f.span, none⟩] else []

/-- The field can be read: each of its attributes, and all of them together. -/
structure Parses : Prop where
  attrs : ∀ a ∈ f.attrs, (a.alone f.vis).2 = []
  once : f.attrs.Pairwise fun a b => a.isProperty = true → b.isProperty = false
  oneSurface : (∃ a ∈ f.attrs, a.isProperty = true) → ∀ a ∈ f.attrs, a.isData = false
  kept : (∃ a ∈ f.attrs, a.isProperty = true) → f.isLeftOut = false

/-- The member is the field with what its attributes say. -/
structure DeclaredAs (f : Field) (m : MemberDecl) : Prop where
  ident : m.ident = f.ident
  ty : m.ty = f.ty
  property : (∃ a ∈ f.attrs, a.isProperty = true) → m.surface = .property f.vis.value f.said.setter
  field : (∀ a ∈ f.attrs, a.isProperty = false) → m.surface = .field f.vis.value
  converter : m.converter = f.said.converter
  policy : m.policy = f.said.policy
  decorations : m.decorations =
    f.said.accessor.map (Decoration.mk .accessor) ++ f.said.storage.map (Decoration.mk .storage)
  attrs : m.attrs = f.attrs.filter (!·.isHelper)

/-! ### One attribute after the other -/

theorem applyAttrs_cons (vis : Located Vis) (o : MemberOptions) (before : List Attr) (a : Attr)
    (rest : List Attr) :
    applyAttrs vis o (before.any (·.isProperty)) (a :: rest) =
      ((applyAttrs vis (o.overlay (a.alone vis).1) ((before ++ [a]).any (·.isProperty)) rest).1,
        a.repetition before ++ (a.alone vis).2 ++
          (applyAttrs vis (o.overlay (a.alone vis).1) ((before ++ [a]).any (·.isProperty)) rest).2) := by
  rw [applyAttrs, List.any_append, List.any_cons, List.any_nil, Bool.or_false]
  cases hdata : a.isData with
  | true =>
      have hproperty := Attr.isProperty_of_isData hdata
      simp [Attr.alone, Attr.repetition, hdata, hproperty, MemberOptions.applyData_eq a o]
  | false =>
      cases hproperty : a.isProperty with
      | true => simp [Attr.alone, Attr.repetition, hdata, hproperty, MemberOptions.applyProperty_eq vis a o]
      | false => simp [Attr.alone, Attr.repetition, hdata, hproperty]

theorem applyAttrs_eq (vis : Located Vis) (o : MemberOptions) (before attrs : List Attr) :
    applyAttrs vis o (before.any (·.isProperty)) attrs =
      ((attrs.map fun a => (a.alone vis).1).foldl .overlay o,
        (attrs.zipIdx before.length).flatMap fun e =>
          e.1.repetition ((before ++ attrs).take e.2) ++ (e.1.alone vis).2) := by
  induction attrs generalizing o before with
  | nil => rfl
  | cons a rest ih =>
      have htake : (before ++ a :: rest).take before.length = before := List.take_left
      rw [applyAttrs_cons, ih, List.map_cons, List.foldl_cons, List.zipIdx_cons, List.flatMap_cons, htake,
        List.length_append, List.length_singleton, List.append_assoc before, List.singleton_append]

/-- Each attribute of a field counts, and none hides what is wrong with another one. -/
theorem options_eq : f.options = (f.said, f.attrErrors) :=
  applyAttrs_eq f.vis .none [] f.attrs

theorem skip_foldl (os : List MemberOptions) (o : MemberOptions) :
    (os.foldl .overlay o).skip = (o.skip || os.any (·.skip)) := by
  induction os generalizing o with
  | nil => simp
  | cons p os ih => rw [List.foldl_cons, ih, List.any_cons, ← Bool.or_assoc]; rfl

theorem skip_said : f.said.skip = f.isLeftOut := by
  rw [said, skip_foldl, List.any_map]
  rfl

/-! ### All attributes together -/

theorem isSome_propertyAttr? : f.propertyAttr?.isSome = true ↔ ∃ a ∈ f.attrs, a.isProperty = true := by
  rw [propertyAttr?, List.getLast?_isSome, ne_eq, List.filter_eq_nil_iff]
  push Not
  rfl

theorem errors_eq : f.errors = f.attrErrors ++ f.surfaceErrors := by
  rw [errors, conflicts, surfaceErrors, options_eq, skip_said]
  cases f.propertyAttr? <;> simp

/-- No attribute is a repetition where no property attribute stands behind another one. -/
theorem repetition_eq_nil_iff (attrs : List Attr) :
    (∀ e ∈ attrs.zipIdx, e.1.repetition (attrs.take e.2) = []) ↔
      attrs.Pairwise fun a b => a.isProperty = true → b.isProperty = false := by
  rw [List.pairwise_iff_getElem]
  constructor
  · intro h i j hi hj hij hproperty
    have hnone := h (attrs[j], j) (List.mem_zipIdx_iff_getElem?.mpr (List.getElem?_eq_getElem hj))
    have hbefore : (attrs.take j).any (·.isProperty) = true :=
      List.any_eq_true.mpr ⟨attrs[i], List.mem_take_iff_getElem.mpr ⟨i, by omega, rfl⟩, hproperty⟩
    simpa [Attr.repetition, hbefore] using hnone
  · rintro h ⟨a, j⟩ he
    have hat : attrs[j]? = some a := List.mem_zipIdx_iff_getElem?.mp he
    obtain ⟨hj, rfl⟩ := List.getElem?_eq_some_iff.mp hat
    refine if_neg fun hboth => ?_
    obtain ⟨hbefore, hproperty⟩ := Bool.and_eq_true_iff.mp hboth
    obtain ⟨b, hb, hbproperty⟩ := List.any_eq_true.mp hbefore
    obtain ⟨i, hi, rfl⟩ := List.mem_take_iff_getElem.mp hb
    have hfalse := h i j _ hj (by omega) hbproperty
    exact absurd (hproperty.symm.trans hfalse) (by decide)

theorem attrErrors_eq_nil_iff : f.attrErrors = [] ↔ (∀ a ∈ f.attrs, (a.alone f.vis).2 = []) ∧
    f.attrs.Pairwise fun a b => a.isProperty = true → b.isProperty = false := by
  rw [attrErrors, List.flatMap_eq_nil_iff, ← repetition_eq_nil_iff]
  simp only [List.append_eq_nil_iff]
  constructor
  · intro h
    refine ⟨fun a ha => ?_, fun e he => (h e he).1⟩
    obtain ⟨i, hi⟩ := List.mem_iff_getElem?.mp ha
    exact (h (a, i) (List.mem_zipIdx_iff_getElem?.mpr hi)).2
  · rintro ⟨halone, hrepeated⟩ e he
    exact ⟨hrepeated e he, halone e.1 (List.mem_of_getElem? (List.mem_zipIdx_iff_getElem?.mp he))⟩

theorem surfaceErrors_eq_nil_iff : f.surfaceErrors = [] ↔ ((∃ a ∈ f.attrs, a.isProperty = true) →
    (∀ a ∈ f.attrs, a.isData = false) ∧ f.isLeftOut = false) := by
  rw [← isSome_propertyAttr?, surfaceErrors]
  cases f.propertyAttr? <;> simp

theorem errors_eq_nil_iff : f.errors = [] ↔ f.Parses := by
  rw [errors_eq, List.append_eq_nil_iff, attrErrors_eq_nil_iff, surfaceErrors_eq_nil_iff]
  constructor
  · rintro ⟨⟨halone, honce⟩, hsurface⟩
    exact ⟨halone, honce, fun h => (hsurface h).1, fun h => (hsurface h).2⟩
  · rintro ⟨halone, honce, honeSurface, hkept⟩
    exact ⟨⟨halone, honce⟩, fun h => ⟨honeSurface h, hkept h⟩⟩

/-! ### The member of a field -/

theorem member?_of_isLeftOut (h : f.isLeftOut = true) : f.member? = none := by
  rw [member?, options_eq]
  exact if_pos (f.skip_said.trans h)

theorem exists_member (h : f.isLeftOut = false) : ∃ m, f.member? = some m ∧ f.DeclaredAs m := by
  have hskip : f.options.1.skip = false := by rw [options_eq, skip_said, h]
  have hsurface := f.isSome_propertyAttr?
  refine ⟨_, if_neg (Bool.eq_false_iff.mp hskip), ?_⟩
  rw [options_eq]
  refine ⟨rfl, rfl, fun hproperty => if_pos (hsurface.mpr hproperty), fun hfield => if_neg fun hsome => ?_, rfl, rfl,
    rfl, rfl⟩
  obtain ⟨a, ha, hproperty⟩ := hsurface.mp hsome
  exact absurd ((hfield a ha).symm.trans hproperty) (by decide)

/-- The members of some fields are those that no attribute leaves out, in their order. -/
theorem forall₂_members (fields : List Field) :
    List.Forall₂ DeclaredAs (fields.filter (!·.isLeftOut)) (fields.filterMap (·.member?)) :=
  forall₂_filterMap (fun f h => f.exists_member ((Bool.not_eq_true' _).mp h))
    (fun f h => f.member?_of_isLeftOut ((Bool.not_eq_false' _).mp h)) fields

end Field

end AccessorSchema
