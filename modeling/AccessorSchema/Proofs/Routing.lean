import AccessorSchema.Proofs.Naming
import Mathlib.Data.List.Basic

/-! # Where decorations go

The attributes of a plan and its refused references are gathered in three lists, one decoration after the
other.  What one decoration does to them is a relation with a rule for each place it may go to (`Takes`), and
all decorations of a member are taken in order (`Routed`).  A run over the decorations only ever adds to the
ends of the lists, and what it adds is known beforehand (`Routed.eq`), so there is one run from each start
(`routed_iff`).  `routed_classify?` says that the plan of a member, which there is if methods can be named after
it, is what the run from its own attributes ends in, once the converter has been looked at too. -/

namespace AccessorSchema

/-- The three lists, as far as they are filled. -/
structure Routes where
  accessor : List Attr
  storage : List Attr
  refused : List Unresolved

namespace Routes

/-- The attributes of a member, which go where its surface is. -/
def host (m : MemberDecl) : Routes :=
  match m.surface with
  | .field _ => ⟨[], m.attrs, []⟩
  | .property _ _ => ⟨m.attrs, [], []⟩

def toAccessor (r : Routes) (d : Decoration) : Routes := { r with accessor := r.accessor ++ [.ofMeta d.content] }

def toStorage (r : Routes) (d : Decoration) : Routes := { r with storage := r.storage ++ [.ofMeta d.content] }

def refuse (r : Routes) (u : Unresolved) : Routes := { r with refused := r.refused ++ [u] }

def append (r s : Routes) : Routes :=
  ⟨r.accessor ++ s.accessor, r.storage ++ s.storage, r.refused ++ s.refused⟩

theorem append_assoc (r s t : Routes) : (r.append s).append t = r.append (s.append t) := by
  simp only [append, List.append_assoc]

theorem append_empty (r : Routes) : r.append ⟨[], [], []⟩ = r := by
  simp only [append, List.append_nil]

/-- All attributes, wherever they go. -/
def attrs (r : Routes) : List Attr := r.accessor ++ r.storage

/-- What one decoration does to the lists. -/
inductive Takes (resolver : Resolver) (d : Decoration) (r : Routes) : Routes → Prop
  | accessor (hok : d.verdict resolver = .resolved) (ht : d.target = .accessor) : Takes resolver d r (r.toAccessor d)
  | storage (hok : d.verdict resolver = .resolved) (ht : d.target = .storage) : Takes resolver d r (r.toStorage d)
  | refused (hbad : d.verdict resolver ≠ .resolved) :
      Takes resolver d r (r.refuse ⟨d.content.path, .decoration, d.verdict resolver⟩)

/-- What the decorations do to the lists in order. -/
inductive Routed (resolver : Resolver) : List Decoration → Routes → Routes → Prop
  | nil (r : Routes) : Routed resolver [] r r
  | cons {d : Decoration} {ds : List Decoration} {r s t : Routes} (hd : Takes resolver d r s)
      (hds : Routed resolver ds s t) : Routed resolver (d :: ds) r t

/-- What the converter does to the lists, if there is one. -/
inductive Closes (resolver : Resolver) (r : Routes) : Option (Located Path) → Routes → Prop
  | absent : Closes resolver r none r
  | resolved {c : Located Path} (hok : resolver c.value .converter = .resolved) : Closes resolver r (some c) r
  | refused {c : Located Path} (hbad : resolver c.value .converter ≠ .resolved) :
      Closes resolver r (some c) (r.refuse ⟨c, .converter, resolver c.value .converter⟩)

/-! ### One decoration -/

variable {resolver : Resolver} {d : Decoration} {ds : List Decoration} {r s t : Routes}

/-- What decorations add to the lists. -/
def added (resolver : Resolver) (ds : List Decoration) : Routes :=
  ⟨Decoration.attrsFor resolver .accessor ds, Decoration.attrsFor resolver .storage ds,
    (ds.filter fun d => !d.isUsable resolver).map fun d => ⟨d.content.path, .decoration, d.verdict resolver⟩⟩

/-- The attributes of all decorations that resolve. -/
def forwarded (resolver : Resolver) (ds : List Decoration) : List Attr :=
  (ds.filter (·.isUsable resolver)).map (Attr.ofMeta ·.content)

theorem isUsable_iff : d.isUsable resolver = true ↔ d.verdict resolver = .resolved := beq_iff_eq

theorem added_cons : added resolver (d :: ds) = (added resolver [d]).append (added resolver ds) := by
  simp only [added, append, Decoration.attrsFor, ← List.map_append, ← List.filter_append, List.singleton_append]

theorem forwarded_cons : forwarded resolver (d :: ds) = forwarded resolver [d] ++ forwarded resolver ds := by
  simp only [forwarded, ← List.map_append, ← List.filter_append, List.singleton_append]

theorem Takes.eq (h : Takes resolver d r s) : s = r.append (added resolver [d]) := by
  cases h with
  | accessor hok ht | storage hok ht =>
      simp [added, append, toAccessor, toStorage, Decoration.attrsFor, isUsable_iff.mpr hok, ht]
  | refused hbad =>
      have hunusable : d.isUsable resolver = false := Bool.eq_false_iff.mpr fun h => hbad (isUsable_iff.mp h)
      simp [added, append, refuse, Decoration.attrsFor, hunusable]

theorem exists_takes (resolver : Resolver) (d : Decoration) (r : Routes) : ∃ s, Takes resolver d r s := by
  by_cases hok : d.verdict resolver = .resolved
  · cases ht : d.target with
    | accessor => exact ⟨_, .accessor hok ht⟩
    | storage => exact ⟨_, .storage hok ht⟩
  · exact ⟨_, .refused hok⟩

/-- A decoration adds its attribute to one list if it resolves, and no attribute otherwise. -/
theorem Takes.perm_attrs (h : Takes resolver d r s) : s.attrs.Perm (r.attrs ++ forwarded resolver [d]) := by
  cases h with
  | accessor hok ht =>
      have hone : forwarded resolver [d] = [.ofMeta d.content] := by simp [forwarded, isUsable_iff.mpr hok]
      rw [hone, attrs, attrs, toAccessor, List.append_assoc, List.append_assoc]
      exact List.Perm.append_left _ List.perm_append_comm
  | storage hok ht =>
      have hone : forwarded resolver [d] = [.ofMeta d.content] := by simp [forwarded, isUsable_iff.mpr hok]
      rw [hone, attrs, attrs, toStorage, List.append_assoc]
  | refused hbad =>
      have hnone : forwarded resolver [d] = [] := by simp [forwarded, isUsable_iff, hbad]
      rw [hnone, List.append_nil]
      exact List.Perm.refl _

/-- One of the lists grows by one. -/
theorem Takes.length (h : Takes resolver d r s) :
    s.attrs.length + s.refused.length = r.attrs.length + r.refused.length + 1 := by
  cases h with
  | accessor | storage | refused =>
      simp only [attrs, toAccessor, toStorage, refuse, List.length_append, List.length_singleton]
      omega

/-! ### All decorations -/

namespace Routed

theorem eq (h : Routed resolver ds r t) : t = r.append (added resolver ds) := by
  induction h with
  | nil r => exact (append_empty r).symm
  | cons hd _ ih => rw [ih, hd.eq, append_assoc, ← added_cons]

theorem perm_attrs (h : Routed resolver ds r t) : t.attrs.Perm (r.attrs ++ forwarded resolver ds) := by
  induction h with
  | nil r => exact .of_eq (List.append_nil r.attrs).symm
  | cons hd _ ih =>
      rw [forwarded_cons, ← List.append_assoc]
      exact ih.trans (hd.perm_attrs.append_right _)

theorem length (h : Routed resolver ds r t) :
    t.attrs.length + t.refused.length = r.attrs.length + r.refused.length + ds.length := by
  induction h with
  | nil r => rfl
  | cons hd _ ih => rw [ih, hd.length, List.length_cons, Nat.add_right_comm, Nat.add_assoc]

end Routed

theorem exists_routed (resolver : Resolver) (ds : List Decoration) (r : Routes) : ∃ t, Routed resolver ds r t := by
  induction ds generalizing r with
  | nil => exact ⟨r, .nil r⟩
  | cons d ds ih =>
      obtain ⟨s, hd⟩ := exists_takes resolver d r
      obtain ⟨t, hds⟩ := ih s
      exact ⟨t, .cons hd hds⟩

theorem routed_iff : Routed resolver ds r t ↔ t = r.append (added resolver ds) := by
  refine ⟨Routed.eq, fun h => ?_⟩
  obtain ⟨t', ht'⟩ := exists_routed resolver ds r
  rwa [h, ← ht'.eq]

/-! ### The converter -/

variable {m : MemberDecl}

theorem closes_iff :
    Closes resolver r m.converter t ↔ t = r.append ⟨[], [], m.unresolvedConverter resolver⟩ := by
  unfold MemberDecl.unresolvedConverter
  cases m.converter with
  | none =>
      rw [append_empty]
      exact ⟨fun h => by cases h; rfl, fun h => h ▸ .absent⟩
  | some c =>
      dsimp only
      by_cases hok : resolver c.value .converter = .resolved
      · have hresolved : (resolver c.value .converter).isResolved = true := beq_iff_eq.mpr hok
        rw [if_pos hresolved, append_empty]
        refine ⟨fun h => ?_, fun h => h ▸ .resolved hok⟩
        cases h with
        | resolved => rfl
        | refused hbad => exact absurd hok hbad
      · have hrefuses : r.append ⟨[], [], [⟨c, .converter, resolver c.value .converter⟩]⟩ =
            r.refuse ⟨c, .converter, resolver c.value .converter⟩ := by
          simp only [append, refuse, List.append_nil]
        have hrefused : ¬(resolver c.value .converter).isResolved = true := fun h => hok (beq_iff_eq.mp h)
        rw [if_neg hrefused, hrefuses]
        refine ⟨fun h => ?_, fun h => h ▸ .refused hok⟩
        cases h with
        | resolved hresolved => exact absurd hresolved hok
        | refused => rfl

theorem Closes.attrs_eq {c : Option (Located Path)} (h : Closes resolver r c t) : t.attrs = r.attrs := by
  cases h <;> rfl

/-- References to converters that the resolver refuses. -/
def refusedConverters (resolver : Resolver) (c : Option (Located Path)) : Nat :=
  c.toList.countP fun c => !(resolver c.value .converter).isResolved

theorem Closes.length {c : Option (Located Path)} (h : Closes resolver r c t) :
    t.refused.length = r.refused.length + refusedConverters resolver c := by
  cases h with
  | absent => rfl
  | resolved hok => simp [refusedConverters, Resolution.isResolved, hok]
  | refused hbad => simp [refusedConverters, Resolution.isResolved, refuse, hbad]

/-! ### Plans -/

/-- What a plan holds in the three lists. -/
def ofPlan (p : FieldPlan) : Routes := ⟨p.accessorAttrs, p.storageAttrs, p.unresolved⟩

theorem attrs_host (m : MemberDecl) : (host m).attrs = m.attrs ∧ (host m).refused = [] := by
  unfold host
  cases m.surface with
  | field => exact ⟨List.nil_append m.attrs, rfl⟩
  | property => exact ⟨List.append_nil m.attrs, rfl⟩

theorem ofPlan_classify (resolver : Resolver) (m : MemberDecl) (owner : Ident) (mode : Mode) :
    ofPlan (m.classify resolver owner mode) =
      ((host m).append (added resolver m.decorations)).append ⟨[], [], m.unresolvedConverter resolver⟩ := by
  unfold ofPlan MemberDecl.classify MemberDecl.planNamed MemberDecl.accessorAttrs MemberDecl.storageAttrs
    MemberDecl.unresolved host
  cases m.surface with
  | field | property =>
      simp [Surface.isField, append, added, MemberDecl.unresolvedDecorations]

end Routes

end AccessorSchema
