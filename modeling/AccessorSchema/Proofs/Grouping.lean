import AccessorSchema.Proofs.Collections

/-! # Collections and grouping

Parentheses and invisible groups may stand around a type, around the arguments of its last segment and
around the elements of an array or of a boxed slice (`Ty.Regrouped`).  They do not matter to what counts as
a collection, with one exception: a box is looked at for a slice, and grouping around the slice hides it.
The main statement is `Ty.collection?_regrouped_iff`: types that differ in grouping are the same collection
exactly if both or none of them is a box that hides its slice. -/

namespace AccessorSchema

namespace Ty

/-- What stands inside all parentheses and groups around a type. -/
def inner : Ty → Ty
  | .group t | .paren t => t.inner
  | t => t

/-- Types that differ at most in the grouping around them. -/
def Alike (t u : Ty) : Prop := t.inner = u.inner

def isSlice : Ty → Bool
  | .slice _ => true
  | _ => false

/-- A slice with grouping around it. -/
def isHiddenSlice (t : Ty) : Bool := t.inner.isSlice && !t.isSlice

/-- Arguments of a segment `x` that differ at most in grouping: around them, and around the elements of a
boxed slice. -/
inductive RegroupedIn (x : Ident) : Ty → Ty → Prop
  | around {t u : Ty} : t.Alike u → RegroupedIn x t u
  | slice {t u e f : Ty} : x = .plain "Box" → t.inner = .slice e → u.inner = .slice f → e.Alike f →
      RegroupedIn x t u

end Ty

inductive Arg.Regrouped (x : Ident) : Arg → Arg → Prop
  | same (a : Arg) : Regrouped x a a
  | type {t u : Ty} : t.RegroupedIn x u → Regrouped x (.type t) (.type u)

/-- Paths that differ at most in the grouping of the arguments of their last segment. -/
inductive Path.Regrouped : Path → Path → Prop
  | last {rooted turbofish trailing : Bool} (front : List Segment) {x : Ident} {as bs : List Arg} :
      List.Forall₂ (Arg.Regrouped x) as bs →
      Regrouped (.mk rooted (front ++ [.mk x (.angle turbofish as trailing)]))
        (.mk rooted (front ++ [.mk x (.angle turbofish bs trailing)]))

namespace Ty

/-- Types that differ at most in grouping: around them, around the arguments of their last segment, be they
qualified or not, and around the elements of an array or of a boxed slice. -/
inductive Regrouped (t u : Ty) : Prop
  | around : t.Alike u → Regrouped t u
  | path {p q : Path} : t.inner = .path p → u.inner = .path q → p.Regrouped q → Regrouped t u
  | qualified {front : Code} {p q : Path} : t.inner = .other (front ++ p.code) →
      u.inner = .other (front ++ q.code) → p.Regrouped q → Regrouped t u
  | array {e f : Ty} {length : Code} : t.inner = .array e length → u.inner = .array f length →
      e.Alike f → Regrouped t u

/-- A box whose slice is hidden by grouping. -/
def boxesHiddenSlice : Ty → Bool
  | .group t | .paren t => t.boxesHiddenSlice
  | .path p => p.last?.any fun s => s.ident == .plain "Box" && s.args.types.head?.any (·.isHiddenSlice)
  | _ => false

/-- Elements that differ at most in the grouping around them or, if they are pairs, around key and value. -/
inductive AlikeElements : Ty → Ty → Prop
  | whole {e f : Ty} : e.Alike f → AlikeElements e f
  | pair {k k' v v' : Ty} : k.Alike k' → v.Alike v' → AlikeElements (pairOf k v) (pairOf k' v')

end Ty

/-- Collections of one shape with elements that differ at most in grouping. -/
def SameCollection (c d : Shape × Ty) : Prop := c.1 = d.1 ∧ c.2.AlikeElements d.2

namespace Ty

theorem collection?_inner : ∀ t : Ty, t.inner.collection? = t.collection?
  | .group t => collection?_inner t
  | .paren t => collection?_inner t
  | .path _ => rfl
  | .array _ _ => rfl
  | .slice _ => rfl
  | .other _ => rfl

theorem boxesHiddenSlice_inner : ∀ t : Ty, t.inner.boxesHiddenSlice = t.boxesHiddenSlice
  | .group t => boxesHiddenSlice_inner t
  | .paren t => boxesHiddenSlice_inner t
  | .path _ => rfl
  | .array _ _ => rfl
  | .slice _ => rfl
  | .other _ => rfl

theorem isSlice_iff {t : Ty} : t.isSlice = true ↔ ∃ e, t = .slice e := by
  cases t <;> simp [isSlice]

theorem isSlice_inner {t : Ty} (h : t.isSlice = true) : t.inner.isSlice = true := by
  obtain ⟨e, rfl⟩ := isSlice_iff.mp h
  rfl

/-- What is inside of regrouped arguments is a slice on both sides or on none, and with alike elements. -/
theorem RegroupedIn.slices {x : Ident} {t u : Ty} (h : t.RegroupedIn x u) :
    t.inner.isSlice = u.inner.isSlice ∧ ∀ e f, t = .slice e → u = .slice f → e.Alike f := by
  cases h with
  | around h =>
      refine ⟨congrArg isSlice h, ?_⟩
      rintro e f rfl rfl
      cases (show Ty.slice e = .slice f from h)
      rfl
  | slice _ ht hu hef =>
      refine ⟨by rw [ht, hu]; rfl, ?_⟩
      rintro e f rfl rfl
      cases ht
      cases hu
      exact hef

end Ty

/-! ### Segments -/

theorem Args.forall₂_types {x : Ident} {as bs : List Arg} (h : List.Forall₂ (Arg.Regrouped x) as bs)
    (turbofish trailing : Bool) :
    List.Forall₂ (Ty.RegroupedIn x) (angle turbofish as trailing).types
      (angle turbofish bs trailing).types := by
  show List.Forall₂ _ (as.filterMap _) (bs.filterMap _)
  induction h with
  | nil => exact .nil
  | @cons a b as bs hab _ ih =>
      cases hab with
      | type htu => exact .cons htu ih
      | same =>
          cases a with
          | type t => exact .cons (.around rfl) ih
          | lifetime name => exact ih
          | other code => exact ih

namespace Segment

open Ty

variable {x : Ident} {a b : Args}

theorem rel_collection?_of_ne (hx : x ≠ .plain "Box")
    (h : List.Forall₂ (RegroupedIn x) a.types b.types) :
    Option.Rel SameCollection (mk x a).collection? (mk x b).collection? := by
  obtain ⟨⟨name, raw⟩, valid⟩ := x
  simp only [collection?, ident, args]
  generalize a.types = ts at h ⊢
  generalize b.types = us at h ⊢
  have halike : List.Forall₂ Alike ts us := h.imp fun t u htu => by
    cases htu with
    | around h => exact h
    | slice hbox => exact absurd hbox hx
  have hfirst : ∀ k : Shape, Option.Rel SameCollection (ts.head?.map (k, ·)) (us.head?.map (k, ·)) := by
    intro k
    cases halike with
    | nil => exact .none
    | cons htu _ => exact .some ⟨rfl, .whole htu⟩
  cases raw with
  | true => exact .none
  | false =>
      simp only [Bool.false_eq_true, if_false]
      -- one case for each name of a collection, in the order of the definition
      split
      iterate 5 exact hfirst _
      iterate 2
        cases halike with
        | nil => exact .none
        | cons hkey hrest =>
            cases hrest with
            | nil => exact .none
            | cons hvalue _ => exact .some ⟨rfl, .pair hkey hvalue⟩
      · exact absurd rfl hx
      · exact .none

theorem collection?_box_of_slice {e : Ty} {rest : List Ty} (h : a.types = .slice e :: rest) :
    (mk (.plain "Box") a).collection? = some (.sequence, e) := by
  simp only [collection?, ident, args, h, Ident.plain, Label.plain]
  rfl

theorem collection?_box_of_not_slice {t : Ty} {rest : List Ty} (h : a.types = t :: rest)
    (ht : t.isSlice = false) : (mk (.plain "Box") a).collection? = none := by
  simp only [collection?, ident, args, h, Ident.plain, Label.plain]
  cases t with
  | slice e => cases ht
  | _ => rfl

/-- Boxes agree if both or none of them holds a slice without grouping around it. -/
theorem rel_collection?_box_cons {t u : Ty} {ts us : List Ty} (ha : a.types = t :: ts)
    (hb : b.types = u :: us) (helements : ∀ e f, t = .slice e → u = .slice f → e.Alike f) :
    Option.Rel SameCollection (mk (.plain "Box") a).collection? (mk (.plain "Box") b).collection? ↔
      t.isSlice = u.isSlice := by
  cases ht : t.isSlice with
  | false =>
      rw [collection?_box_of_not_slice ha ht]
      cases hu : u.isSlice with
      | false =>
          rw [collection?_box_of_not_slice hb hu]
          exact iff_of_true .none rfl
      | true =>
          obtain ⟨f, rfl⟩ := isSlice_iff.mp hu
          rw [collection?_box_of_slice hb]
          exact iff_of_false (by rintro ⟨⟩) Bool.false_ne_true
  | true =>
      obtain ⟨e, rfl⟩ := isSlice_iff.mp ht
      rw [collection?_box_of_slice ha]
      cases hu : u.isSlice with
      | false =>
          rw [collection?_box_of_not_slice hb hu]
          exact iff_of_false (by rintro ⟨⟩) Bool.false_ne_true.symm
      | true =>
          obtain ⟨f, rfl⟩ := isSlice_iff.mp hu
          rw [collection?_box_of_slice hb]
          exact iff_of_true (.some ⟨rfl, .whole (helements e f rfl rfl)⟩) rfl

/-- Boxes agree if both or none of them hides its slice. -/
theorem rel_collection?_box_iff (h : List.Forall₂ (RegroupedIn (.plain "Box")) a.types b.types) :
    Option.Rel SameCollection (mk (.plain "Box") a).collection? (mk (.plain "Box") b).collection? ↔
      a.types.head?.any (·.isHiddenSlice) = b.types.head?.any (·.isHiddenSlice) := by
  cases ha : a.types with
  | nil =>
      rw [ha, List.forall₂_nil_left_iff] at h
      simp only [collection?, ident, args, ha, h, Ident.plain, Label.plain]
      exact iff_of_true .none trivial
  | cons t ts =>
      obtain ⟨u, us, htu, -, hb⟩ := List.forall₂_cons_left_iff.mp (ha ▸ h)
      obtain ⟨hinner, helements⟩ := htu.slices
      have ht := isSlice_inner (t := t)
      have hu := isSlice_inner (t := u)
      rw [rel_collection?_box_cons ha hb helements, hb]
      show _ ↔ t.isHiddenSlice = u.isHiddenSlice
      unfold isHiddenSlice
      rw [← hinner] at hu ⊢
      cases hts : t.isSlice <;> cases hus : u.isSlice <;> simp_all

end Segment

/-! ### Types -/

theorem SameCollection.refl (c : Shape × Ty) : SameCollection c c := ⟨rfl, .whole rfl⟩

theorem Path.Regrouped.rel_collection?_iff {p q : Path} (h : p.Regrouped q) :
    Option.Rel SameCollection (Ty.path p).collection? (Ty.path q).collection? ↔
      (Ty.path p).boxesHiddenSlice = (Ty.path q).boxesHiddenSlice := by
  cases h with
  | @last rooted turbofish trailing front x as bs hargs =>
      have htypes := Args.forall₂_types hargs turbofish trailing
      simp only [Ty.collection?, Ty.boxesHiddenSlice, Path.last?, Path.segments, List.getLast?_concat,
        Option.bind_some, Option.any_some, Segment.ident, Segment.args]
      by_cases hx : x = .plain "Box"
      · subst hx
        simpa using Segment.rel_collection?_box_iff htypes
      · rw [beq_false_of_ne hx]
        exact iff_of_true (Segment.rel_collection?_of_ne hx htypes) rfl

/-- Regrouped types are the same collection if both or none of them is a box that hides its slice. -/
theorem Ty.Regrouped.rel_collection?_iff {t u : Ty} (h : t.Regrouped u) :
    Option.Rel SameCollection t.collection? u.collection? ↔
      t.boxesHiddenSlice = u.boxesHiddenSlice := by
  rw [← collection?_inner t, ← collection?_inner u, ← boxesHiddenSlice_inner t,
    ← boxesHiddenSlice_inner u]
  cases h with
  | around h =>
      rw [show t.inner = u.inner from h]
      refine iff_of_true ?_ rfl
      cases u.inner.collection? with
      | none => exact .none
      | some c => exact .some (.refl c)
  | path ht hu hpq =>
      rw [ht, hu]
      exact hpq.rel_collection?_iff
  | qualified ht hu _ =>
      rw [ht, hu]
      exact iff_of_true .none rfl
  | array ht hu hef =>
      rw [ht, hu]
      exact iff_of_true (.some ⟨rfl, .whole hef⟩) rfl

/-! ### Members -/

/-- A member is viewed if it has no converter and its type is a collection. -/
theorem MemberDecl.isView_kind (m : MemberDecl) :
    m.kind.isView = (m.converter.isNone && m.ty.value.collection?.isSome) := by
  unfold kind Kind.decide
  cases m.converter <;> cases m.ty.value.collection? <;> rfl

theorem isSome_of_rel {c d : Option (Shape × Ty)} (h : Option.Rel SameCollection c d) :
    c.isSome = d.isSome := by
  cases h <;> rfl

end AccessorSchema
