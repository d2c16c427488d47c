import AccessorSchema.Example.Small
import AccessorSchema.Proofs.Lineage
import AccessorSchema.Proofs.Mentions

/-! # Names captured on the way down

A plan that is handed down a lineage has its types rewritten link by link (`handedDown_eq`).  What is
meant is one replacement, of the ancestor's parameters by the arguments that the references come to
when put into each other (`composed`).  The two part where a name that is no parameter at its own place
is called like a parameter further down: it is replaced with it.  `inherited_isComposed_iff` says exactly
when they agree, and `apply_stepwise` that they do where no name is captured. -/

namespace AccessorSchema

namespace Link

/-- What becomes of names when the links replace parameters one after the other. -/
def stepwise : List Link → Substitution
  | [] => []
  | l :: links => l.arguments.andThen (stepwise links)

/-- The parameters of the first base, with the arguments that the references come to. -/
def composed : List Link → Substitution
  | [] => []
  | l :: links => l.arguments.map fun e => (e.1, e.2.subst (composed links))

/-- The name is a parameter of the first base, or no parameter of any base. -/
def Spares (links : List Link) (x : Ident) : Prop :=
  (∃ l ∈ links.head?, x ∈ l.arguments.map (·.1)) ∨ ∀ l ∈ links, x ∉ l.arguments.map (·.1)

/-- No name in an argument is captured by a later link. -/
def AreHygienic : List Link → Prop
  | [] => True
  | l :: links => (∀ e ∈ l.arguments, ∀ x ∈ e.2.mentions, Spares links x) ∧ AreHygienic links

end Link

/-! ### Names -/

namespace Link

open Substitution

theorem apply_stepwise_of_notMem {links : List Link} {x : Ident}
    (h : ∀ l ∈ links, x ∉ l.arguments.map (·.1)) : (stepwise links).apply x = .ofIdent x := by
  induction links with
  | nil => rfl
  | cons l links ih =>
      rw [stepwise, apply_andThen, apply_of_notMem (h l List.mem_cons_self), Ty.subst_ofIdent]
      exact ih fun k hk => h k (List.mem_cons_of_mem _ hk)

theorem apply_composed_of_notMem {l : Link} {links : List Link} {x : Ident}
    (h : x ∉ l.arguments.map (·.1)) : (composed (l :: links)).apply x = .ofIdent x := by
  refine apply_of_notMem ?_
  rw [composed, List.map_map]
  exact h

/-- A name that the links spare comes to the same in both ways.  The induction goes down the lineage:
what a reference puts in for a parameter is spared by the links below. -/
theorem apply_stepwise {links : List Link} {x : Ident} (hx : Spares links x) (h : AreHygienic links) :
    (stepwise links).apply x = (composed links).apply x := by
  induction links generalizing x with
  | nil => rfl
  | cons l links ih =>
      by_cases hmem : x ∈ l.arguments.map (·.1)
      · obtain ⟨e, he, happly⟩ := exists_of_mem hmem
        rw [stepwise, apply_andThen, composed, apply_map_of_mem hmem, happly, Ty.subst_eq_iff]
        exact fun y hy => ih (h.1 e he y hy) h.2
      · have hnone : ∀ k ∈ l :: links, x ∉ k.arguments.map (·.1) := by
          refine hx.resolve_left ?_
          rintro ⟨k, hk, hxk⟩
          cases hk
          exact hmem hxk
        rw [apply_stepwise_of_notMem hnone, apply_composed_of_notMem hmem]

end Link

/-! ### Plans -/

namespace FieldPlan

/-- Handing down rewrites the types of a plan link by link. -/
theorem handedDown_eq (links : List Link) (p : FieldPlan) :
    p.handedDown links =
      { p.subst (Link.stepwise links) with writable := (p.handedDown links).writable } := by
  induction links generalizing p with
  | nil => rw [Link.stepwise, subst_nil]; rfl
  | cons l links ih =>
      have hstep : p.handedDown (l :: links) = (l.inherit p).handedDown links := rfl
      have hsubst : (l.inherit p).subst (Link.stepwise links) =
          { p.subst (Link.stepwise (l :: links)) with writable := (l.inherit p).writable } := by
        rw [Link.stepwise, ← subst_subst]
        rfl
      rw [hstep, ih, hsubst]

/-- The types of `q` are those of `p` with parameters replaced at once by what the references come to. -/
def IsComposed (links : List Link) (p q : FieldPlan) : Prop :=
  q.ty.value = p.ty.value.subst (Link.composed links) ∧ q.kind = p.kind.subst (Link.composed links)

theorem isComposed_handedDown_iff (links : List Link) (p : FieldPlan) :
    IsComposed links p (p.handedDown links) ↔
      ∀ x ∈ p.mentions, (Link.stepwise links).apply x = (Link.composed links).apply x := by
  rw [IsComposed, handedDown_eq]
  show p.ty.value.subst _ = _ ∧ p.kind.subst _ = _ ↔ _
  rw [Ty.subst_eq_iff, Kind.subst_eq_iff, mentions]
  simp only [List.mem_append, or_imp, forall_and]

end FieldPlan

namespace Run

open Link FieldPlan

/-- An inherited plan is the plan of an ancestor, handed down, and it is what replacing the ancestor's
parameters makes of that plan if and only if every name there comes to the same link by link and at
once.  That is so where no name is captured. -/
theorem inherited_isComposed_iff (resolver : Resolver) (ds : List TypeDecl) {t : DataType}
    (ht : t ∈ (ofDecls resolver ds).types) {q : FieldPlan} (hq : q ∈ t.inheritedPlans) :
    (∃ a links p, HandedDown (ofDecls resolver ds).types t q a links p) ∧
      ∀ a links p, HandedDown (ofDecls resolver ds).types t q a links p →
        (IsComposed links p q ↔
          ∀ x ∈ p.mentions, (stepwise links).apply x = (composed links).apply x) ∧
        (AreHygienic links → (∀ x ∈ p.mentions, Spares links x) → IsComposed links p q) := by
  refine ⟨exists_handedDown resolver ds t ht q (DataType.mem_inheritedPlans.mp hq).1, ?_⟩
  intro a links p h
  have hiff : IsComposed links p q ↔
      ∀ x ∈ p.mentions, (stepwise links).apply x = (composed links).apply x :=
    h.eq ▸ isComposed_handedDown_iff links p
  exact ⟨hiff, fun hlinks hspared => hiff.mpr fun x hx => apply_stepwise (hspared x hx) hlinks⟩

section
open Example

theorem inherited_isComposed_ring :
    let r := ofDecls (fun _ _ => .resolved) [relic, socket, ring]
    ∃ t ∈ r.types, ∃ q ∈ t.inheritedPlans, q.origin = relic.ident ∧ t.ident = ring.ident ∧
      (∃ a links p, HandedDown r.types t q a links p) ∧
        ∀ a links p, HandedDown r.types t q a links p →
          (IsComposed links p q ↔
            ∀ x ∈ p.mentions, (stepwise links).apply x = (composed links).apply x) ∧
          (AreHygienic links → (∀ x ∈ p.mentions, Spares links x) → IsComposed links p q) := by
  intro r
  have hring : ∃ t ∈ r.types, ∃ q ∈ t.inheritedPlans, q.origin = relic.ident ∧ t.ident = ring.ident := by
    decide +kernel
  obtain ⟨t, ht, q, hq, horigin, hident⟩ := hring
  exact ⟨t, ht, q, hq, horigin, hident, inherited_isComposed_iff _ _ ht hq⟩

/-- A ring inherits the gem of a relic through a socket: the relic has no parameter, but its field ends
up with another type. -/
theorem exists_captured_name :
    let r := ofDecls (fun _ _ => .resolved) [relic, socket, ring]
    r.diagnostics = [] ∧ ∃ a ∈ r.types, a.generics.typeParams = [] ∧ ∃ p ∈ a.ownPlans,
      ∃ t ∈ r.types, ∃ q ∈ t.inheritedPlans, q.origin = a.ident ∧ q.backing.value = p.backing.value ∧
        q.ty.value ≠ p.ty.value := by
  decide +kernel

end

end Run

end AccessorSchema
