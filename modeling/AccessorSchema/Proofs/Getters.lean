import AccessorSchema.Proofs.Flawless
import AccessorSchema.Proofs.MethodNames
import AccessorSchema.Proofs.Reported

/-! # Missing getters

The getters of a type that are no stubs are those of its valid plans (`filter_reads_accessors`), each
for another member (`nodup_keys`).  So a getter is missing exactly when something was reported for its
member (`getter_iff_unreported`).  Without any report no base is missing either, and every type has a
getter for each member of each type on its base chain. -/

namespace AccessorSchema

open TypeDecl

/-- Where all keys differ, an element is alone with its key. -/
theorem filter_of_nodup_map {α β : Type} {key : α → β} [BEq β] [LawfulBEq β] {l : List α}
    (hn : (l.map key).Nodup) {a : α} (ha : a ∈ l) : l.filter (key · == key a) = [a] := by
  induction l with
  | nil => cases ha
  | cons b rest ih =>
      rw [List.map_cons, List.nodup_cons] at hn
      rcases List.mem_cons.mp ha with rfl | ha
      · have hrest : rest.filter (key · == key a) = [] := by
          rw [List.filter_eq_nil_iff]
          intro c hc hkey
          exact hn.1 (beq_iff_eq.mp hkey ▸ List.mem_map_of_mem hc)
        rw [List.filter_cons, if_pos (beq_self_eq_true _), hrest]
      · have hne : ¬(key b == key a) = true := by
          intro hkey
          exact hn.1 (beq_iff_eq.mp hkey ▸ List.mem_map_of_mem ha)
        rw [List.filter_cons, if_neg hne, ih hn.2 ha]

/-! ### What an accessor reads -/

/-- The type that declares the member behind an accessor, with the name of the member. -/
def Accessor.key (a : Accessor) : Ident × Ident := (a.inheritedFrom.getD a.owner, a.backing)

/-- It is no stub and hands out the member of that key. -/
def Accessor.reads (a : Accessor) (k : Ident × Ident) : Bool := !a.isSetter && !a.stubbed && a.key == k

namespace FieldPlan

/-- The type that declares the member of a plan, with the name of the member. -/
def key (p : FieldPlan) : Ident × Ident := (p.origin, p.backing.value)

theorem SameMember.key_eq {p q : FieldPlan} (h : SameMember p q) : q.key = p.key := by
  rw [key, key, h.origin, h.backing]

variable (p : FieldPlan) (owner : Ident) (k : Ident × Ident)

theorem key_getter (stubbed : Bool) : (p.getter owner stubbed).key = p.key := by
  unfold getter Accessor.key inheritedFrom key
  cases hp : p.isInheritedBy owner with
  | true => rfl
  | false =>
      have horigin : p.origin = owner := by simpa [isInheritedBy] using hp
      simp [horigin]

theorem reads_getter (stubbed : Bool) : (p.getter owner stubbed).reads k = (!stubbed && p.key == k) := by
  rw [Accessor.reads, key_getter, isSetter_getter]
  rfl

theorem reads_setter (stubbed : Bool) : (p.setter owner stubbed).reads k = false := rfl

/-- The getter is the only one of a plan's methods that reads. -/
theorem filter_reads_accessors :
    (p.accessors owner false).filter (·.reads k) = if p.key == k then [p.getter owner false] else [] := by
  have hsetter : (if p.writable then [p.setter owner false] else []).filter (·.reads k) = [] := by
    split <;> simp [reads_setter]
  rw [accessors, List.filter_cons, hsetter, reads_getter]
  rfl

end FieldPlan

open FieldPlan

namespace DataType

/-- The accessors that read a member are the getters of the valid plans for it. -/
theorem filter_reads (t : DataType) (policy : InvalidPolicy) (k : Ident × Ident) :
    (t.accessors policy).filter (·.reads k) =
      (t.validPlans.filter (·.key == k)).map (·.getter t.ident false) := by
  have hstub : ∀ a : Accessor, a.stubbed = true → a.reads k = false := by
    intro a ha
    simp [Accessor.reads, ha]
  rw [filter_accessors t policy hstub, ← flatMap_ite]
  exact List.flatMap_congr fun p _ => p.filter_reads_accessors t.ident k

/-- Where each plan is for another member, a plan has its getter if it is valid, and no other. -/
theorem filter_reads_key {t : DataType} (hn : (t.plans.map key).Nodup) {p : FieldPlan}
    (hp : p ∈ t.plans) (policy : InvalidPolicy) :
    (t.accessors policy).filter (·.reads p.key) = if p.valid then [p.getter t.ident false] else [] := by
  have hvalid : t.validPlans.filter (·.key == p.key) = [p].filter (·.valid) := by
    rw [validPlans, List.filter_comm, filter_of_nodup_map hn hp]
  rw [filter_reads, hvalid, List.filter_singleton]
  cases p.valid <;> rfl

end DataType

/-! ### Runs -/

namespace Run

open Relation

variable (resolver : Resolver) {ds : List TypeDecl}

/-- Every plan of a type is for another member. -/
theorem nodup_keys (hn : ∀ d ∈ (merge ds).1, (d.members.map (·.ident.value)).Nodup) :
    ∀ t ∈ (ofDecls resolver ds).types, (t.plans.map key).Nodup := by
  have hown : ∀ t ∈ (ofDecls resolver ds).types, (t.ownPlans.map key).Nodup := by
    intro t ht
    refine List.Nodup.of_map Prod.snd ?_
    rw [List.map_map]
    exact nodup_backings resolver hn ht
  refine types_induction resolver ds ?_ ?_
  · intro t ht _ hplans
    rw [plans_eq resolver ds ht, hplans, List.nil_append]
    exact hown t ht
  · intro l hl hplans ih
    have hinherited : l.heir.inheritedPlans.map key = l.base.plans.map key := by
      rw [hplans, List.map_map]
      rfl
    rw [plans_eq resolver ds hl.heir, List.map_append, List.nodup_append, hinherited]
    refine ⟨ih, hown l.heir hl.heir, fun k hk k' hk' hkk => ?_⟩
    rw [← hinherited] at hk
    obtain ⟨p, hp, rfl⟩ := List.mem_map.mp hk
    obtain ⟨q, hq, rfl⟩ := List.mem_map.mp hk'
    have horigin : p.origin = q.origin := congrArg Prod.fst hkk
    have hin := (DataType.mem_inheritedPlans.mp hp).2
    have hown := (DataType.mem_ownPlans.mp hq).2
    rw [isInheritedBy, ← horigin, ← isInheritedBy, hin] at hown
    cases hown

section flawless
variable (h : (ofDecls resolver ds).diagnostics = [])

include h

/-- Without reports a type has a plan for whatever a type on its base chain has one. -/
theorem exists_plan_of_reaches {x y : Ident} (hxy : ReflTransGen (Extends (merge ds).1) x y) :
    ∀ t ∈ (ofDecls resolver ds).types, t.ident = x → ∀ u ∈ (ofDecls resolver ds).types, u.ident = y →
      ∀ p ∈ u.plans, ∃ q ∈ t.plans, q.key = p.key := by
  have hsame : ∀ t ∈ (ofDecls resolver ds).types, ∀ u ∈ (ofDecls resolver ds).types,
      t.ident = u.ident → t = u :=
    fun t ht u hu => List.inj_on_of_nodup_map (nodup_types resolver ds) ht hu
  induction hxy using ReflTransGen.head_induction_on with
  | refl =>
      intro t ht hx u hu hy p hp
      exact ⟨p, hsame u hu t ht (hy.trans hx.symm) ▸ hp, rfl⟩
  | head hstep _ ih =>
      intro t ht hx u hu hy p hp
      obtain ⟨d, hd, hdx, hz⟩ := hstep
      obtain ⟨l, hl, hheir, hbase, hplans⟩ := exists_link_of_flawless resolver h hd hz
      obtain rfl := hsame t ht l.heir hl.heir (by rw [hx, hheir, hdx])
      obtain ⟨q, hq, hkey⟩ := ih l.base hl.base hbase u hu hy p hp
      refine ⟨l.inherit q, ?_, hkey⟩
      rw [plans_eq resolver ds ht, hplans]
      exact List.mem_append_left _ (List.mem_map_of_mem hq)

end flawless

/-- A getter is missing exactly when an error other than one about its policy was reported for its
member, and a run without reports leaves none out. -/
theorem getter_iff_unreported
    (hn : ∀ d ∈ (merge ds).1, (d.members.map (·.ident.value)).Nodup) (policy : InvalidPolicy) :
    let r := ofDecls resolver ds
    (∀ t ∈ r.types, ∀ p ∈ t.plans,
      ((∃ a ∈ (AccessorSet.ofType t policy).members, a.reads p.key = true) ↔
        ∀ e ∈ r.diagnostics, e.symbol = p.symbol p.origin → e.rule = .policyOnImmutable) ∧
      ∀ a ∈ (AccessorSet.ofType t policy).members, a.reads p.key = true → a = p.getter t.ident false) ∧
    (r.diagnostics = [] → ∀ t ∈ r.types, ∀ d ∈ (merge ds).1,
      ReflTransGen (Extends (merge ds).1) t.ident d.ident → ∀ m ∈ d.members,
        (AccessorSet.ofType t policy).members.countP (·.reads (d.ident, m.ident.value)) = 1) := by
  intro r
  have hgetters : ∀ t ∈ r.types, ∀ p ∈ t.plans, (AccessorSet.ofType t policy).members.filter
      (·.reads p.key) = if p.valid then [p.getter t.ident false] else [] :=
    fun t ht p hp => DataType.filter_reads_key (nodup_keys resolver hn t ht) hp policy
  refine ⟨fun t ht p hp => ⟨?_, ?_⟩, fun h t ht d hd hchain m hm => ?_⟩
  · rw [← valid_iff_unreported resolver hn ht hp]
    have hmem : (∃ a ∈ (AccessorSet.ofType t policy).members, a.reads p.key = true) ↔
        (AccessorSet.ofType t policy).members.filter (·.reads p.key) ≠ [] := by
      rw [Ne, List.filter_eq_nil_iff]
      push Not
      rfl
    rw [hmem, hgetters t ht p hp]
    cases p.valid <;> simp
  · intro a ha hreads
    have hmem : a ∈ (AccessorSet.ofType t policy).members.filter (·.reads p.key) :=
      List.mem_filter.mpr ⟨ha, hreads⟩
    rw [hgetters t ht p hp] at hmem
    split at hmem
    · exact List.mem_singleton.mp hmem
    · cases hmem
  · obtain ⟨u, hu, hown⟩ := forall₂_ownPlans resolver ds hd
    obtain ⟨hu, hident⟩ := DataType.mem_of_find? hu
    obtain ⟨o, ho, hjudged⟩ := (exists_mem_of_forall₂ hown).1 _ (List.mem_map_of_mem hm)
    obtain ⟨q, hq, hkey⟩ := exists_plan_of_reaches resolver h hchain t ht rfl u hu hident o
      (DataType.mem_ownPlans.mp ho).1
    have hqm : q.key = (d.ident, m.ident.value) := hkey.trans hjudged.sameMember.key_eq
    have hvalid : q.valid = true :=
      (valid_iff_unreported resolver hn ht hq).mpr fun e he => by rw [h] at he; cases he
    rw [← hqm, List.countP_eq_length_filter, hgetters t ht q hq, hvalid]
    rfl

section
open Example

/-- A ghost loses one of its getters and is told so; a wizard has the getter of a hero. -/
theorem getter_iff_unreported_ghost :
    let run := ofDecls fun _ _ => .resolved
    let r := run [ghost, hero, wizard]
    (∀ t ∈ r.types, ∀ p ∈ t.plans,
      ((∃ a ∈ (AccessorSet.ofType t .stub).members, a.reads p.key = true) ↔
        ∀ e ∈ r.diagnostics, e.symbol = p.symbol p.origin → e.rule = .policyOnImmutable) ∧
      ∀ a ∈ (AccessorSet.ofType t .stub).members, a.reads p.key = true → a = p.getter t.ident false) ∧
    (∃ e ∈ r.diagnostics, e.symbol = "Ghost._sight" ∧ e.rule ≠ .policyOnImmutable) ∧
    ∀ t ∈ (run [hero, wizard]).types, t.ident = wizard.ident →
      (AccessorSet.ofType t .skip).members.countP (·.reads (hero.ident, .plain "_name")) = 1 := by
  intro run r
  have hmerge : ∀ ds : List TypeDecl, (ds.map (·.ident)).Nodup → (merge ds).1 = ds :=
    fun ds h => congrArg Prod.fst (merge_of_nodup ds h)
  have hghost := hmerge [ghost, hero, wizard] (by decide)
  have hwizard := hmerge [hero, wizard] (by decide)
  refine ⟨(getter_iff_unreported _ (by rw [hghost]; decide) .stub).1, by decide +kernel,
    fun t ht hident => ?_⟩
  have hchain : ReflTransGen (Extends (merge [hero, wizard]).1) t.ident hero.ident := by
    rw [hwizard, hident]
    exact .single ⟨wizard, by simp, rfl, rfl⟩
  exact (getter_iff_unreported _ (by rw [hwizard]; decide) .skip).2 (by decide +kernel) t ht
    hero (by simp [hwizard]) hchain (field "_name" "String") List.mem_cons_self

end

end Run

end AccessorSchema
