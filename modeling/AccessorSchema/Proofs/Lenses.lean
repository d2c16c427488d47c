import AccessorSchema.Accessor.Meaning
import AccessorSchema.Example.Small
import AccessorSchema.Proofs.Exposure
import AccessorSchema.Proofs.Synthesis

/-! # Accessors as lenses

A field holds what was last put into it (`Store.after_apply`).  The accessors of a type that are no
stubs belong to its valid plans, and two of these share a field exactly when they share an exposed name
(`Run.exposed_eq_iff`).  So whatever setters are called in whatever order, a getter hands out what the
setter of its own name wrote last, in the way of its kind, and no other setter matters
(`Run.read_after`). -/

namespace AccessorSchema

open TypeDecl

/-! ### Calls of setters -/

namespace Store

variable {α : Type}

/-- The store after calls of accessors with the given values, one after the other. -/
def after (s : Store α) (calls : List (Accessor × α)) : Store α :=
  calls.foldl (fun s c => c.1.write c.2 s) s

theorem after_snoc (s : Store α) (calls : List (Accessor × α)) (c : Accessor × α) :
    s.after (calls ++ [c]) = c.1.write c.2 (s.after calls) := by
  rw [after, List.foldl_append]
  rfl

/-- A field holds the value of the last call that wrote it. -/
theorem after_apply (s : Store α) {calls : List (Accessor × α)} (h : ∀ c ∈ calls, c.1.isSetter = true)
    (x : Ident) :
    s.after calls x = ((calls.filter (·.1.backing == x)).getLast?.map (·.2)).getD (s x) := by
  induction calls using List.reverseRecOn with
  | nil => rfl
  | append_singleton calls c ih =>
      have hset : c.1.isSetter = true := h c (by simp)
      have hbefore := ih fun b hb => h b (List.mem_append_left _ hb)
      rw [after_snoc, Accessor.write, if_pos hset, set, List.filter_append, List.filter_singleton]
      by_cases hx : c.1.backing = x
      · simp [hx]
      · have hne : (c.1.backing == x) = false := beq_eq_false_iff_ne.mpr hx
        have hne' : (x == c.1.backing) = false := beq_eq_false_iff_ne.mpr (Ne.symm hx)
        simp only [hne, hne', Bool.false_eq_true, if_false, cond_false, List.append_nil]
        exact hbefore

end Store

/-- The value of the last call under an exposed name. -/
def lastWritten? {α : Type} (exposed : String) (calls : List (Accessor × α)) : Option α :=
  (calls.filter (·.1.exposed == exposed)).getLast?.map (·.2)

theorem lastWritten?_filter {α : Type} (exposed : String) (calls : List (Accessor × α)) :
    lastWritten? exposed (calls.filter (·.1.exposed == exposed)) = lastWritten? exposed calls := by
  unfold lastWritten?
  rw [List.filter_filter]
  simp only [Bool.and_self]

/-- What the getter of a plan hands out for the value of the field. -/
def FieldPlan.result {α β : Type} (m : Meaning α β) (p : FieldPlan) (v : α) : β :=
  match p.kind with
  | .scalar => m.value v
  | .converted c => m.convert c p.ty.value v
  | .view _ _ => m.view v

theorem FieldPlan.read?_getter {α β : Type} (m : Meaning α β) (p : FieldPlan) (owner : Ident)
    (stubbed : Bool) (s : Store α) :
    (p.getter owner stubbed).read? m s = some (p.result m (s p.backing.value)) := by
  unfold getter Accessor.read? readAction result
  cases p.kind <;> rfl

open FieldPlan

/-! ### Runs -/

namespace Run

variable (resolver : Resolver) {ds : List TypeDecl}

/-- Valid plans of a type share a field exactly when they share an exposed name. -/
theorem exposed_eq_iff {t : DataType} (ht : t ∈ (ofDecls resolver ds).types) {p q : FieldPlan}
    (hp : p ∈ t.validPlans) (hq : q ∈ t.validPlans) :
    q.name.exposed = p.name.exposed ↔ q.backing.value = p.backing.value := by
  constructor
  · intro h
    rw [List.inj_on_of_nodup_map (nodup_exposed resolver t ht) hq hp h]
  · intro h
    rw [List.inj_on_of_nodup_map (nodup_backing resolver ht) hq hp h]

/-- Setters and getters of a type meet in a field exactly when they have one exposed name. -/
theorem setter_of_exposed {t : DataType} (ht : t ∈ (ofDecls resolver ds).types) {policy : InvalidPolicy}
    {a : Accessor} (ha : a ∈ (AccessorSet.ofType t policy).setters) {p : FieldPlan} (hp : p ∈ t.validPlans) :
    (a.exposed = p.name.exposed ↔ a.backing = p.backing.value) ∧ a.isSetter = true ∧
      (a.exposed = p.name.exposed → a = p.setter t.ident false) := by
  rw [AccessorSet.setters_ofType] at ha
  obtain ⟨q, hq, rfl⟩ := List.mem_map.mp ha
  have hq := List.mem_of_mem_filter hq
  refine ⟨exposed_eq_iff resolver ht hp hq, rfl, fun h => ?_⟩
  rw [List.inj_on_of_nodup_map (nodup_exposed resolver t ht) hq hp h]

/-- After any calls of setters a getter hands out the value that the setter of its name wrote last, or
the one from before; calls of other setters make no difference. -/
theorem read_after {t : DataType} (ht : t ∈ (ofDecls resolver ds).types) (policy : InvalidPolicy)
    {α β : Type} (m : Meaning α β) (s : Store α) {calls : List (Accessor × α)}
    (hcalls : ∀ c ∈ calls, c.1 ∈ (AccessorSet.ofType t policy).setters)
    {g : Accessor} (hg : g ∈ (AccessorSet.ofType t policy).getters) :
    (∃ p ∈ t.validPlans, g = p.getter t.ident false ∧
      (∀ a ∈ (AccessorSet.ofType t policy).setters, a.exposed = g.exposed → a = p.setter t.ident false) ∧
      g.read? m (s.after calls) =
        some (p.result m ((lastWritten? g.exposed calls).getD (s p.backing.value)))) ∧
    g.read? m (s.after calls) = g.read? m (s.after (calls.filter (·.1.exposed == g.exposed))) := by
  rw [AccessorSet.getters_ofType] at hg
  obtain ⟨p, hp, rfl⟩ := List.mem_map.mp hg
  -- for any calls, since the last part compares two sequences of them
  have hread : ∀ calls : List (Accessor × α), (∀ c ∈ calls, c.1 ∈ (AccessorSet.ofType t policy).setters) →
      (p.getter t.ident false).read? m (s.after calls) =
        some (p.result m ((lastWritten? p.name.exposed calls).getD (s p.backing.value))) := by
    intro calls hcalls
    have hsame : calls.filter (·.1.backing == p.backing.value) =
        calls.filter (·.1.exposed == p.name.exposed) := by
      refine List.filter_congr fun c hc => ?_
      have hmeet := (setter_of_exposed resolver ht (hcalls c hc) hp).1
      exact Bool.eq_iff_iff.mpr (by simpa using hmeet.symm)
    rw [read?_getter, Store.after_apply s fun c hc => (setter_of_exposed resolver ht (hcalls c hc) hp).2.1,
      hsame]
    rfl
  refine ⟨⟨p, hp, rfl, fun a ha => (setter_of_exposed resolver ht ha hp).2.2, hread calls hcalls⟩, ?_⟩
  have hother := hread (calls.filter (·.1.exposed == p.name.exposed)) fun c hc =>
    hcalls c (List.mem_of_mem_filter hc)
  rw [lastWritten?_filter] at hother
  exact (hread calls hcalls).trans hother.symm

open Example in
/-- A knight's sword does not get into the way of the name that a knight has as a hero. -/
theorem read_after_knight :
    let r := ofDecls (fun _ _ => .resolved) [hero, knight]
    ∃ t ∈ r.types, ∃ name ∈ (AccessorSet.ofType t .skip).setters,
      ∃ sword ∈ (AccessorSet.ofType t .skip).setters, ∃ g ∈ (AccessorSet.ofType t .skip).getters,
        (name.exposed = "Name" ∧ sword.exposed = "Sword" ∧ g.exposed = "Name") ∧
          g.read? ⟨id, fun _ _ v => v, id⟩
            (Store.after (fun _ => 0) [(name, 1), (sword, 2), (name, 3), (sword, 4)]) = some 3 := by
  intro r
  have ht : ∃ t ∈ r.types, ∃ name ∈ (AccessorSet.ofType t .skip).setters,
      ∃ sword ∈ (AccessorSet.ofType t .skip).setters, ∃ g ∈ (AccessorSet.ofType t .skip).getters,
        name.exposed = "Name" ∧ sword.exposed = "Sword" ∧ g.exposed = "Name" := by
    decide +kernel
  obtain ⟨t, ht, name, hname, sword, hsword, g, hg, hn, hs, hx⟩ := ht
  refine ⟨t, ht, name, hname, sword, hsword, g, hg, ⟨hn, hs, hx⟩, ?_⟩
  have hcalls : ∀ c ∈ [(name, 1), (sword, 2), (name, 3), (sword, 4)],
      c.1 ∈ (AccessorSet.ofType t .skip).setters := by
    simp [hname, hsword]
  obtain ⟨⟨p, -, -, -, hread⟩, -⟩ :=
    read_after _ ht .skip ⟨id, fun _ _ v => v, id⟩ (fun _ => 0) hcalls hg
  have hlast : lastWritten? g.exposed [(name, 1), (sword, 2), (name, 3), (sword, 4)] = some 3 := by
    simp [lastWritten?, hx, hn, hs]
  rw [hread, hlast]
  unfold FieldPlan.result
  cases p.kind <;> rfl

end Run

end AccessorSchema
