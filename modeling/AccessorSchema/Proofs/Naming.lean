import AccessorSchema.Proofs.Derivation
import AccessorSchema.Proofs.Provenance
import AccessorSchema.Schema.Lift

/-! # Runs that can name all their methods

Methods can be named after most members (`isNameable`), and a run breaks off at the first after which they
cannot.  Layer by layer, from the plan of a member to the whole run, what may break off gives a result exactly
if methods can be named after all the members it looks at, and then the result is what the definition without
errors says (`classify?_gives`, `compile?_gives`, `compileAll?_gives`, `ofDecls?_gives`).  So what holds of
`Run.ofDecls` holds of every run that comes to its end, which moreover names all its methods by identifiers
(`isIdent_of_ofDecls?`).  A run that does not was broken off by a member (`ofDecls?_failsWith`). -/

namespace AccessorSchema

open TypeDecl

/-! ### Results that may be missing -/

section results
variable {ε α β : Type}

theorem bind_eq_ok_iff {x : Except ε α} {f : α → Except ε β} {b : β} :
    (x >>= f) = .ok b ↔ ∃ a, x = .ok a ∧ f a = .ok b := by
  cases x with
  | error e => simp [bind, Except.bind]
  | ok a => simp [bind, Except.bind]

theorem bind_eq_error_iff {x : Except ε α} {f : α → Except ε β} {e : ε} :
    (x >>= f) = .error e ↔ x = .error e ∨ ∃ a, x = .ok a ∧ f a = .error e := by
  cases x with
  | error e' => simp [bind, Except.bind]
  | ok a => simp [bind, Except.bind]

/-- The computation gives `a` under the condition `P`, and an error otherwise. -/
def Gives (x : Except ε α) (P : Prop) (a : α) : Prop := ∀ b, x = .ok b ↔ P ∧ b = a

/-- If the computation breaks off, it does so with an error of the kind `Q`. -/
def FailsWith (x : Except ε α) (Q : ε → Prop) : Prop := ∀ e, x = .error e → Q e

variable {x : Except ε α} {f : α → Except ε β} {P P' : Prop} {Q : ε → Prop} {a : α} {b : β}

theorem gives_pure (a : α) : Gives (pure a : Except ε α) True a := fun _ =>
  ⟨fun h => ⟨trivial, (Except.ok.inj h).symm⟩, fun h => congrArg Except.ok h.2.symm⟩

theorem Gives.congr (h : Gives x P a) (hiff : P ↔ P') : Gives x P' a := fun b =>
  (h b).trans (and_congr_left fun _ => hiff)

/-- Of two computations in a row each has its condition. -/
theorem Gives.bind (h : Gives x P a) (hf : Gives (f a) P' b) : Gives (x >>= f) (P ∧ P') b := by
  intro c
  rw [bind_eq_ok_iff]
  constructor
  · rintro ⟨a', ha, hc⟩
    obtain ⟨hP, rfl⟩ := (h a').mp ha
    obtain ⟨hP', rfl⟩ := (hf c).mp hc
    exact ⟨⟨hP, hP'⟩, rfl⟩
  · rintro ⟨⟨hP, hP'⟩, rfl⟩
    exact ⟨a, (h a).mpr ⟨hP, rfl⟩, (hf c).mpr ⟨hP', rfl⟩⟩

theorem Gives.map (h : Gives x P a) (g : α → β) : Gives (x >>= fun a => pure (g a)) P (g a) :=
  (h.bind (gives_pure (g a))).congr (and_iff_left trivial)

theorem Gives.mapM {g : α → β} {p : α → Prop} (h : ∀ a, Gives (f a) (p a) (g a)) (l : List α) :
    Gives (l.mapM f) (∀ a ∈ l, p a) (l.map g) := by
  induction l with
  | nil => exact (gives_pure []).congr (iff_of_true trivial nofun)
  | cons a l ih =>
      rw [List.mapM_cons, List.map_cons]
      exact ((h a).bind (ih.map _)).congr List.forall_mem_cons.symm

theorem Gives.exists_iff (h : Gives x P a) : (∃ b, x = .ok b) ↔ P :=
  ⟨fun ⟨b, hb⟩ => ((h b).mp hb).1, fun hP => ⟨a, (h a).mpr ⟨hP, rfl⟩⟩⟩

theorem failsWith_pure (a : α) : FailsWith (pure a) Q := fun _ h => nomatch h

theorem FailsWith.bind (h : FailsWith x Q) (hf : ∀ a, FailsWith (f a) Q) : FailsWith (x >>= f) Q := by
  intro e he
  rcases bind_eq_error_iff.mp he with he | ⟨a, -, he⟩
  · exact h e he
  · exact hf a e he

theorem FailsWith.mapM {l : List α} (h : ∀ a ∈ l, FailsWith (f a) Q) : FailsWith (l.mapM f) Q := by
  induction l with
  | nil => exact failsWith_pure []
  | cons a l ih =>
      obtain ⟨ha, hl⟩ := List.forall_mem_cons.mp h
      rw [List.mapM_cons]
      exact ha.bind fun b => (ih hl).bind fun bs => failsWith_pure (b :: bs)

end results

/-! ### Members -/

/-- Methods can be named after the identifier: behind its marker nothing is left, or a digit of ASCII comes
first, or what identifiers start with. -/
def Ident.isNameable (x : Ident) : Bool := !AccessorName.losesStart x.name.toList

theorem AccessorName.derive?_eq (x : Ident) :
    derive? x =
      if x.isNameable then .ok (derive x) else .error (.malformed (String.ofList (stem x.name.toList))) := by
  rw [Ident.isNameable]
  cases h : losesStart x.name.toList with
  | false => exact derive?_of_keepsStart h
  | true => exact derive?_of_losesStart h

namespace MemberDecl

variable {resolver : Resolver} {m : MemberDecl} {owner : Ident} {mode : Mode}

/-- Methods can be named after the member. -/
def IsNameable (m : MemberDecl) : Prop := m.ident.value.isNameable = true

instance (m : MemberDecl) : Decidable m.IsNameable := inferInstanceAs (Decidable (_ = true))

variable (resolver m owner mode)

theorem classify?_gives : Gives (m.classify? resolver owner mode) m.IsNameable (m.classify resolver owner mode) := by
  have hname : Gives (AccessorName.derive? m.ident.value) m.IsNameable (.derive m.ident.value) := by
    intro n
    rw [AccessorName.derive?_eq, IsNameable]
    cases m.ident.value.isNameable with
    | true => simp [eq_comm]
    | false => simp
  exact hname.map _

theorem classify?_failsWith :
    FailsWith (m.classify? resolver owner mode) fun e => AccessorName.derive? m.ident.value = .error e :=
  FailsWith.bind (fun _ h => h) fun _ => failsWith_pure _

end MemberDecl

/-! ### Types -/

namespace TypeDecl

/-- Methods can be named after all members. -/
def IsNameable (d : TypeDecl) : Prop := ∀ m ∈ d.members, m.IsNameable

instance (d : TypeDecl) : Decidable d.IsNameable := inferInstanceAs (Decidable (∀ m ∈ _, _))

/-- Merging keeps all members, so it is the same whether fragments are looked at or what becomes of them. -/
theorem forall_isNameable_merge (ds : List TypeDecl) :
    (∀ d ∈ (merge ds).1, d.IsNameable) ↔ ∀ d ∈ ds, d.IsNameable := by
  constructor
  · intro h f hf m hm
    obtain ⟨d, hd, hident⟩ := List.mem_map.mp (names_merge ds ▸ (mem_names ds f.ident).mpr ⟨f, hf, rfl⟩)
    have hfragment : f ∈ fragments ds d.ident := List.mem_filter.mpr ⟨hf, beq_iff_eq.mpr hident.symm⟩
    exact h d hd m ((mem_members_of_mem_merge ds d hd).mpr ⟨f, hfragment, hm⟩)
  · intro h d hd m hm
    obtain ⟨f, hf, hm⟩ := (mem_members_of_mem_merge ds d hd).mp hm
    exact h f (List.mem_of_mem_filter hf) m hm

end TypeDecl

namespace Step

variable {resolver : Resolver} {d : TypeDecl} {cyclic : Bool} {known : List DataType}

variable (resolver d cyclic known)

theorem compile?_gives : Gives (compile? resolver d cyclic known) d.IsNameable (compile resolver d cyclic known) :=
  (Gives.mapM (fun m => m.classify?_gives resolver d.ident d.mode) d.members).map _

theorem compile?_failsWith : FailsWith (compile? resolver d cyclic known) fun e =>
    ∃ m ∈ d.members, AccessorName.derive? m.ident.value = .error e := by
  refine FailsWith.bind (.mapM fun m hm e he => ?_) fun _ => failsWith_pure _
  exact ⟨m, hm, m.classify?_failsWith resolver d.ident d.mode e he⟩

end Step

/-! ### Runs -/

namespace Run

section
variable (resolver : Resolver) (ds : List TypeDecl) (cyclic : List Nat) (known : List DataType) (order : List Nat)

/-- The induction is on the order of compilation; a step is as good as the one without errors, and so are the
types the later steps know. -/
theorem compileAll?_gives : Gives (compileAll? resolver ds cyclic known order)
    (∀ d ∈ order.filterMap (ds[·]?), d.IsNameable) (compileAll resolver ds cyclic known order) := by
  induction order generalizing known with
  | nil => exact (gives_pure []).congr (iff_of_true trivial nofun)
  | cons i order ih =>
      rw [compileAll?, compileAll, List.filterMap_cons]
      cases ds[i]? with
      | none => exact ih known
      | some d =>
          -- The later steps are looked at with the type of this one among those they know.
          have hrest := (ih (known ++ [(Step.compile resolver d (cyclic.contains i) known).data])).map
            (Step.compile resolver d (cyclic.contains i) known :: ·)
          exact ((Step.compile?_gives resolver d _ known).bind hrest).congr List.forall_mem_cons.symm

theorem compileAll?_failsWith : FailsWith (compileAll? resolver ds cyclic known order) fun e =>
    ∃ d ∈ ds, ∃ m ∈ d.members, AccessorName.derive? m.ident.value = .error e := by
  induction order generalizing known with
  | nil => exact failsWith_pure []
  | cons i order ih =>
      rw [compileAll?]
      cases hd : ds[i]? with
      | none => exact ih known
      | some d =>
          have hfirst : FailsWith (Step.compile? resolver d (cyclic.contains i) known) fun e =>
              ∃ d ∈ ds, ∃ m ∈ d.members, AccessorName.derive? m.ident.value = .error e := fun e he =>
            ⟨d, List.mem_of_getElem? hd, Step.compile?_failsWith resolver d _ known e he⟩
          exact hfirst.bind fun s => (ih _).bind fun steps => failsWith_pure (s :: steps)

theorem ofDecls?_eq :
    ofDecls? resolver ds =
      compileAll? resolver (merge ds).1 (Schedule.ofDecls (merge ds).1).cyclic []
        (Schedule.ofDecls (merge ds).1).order >>=
          fun steps => pure ⟨(merge ds).2, Schedule.ofDecls (merge ds).1, steps⟩ := rfl

/-- A run comes to its end exactly if methods can be named after all members, and then it is the run without
errors. -/
theorem ofDecls?_gives : Gives (ofDecls? resolver ds) (∀ d ∈ ds, d.IsNameable) (ofDecls resolver ds) := by
  -- What is compiled is what was declared, merged and in another order.
  have hall : (∀ d ∈ scheduled ds, d.IsNameable) ↔ ∀ d ∈ ds, d.IsNameable := by
    rw [← forall_isNameable_merge ds]
    exact forall_congr' fun d => imp_congr_left (scheduled_perm ds).mem_iff
  exact ((compileAll?_gives resolver (merge ds).1 _ [] _).map _).congr hall

/-- A run that breaks off does so with what is wrong with a name. -/
theorem ofDecls?_failsWith : FailsWith (ofDecls? resolver ds) fun e =>
    ∃ d ∈ ds, ∃ m ∈ d.members, AccessorName.derive? m.ident.value = .error e := by
  refine FailsWith.bind (fun e he => ?_) fun _ => failsWith_pure _
  obtain ⟨d, hd, m, hm, he⟩ := compileAll?_failsWith resolver _ _ _ _ e he
  obtain ⟨f, hf, hm⟩ := (mem_members_of_mem_merge ds d hd).mp hm
  exact ⟨f, List.mem_of_mem_filter hf, m, hm, he⟩

end

variable {resolver : Resolver} {ds : List TypeDecl} {r : Run}

theorem eq_of_ofDecls? (h : ofDecls? resolver ds = .ok r) : r = ofDecls resolver ds :=
  ((ofDecls?_gives resolver ds r).mp h).2

theorem ofDecls?_ne_ok (h : ¬∀ d ∈ ds, d.IsNameable) : ofDecls? resolver ds ≠ .ok r := fun hr =>
  h ((ofDecls?_gives resolver ds r).mp hr).1

/-- All methods of a run that comes to its end are named by identifiers. -/
theorem isIdent_of_ofDecls? (h : ofDecls? resolver ds = .ok r) {t : DataType} (ht : t ∈ r.types)
    {p : FieldPlan} (hp : p ∈ t.plans) : p.name.getter.isIdent = true ∧ p.name.setter.isIdent = true := by
  obtain ⟨hds, rfl⟩ := (ofDecls?_gives resolver ds r).mp h
  obtain ⟨d, hd, m, hm, hsame⟩ := exists_member resolver ds ht hp
  have hnameable : m.IsNameable := (forall_isNameable_merge ds).mpr hds d hd m hm
  have hname : AccessorName.derive? m.ident.value = .ok p.name := by
    rw [hsame.name, AccessorName.derive?_eq]
    exact if_pos hnameable
  exact AccessorName.isIdent_of_derive? hname

end Run

theorem Schema.run?_gives (s : Schema) : Gives s.run? (∀ d ∈ s.decls, d.IsNameable) s.run :=
  Run.ofDecls?_gives s.symbols.resolve s.decls

end AccessorSchema
