import AccessorSchema.Proofs.Steps
import AccessorSchema.Proofs.Verdict
import Mathlib.Data.List.TakeWhile

/-! # What a diagnostic is about

Each diagnostic of a run names the type it is about, or one of its members behind a dot.  Identifiers
hold no dot and differ in spelling (`dot_notMem_text`, `text_inj`), so the text before the first dot
tells the type (`owner_eq_iff`).  All that the compilation of a type reports is about that type
(`isAbout_of_mem_step`), and what is wrong with its fragments is (`symbol_of_mem_mergeGroup`). -/

namespace AccessorSchema

namespace Text

theorem notMem_of_isIdentText {c : Char} (hc : isIdentContinue c = false) {cs : List Char}
    (h : isIdentText cs = true) : c ∉ cs := by
  have hstart : isIdentStart c = false := (Bool.or_eq_false_iff.mp hc).1
  cases cs with
  | nil => exact List.not_mem_nil
  | cons d rest =>
      rw [isIdentText, Bool.and_eq_true, List.all_eq_true] at h
      intro hm
      rcases List.mem_cons.mp hm with rfl | hm
      · exact absurd h.1 (by simp [hstart])
      · exact absurd (h.2 _ hm) (by simp [hc])

end Text

namespace Ident

theorem isIdentText (x : Ident) : Text.isIdentText x.name.toList = true := (Bool.and_eq_true_iff.mp x.valid).1

/-- An identifier holds nothing but what identifiers are made of, and the mark of a raw one. -/
theorem notMem_text (x : Ident) {c : Char} (hc : Text.isIdentContinue c = false) (hmark : c ≠ '#') :
    c ∉ x.text.toList := by
  have hletter : c ≠ 'r' := by
    rintro rfl
    exact absurd hc (by decide)
  have hname : c ∉ x.name.toList := Text.notMem_of_isIdentText hc x.isIdentText
  unfold Label.text
  split
  · simp [String.toList_append, hletter, hmark, hname]
  · exact hname

theorem dot_notMem_text (x : Ident) : '.' ∉ x.text.toList := x.notMem_text (by decide) (by decide)

theorem ofText_text (x : Ident) : Label.ofText x.text = x.toLabel := by
  have hmark : '#' ∉ x.name.toList := Text.notMem_of_isIdentText (by decide) x.isIdentText
  obtain ⟨⟨name, raw⟩, valid⟩ := x
  cases raw with
  | true => simp [Label.ofText, Label.text, String.toList_append]
  | false =>
      simp only [Label.ofText, Label.text, Bool.false_eq_true, if_false]
      split
      next rest hcs => exact absurd (by simp [hcs]) hmark
      next => rfl

/-- Reading the text of an identifier gives it back. -/
theorem ofText?_text (x : Ident) : ofText? x.text = some x := by
  rw [ofText?, ofText_text]
  exact dif_pos x.valid

theorem text_inj {x y : Ident} (h : x.text = y.text) : x = y := by
  have hxy := x.ofText?_text
  rw [h, y.ofText?_text] at hxy
  exact (Option.some.inj hxy).symm

end Ident

namespace Diagnostic

/-- The symbol up to its first dot. -/
def owner (e : Diagnostic) : String := String.ofList (e.symbol.toList.takeWhile (· != '.'))

/-- The symbol is a type, or a member of it. -/
def IsAbout (e : Diagnostic) (x : Ident) : Prop :=
  e.symbol = x.text ∨ ∃ member, e.symbol = x.text ++ "." ++ member

theorem owner_of_isAbout {e : Diagnostic} {x : Ident} (h : e.IsAbout x) :
    e.owner = x.text := by
  have hall : ∀ c ∈ x.text.toList, (c != '.') = true := fun c hc =>
    bne_iff_ne.mpr fun hdot => x.dot_notMem_text (hdot ▸ hc)
  unfold owner
  rcases h with h | ⟨member, h⟩
  · rw [h, List.takeWhile_eq_self_iff.mpr hall, String.ofList_toList]
  · rw [h, String.toList_append, String.toList_append, List.append_assoc,
      List.takeWhile_append_of_pos hall]
    simp

theorem isAbout_of_owner {e : Diagnostic} {x : Ident} (h : e.owner = x.text) : e.IsAbout x := by
  have hsplit := List.takeWhile_append_dropWhile (p := (· != '.')) (l := e.symbol.toList)
  have hfront : e.symbol.toList.takeWhile (· != '.') = x.text.toList := by
    rw [← h, owner, String.toList_ofList]
  rw [hfront] at hsplit
  cases hrest : e.symbol.toList.dropWhile (· != '.') with
  | nil =>
      rw [hrest, List.append_nil] at hsplit
      exact .inl (String.toList_inj.mp hsplit.symm)
  | cons c member =>
      have hc : c = '.' := by
        have := List.head?_dropWhile_not (· != '.') e.symbol.toList
        simpa [hrest] using this
      refine .inr ⟨String.ofList member, String.toList_inj.mp ?_⟩
      rw [← hsplit, hrest, hc]
      simp [String.toList_append]

/-- The text before the first dot tells the type a diagnostic is about. -/
theorem owner_eq_iff {e : Diagnostic} {x : Ident} : e.owner = x.text ↔ e.IsAbout x :=
  ⟨isAbout_of_owner, owner_of_isAbout⟩

end Diagnostic

/-! ### Reports on plans -/

theorem FieldPlan.isAbout_of_symbol {owner : Ident} {p : FieldPlan} {e : Diagnostic}
    (h : e.symbol = p.symbol owner) : e.IsAbout owner :=
  .inr ⟨p.backing.value.text, h⟩

namespace DataType

/-- The checks on names report own plans that they make invalid. -/
theorem exists_of_mem_checkNames {owner : Ident} {seen : List (String × Ident)}
    {plans : List FieldPlan} {e : Diagnostic} (h : e ∈ (checkNames owner seen plans).2) :
    e.rule = .duplicateAccessor ∧ ∃ q ∈ (checkNames owner seen plans).1,
      q.isInheritedBy owner = false ∧ q.valid = false ∧ e.symbol = q.symbol owner := by
  induction plans generalizing seen with
  | nil => cases h
  | cons p rest ih =>
      cases hl : seen.lookup p.name.exposed with
      | none =>
          rw [checkNames_of_new hl] at h ⊢
          obtain ⟨hrule, q, hq, hreport⟩ := ih h
          exact ⟨hrule, q, List.mem_cons_of_mem _ hq, hreport⟩
      | some first =>
          cases hp : p.isInheritedBy owner with
          | true =>
              rw [checkNames_of_inherited hl hp] at h ⊢
              obtain ⟨hrule, q, hq, hreport⟩ := ih h
              exact ⟨hrule, q, List.mem_cons_of_mem _ hq, hreport⟩
          | false =>
              rw [checkNames_of_duplicate hl hp] at h ⊢
              rcases List.mem_cons.mp h with rfl | h
              · exact ⟨rfl, _, List.mem_cons_self, hp, rfl, rfl⟩
              · obtain ⟨hrule, q, hq, hreport⟩ := ih h
                exact ⟨hrule, q, List.mem_cons_of_mem _ hq, hreport⟩

theorem isAbout_of_mem_validate {t : DataType} {e : Diagnostic} (h : e ∈ t.validate.2) :
    e.IsAbout t.ident := by
  unfold validate at h
  split at h
  · cases h
  · rcases List.mem_append.mp h with h | h
    · obtain ⟨p, -, h⟩ := List.mem_flatMap.mp h
      exact FieldPlan.isAbout_of_symbol (FieldPlan.symbol_of_mem_reports h)
    · obtain ⟨-, q, -, -, -, hsymbol⟩ := exists_of_mem_checkNames h
      exact FieldPlan.isAbout_of_symbol hsymbol

end DataType

/-! ### Reports on types -/

theorem BaseState.symbol_of_mem_report? {d : TypeDecl} {c : Bool} {known : List DataType}
    {e : Diagnostic} (h : e ∈ (BaseState.ofDecl d c known).report?) : e.symbol = d.ident.text := by
  obtain ⟨b, fault, rfl⟩ := exists_fault_of_mem_report? h
  cases fault <;> rfl

theorem Step.isAbout_of_mem_step {resolver : Resolver} {d : TypeDecl} {c : Bool}
    {known : List DataType} {e : Diagnostic}
    (h : e ∈ (Step.compile resolver d c known).diagnostics) : e.IsAbout d.ident := by
  rcases List.mem_append.mp h with h | h
  · exact .inl (BaseState.symbol_of_mem_report? (Option.mem_toList.mp h))
  · exact DataType.isAbout_of_mem_validate (t := DataType.resolve d _ _) h

theorem TypeDecl.symbol_of_mem_absorbAll {d : TypeDecl} {fs : List TypeDecl} {e : Diagnostic}
    (h : e ∈ (d.absorbAll fs).2) : e.symbol = d.ident.text := by
  induction fs generalizing d with
  | nil => cases h
  | cons f rest ih =>
      rcases List.mem_append.mp h with h | h
      · unfold conflict? at h
        split at h
        · split at h
          · cases h
          · obtain rfl := Option.some.inj (Option.mem_toList.mp h)
            rfl
        · cases h
      · exact ih (d := d.absorb f) h

theorem TypeDecl.symbol_of_mem_mergeGroup {fs : List TypeDecl} {m : TypeDecl × List Diagnostic}
    (hm : mergeGroup fs = some m) {e : Diagnostic} (h : e ∈ m.2) : e.symbol = m.1.ident.text := by
  unfold mergeGroup at hm
  split at hm
  · cases hm
  · obtain rfl := Option.some.inj hm
    rw [absorbAll_ident]
    exact symbol_of_mem_absorbAll h

end AccessorSchema
