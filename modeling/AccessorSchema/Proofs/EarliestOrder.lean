import AccessorSchema.Proofs.BaseChain
import Mathlib.Data.List.Lex
import Mathlib.Data.List.Sort
import Mathlib.Order.Bounds.Basic

/-! # The earliest order

Names may be declared more than once here; the last declaration is the base of that name (`BaseOf`).  An
order of all types arranges them if each stands behind its base, the cyclic ones apart (`Arranges`).
The schedule is one, and since the type placed next is always the first of those that may be
(`place_isEarliest`), it is the first of all such orders, compared place by place. -/

namespace AccessorSchema

open Relation

/-! ### Orders of declarations -/

namespace TypeDecl

/-- `i` stands behind its base if it has one that it does not descend from in a circle. -/
structure Arranges (ds : List TypeDecl) (order : List Nat) : Prop where
  perm : order.Perm (List.range ds.length)
  behind : ∀ i j, BaseOf ds i j → ¬TransGen (BaseOf ds) i i → order.idxOf j < order.idxOf i

/-- The types that may come next behind `placed`. -/
def candidates (ds : List TypeDecl) (placed : List Nat) : Set Nat :=
  {i | i < ds.length ∧ i ∉ placed ∧ ∀ j, BaseOf ds i j → ¬TransGen (BaseOf ds) i i → j ∈ placed}

end TypeDecl

/-! ### Lists -/

theorem idxOf_lt_idxOf_iff {l pre post : List Nat} {i j : Nat} (h : l = pre ++ i :: post) (hi : i ∉ pre) :
    l.idxOf j < l.idxOf i ↔ j ∈ pre := by
  have hlast : l.idxOf i = pre.length := by
    rw [h, List.idxOf_append_of_notMem hi, List.idxOf_cons_self, Nat.add_zero]
  rw [hlast, h]
  constructor
  · intro hlt
    by_contra hj
    rw [List.idxOf_append_of_notMem hj] at hlt
    omega
  · intro hj
    rw [List.idxOf_append_of_mem hj]
    exact List.idxOf_lt_length_of_mem hj

/-- Lists are compared at the first place where they differ. -/
theorem le_of_forall_split {l l' : List Nat} (hlen : l.length = l'.length)
    (h : ∀ pre i post j post', l = pre ++ i :: post → l' = pre ++ j :: post' → i ≤ j) : l ≤ l' := by
  induction l generalizing l' with
  | nil =>
      obtain rfl : l' = [] := List.length_eq_zero_iff.mp hlen.symm
      exact le_rfl
  | cons i l ih =>
      cases l' with
      | nil => cases hlen
      | cons j l' =>
          rcases Nat.lt_or_eq_of_le (h [] i l j l' rfl rfl) with hlt | rfl
          · exact le_of_lt (List.Lex.rel hlt)
          · refine List.cons_le_cons i (ih (Nat.succ.inj hlen) fun pre i' post j' post' hl hl' => ?_)
            exact h (i :: pre) i' post j' post' (congrArg _ hl) (congrArg _ hl')

namespace Schedule

open TypeDecl

/-! ### Placing the first one that is ready -/

section
variable {parents : List (Option Nat)} {placed order : List Nat} {i : Nat}

/-- The types that wait for nobody outside `placed`. -/
def Ready (parents : List (Option Nat)) (placed : List Nat) : Set Nat :=
  {i | i < parents.length ∧ i ∉ placed ∧ ∀ j, awaited? parents i = some j → j ∈ placed}

theorem find?_ready_eq_some_iff :
    (List.range (waiting parents).length).find?
        (isReady (waiting parents) placed) = some i ↔
      IsLeast (Ready parents placed) i := by
  rw [List.length_map, List.length_range, List.find?_range_eq_some]
  constructor
  · rintro ⟨hready, hi, hmin⟩
    have hi := List.mem_range.mp hi
    refine ⟨⟨hi, (isReady_iff hi).mp hready⟩, fun k hk => ?_⟩
    by_contra hlt
    have := hmin k (Nat.lt_of_not_le hlt)
    rw [(isReady_iff hk.1).mpr hk.2] at this
    cases this
  · rintro ⟨⟨hi, hready⟩, hmin⟩
    refine ⟨(isReady_iff hi).mpr hready, List.mem_range.mpr hi, fun k hk => ?_⟩
    rw [Bool.not_eq_true', ← Bool.not_eq_true]
    intro hkready
    have hklt := Nat.lt_trans hk hi
    exact absurd (hmin ⟨hklt, (isReady_iff hklt).mp hkready⟩) (Nat.not_le_of_lt hk)

/-- Each type is the first one that was ready when its turn came. -/
def IsEarliest (parents : List (Option Nat)) (order : List Nat) : Prop :=
  ∀ pre i post, order = pre ++ i :: post → IsLeast (Ready parents pre) i

theorem IsEarliest.snoc (h : IsEarliest parents placed) (hi : IsLeast (Ready parents placed) i) :
    IsEarliest parents (placed ++ [i]) :=
  forall_split_snoc h hi

theorem place_isEarliest (count : Nat) (h : IsEarliest parents placed) :
    IsEarliest parents (place (waiting parents) count placed) := by
  induction count generalizing placed with
  | zero => exact h
  | succ count ih =>
      rw [place]
      split
      next i hi => exact ih (h.snoc (find?_ready_eq_some_iff.mp hi))
      next => exact h

theorem order_isEarliest (parents : List (Option Nat)) : IsEarliest parents (ofParents parents).order := by
  refine place_isEarliest _ fun pre i post h => ?_
  cases pre <;> cases h

/-- In an order that keeps everybody waiting for long enough, each type was ready when its turn came. -/
theorem InOrder.mem_ready (h : InOrder parents order) {pre post : List Nat}
    (heq : order = pre ++ i :: post) : i ∈ Ready parents pre := by
  have hn := h.nodup
  rw [heq, List.nodup_append] at hn
  exact ⟨h.lt i (by simp [heq]), fun hi => hn.2.2 i hi i List.mem_cons_self rfl, h.waits pre i post heq⟩

/-- Of two orders, the one that always places the first ready type comes first. -/
theorem IsEarliest.le (h : IsEarliest parents order) {order' : List Nat} (h' : InOrder parents order')
    (hlen : order.length = order'.length) : order ≤ order' :=
  le_of_forall_split hlen fun pre i post _ _ heq heq' => (h pre i post heq).2 (h'.mem_ready heq')

end

/-! ### Declarations -/

variable {ds : List TypeDecl} {i j : Nat}

/-- A type is cyclic when going from base to base comes back to it. -/
theorem isCyclic_iff_transGen : isCyclic (parents ds) i = true ↔ TransGen (BaseOf ds) i i := by
  have hparent : HasParent (parents ds) = BaseOf ds := funext₂ fun _ _ => propext hasParent_iff_baseOf
  rw [isCyclic_iff (inRange_parents ds), hparent]

/-- A type waits for its base unless it is cyclic. -/
theorem awaited?_parents_eq_some :
    awaited? (parents ds) i = some j ↔ BaseOf ds i j ∧ ¬TransGen (BaseOf ds) i i := by
  rw [awaited?_eq_some, hasParent_iff_baseOf, ← isCyclic_iff_transGen, Bool.not_eq_true, and_comm]

theorem ready_parents (ds : List TypeDecl) (placed : List Nat) :
    Ready (parents ds) placed = candidates ds placed := by
  unfold Ready candidates
  simp only [parents_length, awaited?_parents_eq_some, and_imp]

theorem arranges_iff {order : List Nat} :
    Arranges ds order ↔ InOrder (parents ds) order ∧ order.length = (parents ds).length := by
  constructor
  · intro h
    have hn : order.Nodup := h.perm.nodup_iff.mpr List.nodup_range
    rw [parents_length]
    refine ⟨⟨hn, fun i hi => ?_, fun pre i post heq j hj => ?_⟩, by simpa using h.perm.length_eq⟩
    · rw [parents_length]
      exact List.mem_range.mp (h.perm.mem_iff.mp hi)
    · rw [heq, List.nodup_append] at hn
      obtain ⟨hbase, hacyclic⟩ := awaited?_parents_eq_some.mp hj
      exact (idxOf_lt_idxOf_iff heq fun hi => hn.2.2 i hi i List.mem_cons_self rfl).mp
        (h.behind i j hbase hacyclic)
  · rintro ⟨h, hlen⟩
    have hperm := h.perm hlen
    rw [parents_length] at hperm
    refine ⟨hperm, fun i j hbase hacyclic => ?_⟩
    have hi : i ∈ order := by
      obtain ⟨d, -, hd, -⟩ := hbase
      exact hperm.mem_iff.mpr (List.mem_range.mpr (List.getElem?_eq_some_iff.mp hd).1)
    obtain ⟨pre, post, heq⟩ := List.append_of_mem hi
    have hready := h.mem_ready heq
    exact (idxOf_lt_idxOf_iff heq hready.2.1).mpr
      (hready.2.2 j (awaited?_parents_eq_some.mpr ⟨hbase, hacyclic⟩))

end Schedule

end AccessorSchema
